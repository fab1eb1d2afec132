import PersonalNames.Pattern.Token
import PersonalNames.Text.Utf8

/-! # Lexemes of the pattern language

The text of a pattern falls into lexemes without regard to their nesting.
Letters, parentheses, the backslash and the condition signs are reserved; a
maximal run of other characters is literal text, and a backslash makes literal
text of any character.  The one-letter codes are

* `t g m f s c` for the six kinds of components, `x y z` for the initials of
  given, middle and family name, `e` and `E` for given or family name and the
  other way round; a star behind any of them asks for the initial;
* `i j k` for the three separators;
* `L U F G T B b` for modifiers.

`scan` reads all lexemes of a text, and `spelling` gives back the text of each;
`flatMap_spelling_scan` says that together they spell the text. -/
namespace PersonalNames

/-- A lexeme of the pattern language. -/
inductive Lexeme where
  | condition (c : Condition)
  | modifier (m : Modifier)
  | opening
  | closing
  | separator (index : Nat)
  /-- A component code and whether a star follows it. -/
  | component (code : Char) (starred : Bool)
  | escaped (c : Char)
  | run (text : List Char)
  /-- A letter that is no code. -/
  | unknown (c : Char)
  /-- A backslash at the end of the text. -/
  | danglingEscape
deriving DecidableEq, Repr

namespace Lexeme

/-- The source of a component code. -/
def source? : Char → Option Source
  | 't' => some (.single .title)
  | 'g' | 'x' => some (.single .given)
  | 'm' | 'y' => some (.single .middle)
  | 'f' | 'z' => some (.single .family)
  | 's' => some (.single .generational)
  | 'c' => some (.single .credentials)
  | 'e' => some (.either .given .family)
  | 'E' => some (.either .family .given)
  | _ => none

/-- Whether a component code asks for the initial without a star. -/
def isInitialCode (c : Char) : Bool :=
  c = 'x' || c = 'y' || c = 'z'

/-- The separator of a code. -/
def separator? : Char → Option Nat
  | 'i' => some 1
  | 'j' => some 2
  | 'k' => some 3
  | _ => none

/-- Whether a character has a meaning of its own and must be escaped to stand
for itself. -/
def isReserved (c : Char) : Bool :=
  c.isAlpha || c = '(' || c = ')' || c = '\\' || (Condition.ofCode? c).isSome

/-- The lexeme that starts with a character other than the backslash, as far as
that character alone decides it. -/
def ofChar (c : Char) : Lexeme :=
  match Condition.ofCode? c, Modifier.ofCode? c, separator? c with
  | some sign, _, _ => .condition sign
  | none, some change, _ => .modifier change
  | none, none, some index => .separator index
  | none, none, none =>
    if c = '(' then .opening
    else if c = ')' then .closing
    else if (source? c).isSome then .component c false
    else if c.isAlpha then .unknown c
    else .run [c]

/-- The lexemes of a text. -/
def scan : List Char → List Lexeme
  | [] => []
  | c :: rest =>
    if c = '\\' then
      match rest with
      | [] => [.danglingEscape]
      | d :: rest => .escaped d :: scan rest
    else
      match ofChar c with
      | .component code _ =>
        match rest with
        | '*' :: rest => .component code true :: scan rest
        | rest => .component code false :: scan rest
      | .run text =>
        match scan rest with
        | .run more :: lexemes => .run (text ++ more) :: lexemes
        | lexemes => .run text :: lexemes
      | lexeme => lexeme :: scan rest

/-- The text of a lexeme. -/
def spelling : Lexeme → List Char
  | condition c => [c.code]
  | modifier m => [m.code]
  | opening => ['(']
  | closing => [')']
  | separator 1 => ['i']
  | separator 2 => ['j']
  | separator _ => ['k']
  | component code true => [code, '*']
  | component code false => [code]
  | escaped c => ['\\', c]
  | run text => text
  | unknown c => [c]
  | danglingEscape => ['\\']

theorem spelling_separator {c : Char} {index : Nat} (h : separator? c = some index) :
    (separator index).spelling = [c] := by
  unfold separator? at h
  split at h <;> simp_all <;> subst h <;> rfl

theorem spelling_ofChar (c : Char) : (ofChar c).spelling = [c] := by
  unfold ofChar
  split
  · next h => simp [spelling, Condition.code_of_ofCode? h]
  · next h => simp [spelling, Modifier.code_of_ofCode? h]
  · next h => exact spelling_separator h
  · repeat' split
    all_goals simp_all [spelling]

theorem code_of_ofChar {c code : Char} {starred : Bool} (h : ofChar c = component code starred) :
    code = c := by
  have hs := spelling_ofChar c
  rw [h] at hs
  cases starred <;> simp_all [spelling]

theorem isAlpha_code (m : Modifier) : m.code.isAlpha = true := by
  cases m <;> decide

theorem isAlpha_of_separator? {c : Char} {index : Nat} (h : separator? c = some index) :
    c.isAlpha = true := by
  unfold separator? at h
  split at h <;> simp_all

theorem isAlpha_of_source? {c : Char} {source : Source} (h : source? c = some source) :
    c.isAlpha = true := by
  unfold source? at h
  split at h <;> simp_all

/-- A character that is not reserved stands for itself. -/
theorem ofChar_of_not_isReserved {c : Char} (h : isReserved c = false) : ofChar c = run [c] := by
  simp only [isReserved, Bool.or_eq_false_iff, Option.isSome_eq_false_iff,
    Option.isNone_iff_eq_none, decide_eq_false_iff_not] at h
  obtain ⟨⟨⟨⟨hletter, hopen⟩, hclose⟩, _⟩, hcondition⟩ := h
  have hmodifier : Modifier.ofCode? c = none := by
    cases hm : Modifier.ofCode? c with
    | none => rfl
    | some m =>
      have := isAlpha_code m
      simp_all [Modifier.code_of_ofCode? hm]
  have hseparator : separator? c = none := by
    cases hs : separator? c with
    | none => rfl
    | some index => simp_all [isAlpha_of_separator? hs]
  have hsource : source? c = none := by
    cases hs : source? c with
    | none => rfl
    | some source => simp_all [isAlpha_of_source? hs]
  simp [ofChar, hcondition, hmodifier, hseparator, hsource, hopen, hclose, hletter]

/-- Scanning loses nothing: the lexemes of a text spell the text. -/
theorem flatMap_spelling_scan (s : List Char) : (scan s).flatMap spelling = s := by
  fun_induction scan s with
  | case1 => rfl
  | case2 => rfl
  | case3 d rest ih => simp [spelling, ih]
  | case4 c _ code _ h rest ih => simp [spelling, ih, code_of_ofChar h]
  | case5 c _ code _ h rest _ ih => simp [spelling, ih, code_of_ofChar h]
  | case6 c rest _ text h more lexemes hs ih =>
    have hc := spelling_ofChar c
    rw [h] at hc
    rw [hs] at ih
    simp_all [spelling]
  | case7 c rest _ text h _ ih =>
    have hc := spelling_ofChar c
    rw [h] at hc
    simp_all [spelling]
  | case8 c rest _ _ _ ih => simp [spelling_ofChar, ih]

/-- The number of bytes that a lexeme takes. -/
def size (l : Lexeme) : Nat :=
  Text.byteCount l.spelling

end Lexeme
end PersonalNames

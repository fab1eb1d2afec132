import PersonalNames.Proofs.Pattern.Composition

/-! # Escaping what is literal already

A character that is not reserved needs no backslash.  What happens if one is put in front
of it depends on the place (`Place`), that is on the lexeme to which the character
belongs: a run, the star of a component, or a backslash that escapes it.

Inside a run the backslash takes the run apart into a run, an escaped character and
another run.  Without marks in front the three are fused again.  But marks stand for the
next lexeme alone: they are left to the part of the run in front of the backslash, or to
the escaped character where that comes first (`SplitsRun`).  So the tokens stay the same
exactly if the character is alone in its run or the run has no marks in front
(`compile_escaped_character`).

That the tokens differ in all other cases is shown by counting the characters of
literals, with one weight for those behind marks and one for the others (`letters`).  The
pass keeps a difference of these counts (`lockstep_letters`).
-/
namespace PersonalNames

namespace Lexeme

/-! ## The places of characters -/

/-- The place of the character `c` in the scanned text `front ++ c :: back`: the lexeme to
which it belongs, those around that lexeme, and the rest of its spelling. -/
structure Place (front : List Char) (c : Char) (back : List Char) where
  before : List Lexeme
  lexeme : Lexeme
  after : List Lexeme
  left : List Char
  right : List Char
  scan_eq : scan (front ++ c :: back) = before ++ lexeme :: after
  spelling_eq : lexeme.spelling = left ++ c :: right
  front_eq : front = before.flatMap spelling ++ left

/-- Every character of a text has a place. -/
theorem exists_place (front : List Char) (c : Char) (back : List Char) :
    Nonempty (Place front c back) := by
  generalize htext : front ++ c :: back = text
  induction text using scan_induction generalizing front with
  | nil => simp at htext
  | cons lexeme rest hfits ih =>
    have hscan : scan (front ++ c :: back) = lexeme :: scan rest := by
      rw [htext, scan_spelling_append hfits]
    rcases List.append_eq_append_iff.mp htext with
      ⟨left, hspelling, hback⟩ | ⟨front', hfront, hrest⟩
    · cases left with
      | nil =>
        -- The lexeme ends in front of the character.
        have hrest : c :: back = rest := hback
        obtain ⟨place⟩ := ih [] hrest
        rw [List.append_nil] at hspelling
        refine ⟨⟨lexeme :: place.before, place.lexeme, place.after, place.left, place.right, ?_,
          place.spelling_eq, ?_⟩⟩
        · rw [hscan, List.cons_append, ← place.scan_eq, ← hrest]
          rfl
        · rw [List.flatMap_cons, List.append_assoc, ← place.front_eq, List.append_nil, hspelling]
      | cons d right =>
        obtain ⟨rfl, _⟩ := List.cons.inj hback
        exact ⟨⟨[], lexeme, scan rest, front, right, hscan, hspelling, rfl⟩⟩
    · obtain ⟨place⟩ := ih front' hrest.symm
      refine ⟨⟨lexeme :: place.before, place.lexeme, place.after, place.left, place.right, ?_,
        place.spelling_eq, ?_⟩⟩
      · rw [hscan, List.cons_append, ← place.scan_eq, ← hrest]
      · rw [List.flatMap_cons, List.append_assoc, ← place.front_eq, hfront]

/-- A text starts with characters that are not reserved, or with none. -/
theorem exists_run (text : List Char) : ∃ run rest, text = run ++ rest ∧
    (∀ c ∈ run, isReserved c = false) ∧ EndsRun rest := by
  refine ⟨text.takeWhile fun c => !isReserved c, text.dropWhile fun c => !isReserved c,
    List.takeWhile_append_dropWhile.symm, fun c hc => ?_, endsRun_dropWhile text⟩
  simpa using List.all_eq_true.mp List.all_takeWhile c hc

/-- **How a character that is not reserved is read**: as part of a run, behind a backslash,
or as the star of a component. -/
theorem role_of_not_isReserved {lexeme : Lexeme} {c : Char} {left right rest : List Char}
    (hfits : lexeme.Fits rest) (hspelling : lexeme.spelling = left ++ c :: right)
    (hc : isReserved c = false) :
    lexeme = .run (left ++ c :: right) ∨
      (lexeme = .escaped c ∧ left = ['\\'] ∧ right = []) ∨
      ∃ code, lexeme = .component code true := by
  have hmem : c ∈ lexeme.spelling := by
    rw [hspelling]
    exact List.mem_append_cons_self
  cases lexeme with
  | run text => exact Or.inl (congrArg run hspelling)
  | component code starred =>
    cases starred with
    | true => exact Or.inr (Or.inr ⟨code, rfl⟩)
    | false =>
      have hcode : ofChar code = component code false := hfits.1
      rw [← List.mem_singleton.mp hmem, ofChar_of_not_isReserved hc] at hcode
      cases hcode
  | escaped d =>
    have hne : '\\' ≠ c := (ne_backslash_of_not_isReserved hc).symm
    have hlength := congrArg List.length hspelling
    refine Or.inr (Or.inl ?_)
    cases left with
    | nil => exact absurd (List.cons.inj hspelling).1 hne
    | cons first left =>
      cases left with
      | nil =>
        cases hspelling
        exact ⟨rfl, rfl, rfl⟩
      | cons second left => simp [spelling] at hlength
  | danglingEscape =>
    rw [List.mem_singleton.mp hmem] at hc
    exact absurd hc (by decide)
  | _ =>
    -- A lexeme of one character, which would have to be reserved.
    obtain ⟨d, hd⟩ := hfits
    rw [spelling_of_ofChar hd, List.mem_singleton] at hmem
    rw [← hmem, ofChar_of_not_isReserved hc] at hd
    cases hd

namespace Place

variable {front back : List Char} {c : Char} (place : Place front c back)

theorem scan_after : scan (place.after.flatMap spelling) = place.after :=
  scan_behind place.scan_eq

theorem fits : place.lexeme.Fits (place.after.flatMap spelling) :=
  fits_of_scan (scan_flatMap_spelling place.scan_eq)

theorem back_eq : back = place.right ++ place.after.flatMap spelling := by
  have htext := flatMap_spelling_scan (front ++ c :: back)
  rw [place.scan_eq, List.flatMap_append, List.flatMap_cons, place.spelling_eq] at htext
  conv at htext => rhs; rw [place.front_eq]
  simpa using htext.symm

/-- A text with other characters in the place of the character. -/
theorem text_eq (other : List Char) : front ++ (other ++ back) =
    place.before.flatMap spelling ++ (place.left ++ (other ++ place.right)) ++
      place.after.flatMap spelling :=
  calc front ++ (other ++ back)
      = place.before.flatMap spelling ++ place.left ++
          (other ++ (place.right ++ place.after.flatMap spelling)) :=
        congrArg₂ (fun a b => a ++ (other ++ b)) place.front_eq place.back_eq
    _ = _ := by simp only [List.append_assoc]

/-- What stands in its run in front of the character; the character itself where it comes
first. -/
def first : List Char :=
  if place.left = [] then [c] else place.left

/-- What stands in its run behind `first`. -/
def second : List Char :=
  if place.left = [] then place.right else c :: place.right

theorem first_append_second : place.first ++ place.second = place.left ++ c :: place.right := by
  unfold first second
  split
  · next h =>
    rw [h]
    rfl
  · rfl

/-- The character is alone in its run, or no mark stands in front of the run. -/
def IsFree : Prop :=
  place.lexeme = .run (place.left ++ c :: place.right) ∧
    (place.lexeme = .run [c] ∨ ∀ last ∈ place.before.getLast?, last.isMark = false)

end Place
end Lexeme

/-! ## The weight of literals -/

namespace Token

variable (weight : Bool → Nat)

mutual

/-- The weight of the characters of the literals in a token; it depends on whether marks
stand in front of the literal. -/
def letters (marked : Bool) : Token → Nat
  | .literal text => weight marked * text.length
  | .group tokens => lettersAll tokens
  | .modified _ token => letters true token
  | .conditional _ token => letters true token
  | .component _ | .separator _ => 0

/-- The weight of the tokens of a sequence. -/
def lettersAll : List Token → Nat
  | [] => 0
  | token :: tokens => letters false token + lettersAll tokens

end

theorem lettersAll_append (tokens others : List Token) :
    lettersAll weight (tokens ++ others) = lettersAll weight tokens + lettersAll weight others := by
  induction tokens with
  | nil => simp [lettersAll]
  | cons token tokens ih => rw [List.cons_append, lettersAll, lettersAll, ih, Nat.add_assoc]

theorem lettersAll_singleton (token : Token) :
    lettersAll weight [token] = letters weight false token :=
  Nat.add_zero _

/-- Fusing literals loses no characters. -/
theorem lettersAll_appendToken (tokens : List Token) (token : Token) :
    lettersAll weight (OpenSequence.append tokens token) =
      lettersAll weight tokens + letters weight false token := by
  rcases List.eq_nil_or_concat' tokens with rfl | ⟨front, last, rfl⟩
  · exact Nat.add_comm (letters weight false token) 0
  · rcases last.apart_or_literals token with h | ⟨before, text, rfl, rfl⟩
    · rw [OpenSequence.append_of_apart front h, lettersAll_append, lettersAll_singleton]
    · rw [OpenSequence.append_literal_literal, lettersAll_append, lettersAll_append,
        lettersAll_singleton, lettersAll_singleton, letters, letters, letters,
        String.length_append, Nat.mul_add, Nat.add_assoc]

/-- Marks weigh nothing themselves. -/
theorem letters_wrap (m : Marks) (token : Token) :
    letters weight false (m.wrap token) = letters weight (!m.isEmpty) token := by
  obtain ⟨condition, modifiers⟩ := m
  cases condition <;> cases modifiers <;> rfl

end Token

namespace Pattern

open Lexeme (EndsRun Place)

/-- The weight of the literals that have been read. -/
def State.letters (weight : Bool → Nat) (s : State) : Nat :=
  Token.lettersAll weight ((s.inner :: s.outer).flatMap OpenSequence.tokens)

theorem State.letters_push (weight : Bool → Nat) (s : State) (t : Token) :
    (s.push t).letters weight =
      s.letters weight + Token.letters weight (!s.inner.marks.isEmpty) t := by
  simp only [State.letters, State.push, OpenSequence.push, List.flatMap_cons,
    Token.lettersAll_append, Token.lettersAll_appendToken, Token.letters_wrap]
  omega

/-- **A difference in weight is kept**: the pass adds the same to states with the same
marks. -/
theorem lockstep_letters (weight : Bool → Nat) : Lockstep fun s s' =>
    s.openMarks = s'.openMarks ∧ s.letters weight ≠ s'.letters weight where
  openMarks h := h.1
  mark marks h := ⟨congrArg (marks :: ·) (List.cons.inj h.1).2, h.2⟩
  push t h := by
    refine ⟨congrArg (({} : Marks) :: ·) (List.cons.inj h.1).2, ?_⟩
    rw [State.letters_push, State.letters_push, inner_marks_eq_of_openMarks h.1]
    exact fun heq => h.2 (Nat.add_right_cancel heq)
  opening h := by
    refine ⟨congrArg (({} : Marks) :: ·) h.1, fun heq => h.2 ?_⟩
    simpa [State.letters, Token.lettersAll] using heq
  closing h := by
    obtain ⟨hopen, hletters⟩ := h
    obtain ⟨_, houter⟩ := List.cons.inj hopen
    obtain ⟨hmarks, houter⟩ := List.cons.inj houter
    refine ⟨congrArg (({} : Marks) :: ·) houter, fun heq => hletters ?_⟩
    -- The weight of a group is that of its tokens, whatever marks it has.
    simp only [State.letters, OpenSequence.push, List.flatMap_cons, Token.lettersAll_append,
      Token.lettersAll_appendToken, Token.letters_wrap, Token.letters] at heq ⊢
    omega

/-- From states of the same marks and different weight the pass never comes to the same
tokens. -/
theorem exists_other_tokens {weight : Bool → Nat} {s s' : State} {offset : Nat}
    {lexemes : List Lexeme} {tokens : List Token} (hopen : s.openMarks = s'.openMarks)
    (hletters : s.letters weight ≠ s'.letters weight)
    (h : readFrom offset s lexemes = .ok tokens) (offset' : Nat) :
    ∃ tokens', readFrom offset' s' lexemes = .ok tokens' ∧ tokens' ≠ tokens := by
  obtain ⟨tokens', hok, -, hne⟩ :=
    (lockstep_letters weight).keepsPace.exists_tokens ⟨hopen, hletters⟩ h offset'
  refine ⟨tokens', hok, ?_⟩
  rintro rfl
  exact hne rfl

/-! ## Reading text that may be empty -/

/-- The state behind characters that are not reserved; none of them leave it as it is. -/
def State.pushText (s : State) (text : List Char) : State :=
  if text = [] then s else s.push (.literal (String.ofList text))

theorem State.pushText_of_ne_nil (s : State) {text : List Char} (h : text ≠ []) :
    s.pushText text = s.push (.literal (String.ofList text)) :=
  if_neg h

theorem reads_text (s : State) {text rest : List Char}
    (htext : ∀ c ∈ text, Lexeme.isReserved c = false) (hrest : EndsRun rest) :
    Reads s text rest (s.pushText text) := by
  by_cases h : text = []
  · subst h
    exact Reads.refl s rest
  · rw [State.pushText_of_ne_nil s h]
    exact Reads.lexeme (.run text) ⟨h, htext, hrest⟩ rfl

theorem State.letters_pushText (weight : Bool → Nat) (s : State) (text : List Char) :
    (s.pushText text).letters weight =
      s.letters weight + weight (!s.inner.marks.isEmpty) * text.length := by
  by_cases h : text = []
  · subst h
    simp [State.pushText]
  · rw [State.pushText_of_ne_nil s h, State.letters_push, Token.letters, String.length_ofList]

theorem State.outer_pushText (s : State) (text : List Char) :
    (s.pushText text).outer = s.outer := by
  unfold State.pushText
  split <;> rfl

/-- Behind a token no marks wait, whatever text has been read in addition. -/
theorem State.openMarks_push_pushText (s : State) (t : Token) (text : List Char) :
    ((s.push t).pushText text).openMarks = {} :: s.outer.map OpenSequence.marks := by
  unfold State.pushText
  split <;> rfl

/-- Without marks, literals that are read one after the other are one. -/
theorem State.push_literals {s : State} (h : s.inner.marks = {}) (before text : String) :
    (s.push (.literal before)).push (.literal text) = s.push (.literal (before ++ text)) := by
  obtain ⟨⟨tokens, marks⟩, outer⟩ := s
  cases h
  simp only [State.push, OpenSequence.push, Marks.wrap_default, OpenSequence.append_literals]

theorem State.pushText_pushText {s : State} (h : s.inner.marks = {}) (before text : List Char) :
    (s.pushText before).pushText text = s.pushText (before ++ text) := by
  by_cases hbefore : before = []
  · subst hbefore
    rfl
  by_cases htext : text = []
  · subst htext
    rw [List.append_nil]
    rfl
  rw [State.pushText_of_ne_nil s hbefore, State.pushText_of_ne_nil _ htext,
    State.pushText_of_ne_nil s (by simp [hbefore]), State.push_literals h, String.ofList_append]

/-! ## A backslash in a run -/

/-- The state behind a run that has been taken apart at the character `c`. -/
def State.pushSplit (s : State) (left : List Char) (c : Char) (right : List Char) : State :=
  ((s.pushText left).push (.literal (String.ofList [c]))).pushText right

theorem reads_split (s : State) {left right rest : List Char} {c : Char}
    (htext : ∀ d ∈ left ++ c :: right, Lexeme.isReserved d = false) (hrest : EndsRun rest) :
    Reads s (left ++ '\\' :: c :: right) rest (s.pushSplit left c right) := by
  have hleft := reads_text s (fun d hd => htext d (List.mem_append_left _ hd))
    (Lexeme.endsRun_cons (show Lexeme.isReserved '\\' = true by decide) (c :: (right ++ rest)))
  have hescaped := reads_escaped (s.pushText left) c (right ++ rest)
  have hright := reads_text ((s.pushText left).push (.literal (String.ofList [c])))
    (fun d hd => htext d (List.mem_append_right _ (.tail c hd))) hrest
  exact hleft.trans (hescaped.trans hright)

theorem State.openMarks_pushSplit (s : State) (left : List Char) (c : Char) (right : List Char) :
    (s.pushSplit left c right).openMarks = {} :: s.outer.map OpenSequence.marks := by
  rw [State.pushSplit, State.openMarks_push_pushText, State.outer_pushText]

/-- Without marks in front nothing is changed by taking the run apart, nor if the
character is alone. -/
theorem State.pushSplit_eq {s : State} {left right : List Char} {c : Char}
    (h : s.inner.marks = {} ∨ left = [] ∧ right = []) :
    s.pushSplit left c right = s.push (.literal (String.ofList (left ++ c :: right))) := by
  rcases h with h | ⟨rfl, rfl⟩
  · have hleft : (s.pushText left).inner.marks = {} := by
      unfold State.pushText
      split
      · exact h
      · rfl
    have hne : [c] ≠ [] := by simp
    unfold State.pushSplit
    rw [← State.pushText_of_ne_nil _ hne, State.pushText_pushText hleft,
      State.pushText_pushText h, State.pushText_of_ne_nil s (by simp)]
    rfl
  · rfl

/-- Marks in front are left to the first part of a run that has been taken apart. -/
theorem State.pushSplit_eq_push_first (s : State) {front back : List Char} {c : Char}
    (place : Place front c back) :
    s.pushSplit place.left c place.right =
      (s.push (.literal (String.ofList place.first))).pushText place.second := by
  unfold State.pushSplit Place.first Place.second
  split
  · next h =>
    rw [h]
    rfl
  · next h =>
    have hmarks : (s.push (.literal (String.ofList place.left))).inner.marks = {} := rfl
    have hne : [c] ≠ [] := by simp
    rw [State.pushText_of_ne_nil s h, ← State.pushText_of_ne_nil _ hne,
      State.pushText_pushText hmarks]
    rfl

/-- Behind marks, fewer characters are left to the marks if the run is taken apart. -/
theorem State.letters_pushSplit_ne {s : State} {left right : List Char} {c : Char}
    (h : s.inner.marks.isEmpty = false) (hlong : ¬ (left = [] ∧ right = [])) :
    (s.push (.literal (String.ofList (left ++ c :: right)))).letters (fun marked => marked.toNat) ≠
      (s.pushSplit left c right).letters fun marked => marked.toNat := by
  rw [State.pushSplit, State.letters_pushText, State.letters_push, State.letters_push,
    State.letters_pushText]
  by_cases hleft : left = []
  · subst hleft
    have hright : right ≠ [] := by simpa using hlong
    simp [State.pushText, h, Token.letters, hright]
  · simp [State.pushText, h, hleft, Token.letters]

/-- Behind an escaped character text may follow; the same text behind an escaped backslash
and that character. -/
theorem reads_escaped_backslash (s : State) {c : Char} {text rest : List Char}
    (htext : ∀ d ∈ c :: text, Lexeme.isReserved d = false) (hrest : EndsRun rest) :
    Reads s ('\\' :: '\\' :: c :: text) rest
      ((s.push (.literal (String.ofList ['\\']))).pushText (c :: text)) :=
  (reads_escaped s '\\' _).trans (reads_text _ htext hrest)

/-- An escaped backslash is one character more. -/
theorem State.letters_escaped_backslash_ne (s : State) (c : Char) (text : List Char) :
    ((s.push (.literal (String.ofList [c]))).pushText text).letters (fun _ => 1) ≠
      ((s.push (.literal (String.ofList ['\\']))).pushText (c :: text)).letters fun _ => 1 := by
  simp only [State.letters_pushText, State.letters_push, Token.letters, String.length_ofList,
    List.length_cons, List.length_nil]
  omega

/-! ## Compiling with one more backslash -/

section
variable {front back : List Char} {c : Char} {tokens : List Token}

/-- The state of the pass in front of the lexeme of a place, and what the pass makes of the
lexeme and of what follows it. -/
theorem exists_state_at_place (place : Place front c back)
    (h : readFrom 0 {} (Lexeme.scan (front ++ c :: back)) = .ok tokens) :
    ∃ s next, AfterLast place.before.getLast? s ∧ s.read place.lexeme = .ok next ∧
      (∃ offset, readFrom offset next place.after = .ok tokens) ∧
      ∀ text, EndsRun text ∨ text.head? = (place.left ++ c :: back).head? →
        Reads {} (place.before.flatMap Lexeme.spelling) text s := by
  obtain ⟨s, next, hafter, hread, hok, hreads⟩ := exists_read_of_scan place.scan_eq h
  refine ⟨s, next, hafter, hread, hok, fun text htext => hreads text ?_⟩
  rw [List.flatMap_cons, place.spelling_eq]
  rcases htext with htext | htext
  · exact Or.inl htext
  · refine Or.inr (htext.trans ?_)
    cases place.left <;> rfl

/-- What was read before the place and what is read instead of its lexeme make the beginning
of another text, which goes on in the same way. -/
theorem readFrom_of_reads {text : List Char} {after : List Lexeme} {s : State}
    (h : Reads {} text (after.flatMap Lexeme.spelling) s)
    (hscan : Lexeme.scan (after.flatMap Lexeme.spelling) = after) :
    readFrom 0 {} (Lexeme.scan (text ++ after.flatMap Lexeme.spelling)) =
      readFrom (0 + Text.byteCount text) s after := by
  rw [h 0, hscan]

/-- `SplitsRun place tokens tokens'`: the tokens of a text, and those of the text with a
backslash in front of a character in a run.  Up to the run the pass comes to one state for
both texts.  The marks that wait there stand for the whole run in the one text; in the
other they stand for its first part, and no marks for the second. -/
def SplitsRun (place : Place front c back) (tokens tokens' : List Token) : Prop :=
  ∃ s, Reads {} (place.before.flatMap Lexeme.spelling) (place.left ++ c :: back) s ∧
    (∃ offset, readFrom offset (s.push (.literal (String.ofList (place.first ++ place.second))))
      place.after = .ok tokens) ∧
    ∃ offset, readFrom offset
      ((s.push (.literal (String.ofList place.first))).pushText place.second) place.after =
        .ok tokens'

theorem isFree_iff {place : Place front c back} {s : State}
    (hrun : place.lexeme = .run (place.left ++ c :: place.right))
    (hafter : AfterLast place.before.getLast? s) :
    place.IsFree ↔ s.inner.marks = {} ∨ place.left = [] ∧ place.right = [] := by
  rw [Place.IsFree, ← hafter.marks_eq_iff, hrun]
  constructor
  · rintro ⟨-, halone | hmarks⟩
    · right
      have hlength := congrArg List.length (Lexeme.run.inj halone)
      simp only [List.length_append, List.length_cons, List.length_nil] at hlength
      exact ⟨List.eq_nil_of_length_eq_zero (by omega), List.eq_nil_of_length_eq_zero (by omega)⟩
    · exact Or.inl hmarks
  · rintro (hmarks | ⟨hleft, hright⟩)
    · exact ⟨rfl, Or.inr hmarks⟩
    · refine ⟨rfl, Or.inl ?_⟩
      rw [hleft, hright]
      rfl

/-- Where a run has been taken apart the pass goes on as it does behind the run, and comes to
the same tokens exactly if the place is free. -/
theorem readFrom_pushSplit {place : Place front c back} {s : State} {offset : Nat}
    (hrun : place.lexeme = .run (place.left ++ c :: place.right))
    (hafter : AfterLast place.before.getLast? s)
    (hok : readFrom offset (s.push (.literal (String.ofList (place.left ++ c :: place.right))))
      place.after = .ok tokens) (offset' : Nat) :
    ∃ tokens', readFrom offset' (s.pushSplit place.left c place.right) place.after = .ok tokens' ∧
      (tokens' = tokens ↔ place.IsFree) := by
  rw [isFree_iff hrun hafter]
  by_cases hfree : s.inner.marks = {} ∨ place.left = [] ∧ place.right = []
  · rw [State.pushSplit_eq hfree]
    obtain ⟨tokens', hok', halike⟩ := lockstep_eq.keepsPace.exists_tokens rfl hok offset'
    cases halike
    exact ⟨tokens, hok', iff_of_true rfl hfree⟩
  · have hmarks : s.inner.marks.isEmpty = false := by
      rw [Bool.eq_false_iff, ne_eq, Marks.isEmpty_iff]
      exact fun hempty => hfree (Or.inl hempty)
    have hletters := State.letters_pushSplit_ne (s := s) (c := c) hmarks fun halone =>
      hfree (Or.inr halone)
    have hopen : (s.push (.literal (String.ofList (place.left ++ c :: place.right)))).openMarks =
        (s.pushSplit place.left c place.right).openMarks := by
      rw [State.openMarks_pushSplit]
      rfl
    obtain ⟨tokens', hok', hne⟩ := exists_other_tokens hopen hletters hok offset'
    exact ⟨tokens', hok', iff_of_false hne hfree⟩

/-- In a run: the pass reads what stands in front of it, the run taken apart, and what stands
behind it. -/
theorem readFrom_escaped_run (place : Place front c back)
    (hrun : place.lexeme = .run (place.left ++ c :: place.right))
    (h : readFrom 0 {} (Lexeme.scan (front ++ c :: back)) = .ok tokens) :
    ∃ tokens', readFrom 0 {} (Lexeme.scan (front ++ '\\' :: c :: back)) = .ok tokens' ∧
      (tokens' = tokens ↔ place.IsFree) ∧ SplitsRun place tokens tokens' := by
  obtain ⟨s, next, hafter, hread, ⟨offset, hok⟩, hreads⟩ := exists_state_at_place place h
  have hfits := place.fits
  rw [hrun] at hfits hread
  cases hread
  have hsplit := reads_split s hfits.2.1 hfits.2.2
  have hbefore := hreads (place.left ++ '\\' :: c :: place.right ++
      place.after.flatMap Lexeme.spelling) (by
    cases place.left with
    | nil => exact Or.inl (Lexeme.endsRun_cons (by decide) _)
    | cons d left => exact Or.inr rfl)
  have htext : front ++ '\\' :: c :: back = place.before.flatMap Lexeme.spelling ++
      (place.left ++ '\\' :: c :: place.right) ++ place.after.flatMap Lexeme.spelling :=
    place.text_eq ['\\', c]
  rw [htext, readFrom_of_reads (hbefore.trans hsplit) place.scan_after]
  obtain ⟨tokens', hok', hiff⟩ := readFrom_pushSplit hrun hafter hok (0 + Text.byteCount _)
  refine ⟨tokens', hok', hiff, s, hreads _ (Or.inr rfl), ?_, ?_⟩
  · rw [place.first_append_second]
    exact ⟨offset, hok⟩
  · rw [← State.pushSplit_eq_push_first]
    exact ⟨_, hok'⟩

/-- Behind a backslash: the inserted one is escaped itself, so that there is one literal
character more. -/
theorem readFrom_escaped_twice (place : Place front c back) (hc : Lexeme.isReserved c = false)
    (hescaped : place.lexeme = .escaped c) (hleft : place.left = ['\\']) (hright : place.right = [])
    (h : readFrom 0 {} (Lexeme.scan (front ++ c :: back)) = .ok tokens) :
    ∃ tokens', readFrom 0 {} (Lexeme.scan (front ++ '\\' :: c :: back)) = .ok tokens' ∧
      tokens' ≠ tokens := by
  obtain ⟨s, next, -, hread, ⟨offset, hok⟩, hreads⟩ := exists_state_at_place place h
  rw [hescaped] at hread
  cases hread
  -- What follows may start with a run, and the character is no longer kept apart from it.
  obtain ⟨run, rest, hsplit, htext, hends⟩ :=
    Lexeme.exists_run (place.after.flatMap Lexeme.spelling)
  have hafter : Lexeme.scan (run ++ rest) = place.after := hsplit ▸ place.scan_after
  rw [← hafter, reads_text _ htext hends offset] at hok
  have hstart : EndsRun ('\\' :: '\\' :: c :: run ++ rest) := Lexeme.endsRun_cons (by decide) _
  have hreserved : ∀ d ∈ c :: run, Lexeme.isReserved d = false :=
    List.forall_mem_cons.mpr ⟨hc, htext⟩
  have hread := (hreads _ (Or.inl hstart)).trans (reads_escaped_backslash s hreserved hends)
  have htext' : front ++ '\\' :: c :: back =
      place.before.flatMap Lexeme.spelling ++ ('\\' :: '\\' :: c :: run) ++ rest := by
    have hother := place.text_eq ['\\', c]
    rw [hleft, hright, hsplit] at hother
    simpa using hother
  have hopen : ((s.push (.literal (String.ofList [c]))).pushText run).openMarks =
      ((s.push (.literal (String.ofList ['\\']))).pushText (c :: run)).openMarks := by
    rw [State.openMarks_push_pushText, State.openMarks_push_pushText]
  rw [htext', hread 0]
  exact exists_other_tokens hopen (s.letters_escaped_backslash_ne c run) hok _

/-- **Escaping a character that is literal already.**  In a pattern that compiles, let a
backslash be put in front of a character that is not reserved and is not the star of a
component.  The text compiles, and to the same tokens exactly if the character is part of
a run and is alone in the run or has no marks in front of the run.  In a run, the marks in
front of it are left to its first part, up to the backslash, or to the character where it
comes first (`Place.first`). -/
theorem compile_escaped_character {front back : List Char} {c : Char} {pattern : Pattern}
    (h : compile (String.ofList (front ++ c :: back)) = .ok pattern)
    (hc : Lexeme.isReserved c = false) :
    Nonempty (Place front c back) ∧
    ∀ place : Place front c back, (∀ code, place.lexeme ≠ .component code true) →
      ∃ escaped : Pattern, compile (String.ofList (front ++ '\\' :: c :: back)) = .ok escaped ∧
        (escaped.tokens = pattern.tokens ↔ place.IsFree) ∧
        (place.lexeme = .run (place.left ++ c :: place.right) →
          SplitsRun place pattern.tokens escaped.tokens) := by
  refine ⟨Lexeme.exists_place front c back, fun place hstar => ?_⟩
  have hread := readFrom_of_compile h
  rcases Lexeme.role_of_not_isReserved place.fits place.spelling_eq hc with
    hrun | ⟨hescaped, hleft, hright⟩ | ⟨code, hcode⟩
  · obtain ⟨tokens, hok, hiff, hsplits⟩ := readFrom_escaped_run place hrun hread
    exact ⟨_, compile_of_readFrom hok, hiff, fun _ => hsplits⟩
  · obtain ⟨tokens, hok, hne⟩ := readFrom_escaped_twice place hc hescaped hleft hright hread
    have hrun : place.lexeme ≠ .run (place.left ++ c :: place.right) := by
      rw [hescaped]
      exact nofun
    exact ⟨_, compile_of_readFrom hok, iff_of_false hne fun hfree => hrun hfree.1,
      fun h => absurd h hrun⟩
  · exact absurd hcode (hstar code)

end

/-- In `(fé )g` the blank is part of a run without marks in front, and a backslash in front
of it changes nothing. -/
theorem compile_escaped_character_unmarked :
    let given : Token := .component ⟨.single .given, false⟩
    let family : Token := .component ⟨.single .family, false⟩
    let place : Place ['(', 'f', 'é'] ' ' [')', 'g'] :=
      ⟨[.opening, .component 'f' false], .run ['é', ' '], [.closing, .component 'g' false],
        ['é'], [], by decide, rfl, rfl⟩
    compile "(fé )g" = .ok ⟨"(fé )g", [.group [family, .literal "é "], given]⟩ ∧
      Lexeme.isReserved ' ' = false ∧ (∀ code, place.lexeme ≠ .component code true) ∧
      ∃ escaped, compile "(fé\\ )g" = .ok escaped ∧
        escaped.tokens = [.group [family, .literal "é "], given] := by
  intro given family place
  have h : compile "(fé )g" = .ok ⟨"(fé )g", [.group [family, .literal "é "], given]⟩ := rfl
  have hc : Lexeme.isReserved ' ' = false := by decide
  have hstar : ∀ code, place.lexeme ≠ .component code true := fun code => by
    intro heq
    cases heq
  obtain ⟨escaped, hescaped, hiff, -⟩ := (compile_escaped_character h hc).2 place hstar
  refine ⟨h, hc, hstar, escaped, hescaped, hiff.mpr ⟨rfl, Or.inr ?_⟩⟩
  intro last hlast
  cases hlast
  rfl

/-- In `g+, f` the comma and the blank are one run behind a mark; with a backslash in front
of the comma, the mark is left to the comma alone. -/
theorem not_same_tokens_behind_condition :
    let given : Token := .component ⟨.single .given, false⟩
    let family : Token := .component ⟨.single .family, false⟩
    let place : Place ['g', '+'] ',' [' ', 'f'] :=
      ⟨[.component 'g' false, .condition .both], .run [',', ' '], [.component 'f' false],
        [], [' '], by decide, rfl, rfl⟩
    Lexeme.isReserved ',' = false ∧ place.lexeme = .run [',', ' '] ∧
      compile "g+, f" = .ok ⟨"g+, f", [given, .conditional .both (.literal ", "), family]⟩ ∧
      compile "g+\\, f" =
        .ok ⟨"g+\\, f", [given, .conditional .both (.literal ","), .literal " ", family]⟩ ∧
      [given, .conditional .both (.literal ","), .literal " ", family] ≠
        [given, .conditional .both (.literal ", "), family] := by
  refine ⟨by decide, rfl, rfl, rfl, ?_⟩
  simp

end Pattern
end PersonalNames

import PersonalNames.Proofs.Pattern.Lockstep
import PersonalNames.Proofs.Pattern.NormalForm

/-! # Compiling is compositional

A pattern may be read piece by piece.  Let `a` be a text that compiles and `b` a text
that cannot go on with a run or with a component of `a`, because it is empty or starts
with a reserved character.  Then `a ++ b` compiles exactly if `b` does, to the tokens
of `a` and those of `b` (`fused`), and a fault of `b` is reported as what it is, behind
`a`.  And a text in parentheses compiles to the group of its tokens.  Both are said by
`compile_composes`.

For the first, the pass reads `b` behind `a` in lockstep with `b` alone: the outermost
sequence has the tokens of `a` in front, and all groups are the same (`Behind`).  For
the second, what a text derives it derives in front of every such text.
-/
namespace PersonalNames

/-! ## One sequence behind another -/

/-- The tokens of two sequences one behind the other; a literal at the end of the first
and one at the start of the second become one literal. -/
def Token.fused (front back : List Token) : List Token :=
  match front.getLast?, back with
  | some (.literal before), .literal text :: rest =>
    front.dropLast ++ .literal (before ++ text) :: rest
  | _, _ => front ++ back

/-- Two tokens may stand next to each other, or both are literals. -/
theorem Token.apart_or_literals (token next : Token) :
    token.Apart next ∨ ∃ before text, token = .literal before ∧ next = .literal text := by
  cases token with
  | literal before =>
    cases next with
    | literal text => exact Or.inr ⟨before, text, rfl, rfl⟩
    | _ => exact Or.inl trivial
  | _ => exact Or.inl trivial

namespace OpenSequence

theorem append_literal_literal (tokens : List Token) (before text : String) :
    append (tokens ++ [.literal before]) (.literal text) =
      tokens ++ [.literal (before ++ text)] := by
  simp [append]

/-- Tokens that may stand next to each other are not fused. -/
theorem append_of_apart (tokens : List Token) {last next : Token} (h : last.Apart next) :
    append (tokens ++ [last]) next = tokens ++ [last] ++ [next] := by
  unfold append
  rw [List.getLast?_concat]
  cases last with
  | literal before =>
    cases next with
    | literal text => exact h.elim
    | _ => rfl
  | _ => rfl

/-- A mapping of tokens that leaves literals as they are, and makes no others, may be
applied before or after a token is appended. -/
theorem map_append {f : Token → Token} (hliteral : ∀ text, f (.literal text) = .literal text)
    (honly : ∀ {token text}, f token = .literal text → token = .literal text)
    (tokens : List Token) (token : Token) :
    (append tokens token).map f = append (tokens.map f) (f token) := by
  rcases List.eq_nil_or_concat' tokens with rfl | ⟨front, last, rfl⟩
  · rfl
  · rw [List.map_append, List.map_singleton]
    rcases last.apart_or_literals token with h | ⟨before, text, rfl, rfl⟩
    · have hapart : (f last).Apart (f token) := by
        rcases (f last).apart_or_literals (f token) with h' | ⟨_, _, hlast, htoken⟩
        · exact h'
        · rw [honly hlast, honly htoken] at h
          exact h.elim
      rw [append_of_apart front h, append_of_apart _ hapart]
      simp only [List.map_append, List.map_singleton]
    · rw [append_literal_literal, hliteral, hliteral, append_literal_literal, List.map_append,
        List.map_singleton, hliteral]

/-- What is appended to a sequence is appended to its end. -/
theorem append_append (front : List Token) {tokens : List Token} (h : tokens ≠ []) (t : Token) :
    append (front ++ tokens) t = front ++ append tokens t := by
  unfold append
  rw [List.getLast?_append_of_ne_nil _ h]
  split
  · rw [List.dropLast_append_of_ne_nil h, List.append_assoc]
  · rw [List.append_assoc]

/-- Two literals one after the other are appended like one. -/
theorem append_literals (tokens : List Token) (before text : String) :
    append (append tokens (.literal before)) (.literal text) =
      append tokens (.literal (before ++ text)) := by
  rcases List.eq_nil_or_concat' tokens with rfl | ⟨front, last, rfl⟩
  · rfl
  · rcases last.apart_or_literals (.literal before) with h | ⟨first, _, rfl, heq⟩
    · have h' : last.Apart (.literal (before ++ text)) := by
        cases last with
        | literal _ => exact h
        | _ => trivial
      rw [append_of_apart front h, append_literal_literal, append_of_apart front h']
    · simp only [append_literal_literal, String.append_assoc]

/-- A token is not fused with one that it may stand next to, even where that one has been
fused itself. -/
theorem append_append_of_apart (tokens : List Token) {last next : Token} (h : last.Apart next) :
    append (append tokens last) next = append tokens last ++ [next] := by
  rcases List.eq_nil_or_concat' tokens with rfl | ⟨front, first, rfl⟩
  · exact append_of_apart [] h
  · rcases first.apart_or_literals last with h' | ⟨before, text, rfl, rfl⟩
    · rw [append_of_apart front h', append_of_apart _ h]
    · rw [append_literal_literal, append_of_apart front (Grammar.apart_literal h)]

end OpenSequence

namespace Token

open OpenSequence

theorem fused_nil (front : List Token) : fused front [] = front := by
  unfold fused
  split
  · next h => cases h
  · rw [List.append_nil]

/-- The first of the tokens behind is appended, and the others follow it. -/
theorem fused_cons (front : List Token) (next : Token) (back : List Token) :
    fused front (next :: back) = append front next ++ back := by
  unfold fused append
  cases front.getLast? with
  | none => simp
  | some last =>
    cases last with
    | literal before => cases next <;> simp
    | _ => simp

/-- A token is appended behind both sequences as it is behind the second. -/
theorem append_fused (front tokens : List Token) (t : Token) :
    append (fused front tokens) t = fused front (append tokens t) := by
  cases tokens with
  | nil => exact (congrArg (append · t) (fused_nil front)).trans (by simp [append, fused_cons])
  | cons next others =>
    cases others with
    | cons second others =>
      rw [fused_cons, append_append _ (List.cons_ne_nil _ _), Grammar.append_cons_cons, fused_cons]
    | nil =>
      -- The only token of the second sequence may be fused with either neighbour.
      rw [fused_cons, List.append_nil]
      rcases next.apart_or_literals t with h | ⟨before, text, rfl, rfl⟩
      · rw [append_append_of_apart front h, ← fused_cons]
        exact congrArg (fused front) (append_of_apart [] h).symm
      · rw [append_literals, ← List.append_nil (append front _), ← fused_cons]
        rfl

end Token

namespace Grammar

open Lexeme (EndsRun)

/-! ## What is derived in front of other texts -/

mutual

/-- A base depends on the first character behind it only, and every reserved character
will do. -/
theorem Base.of_head {text rest rest' : List Char} {token : Token}
    (hrest : EndsRun rest' ∨ rest'.head? = rest.head?) :
    Base text rest token → Base text rest' token
  | @Base.group _ rest _ h => by
    have hhead : (')' :: rest').head? = (')' :: rest).head? := rfl
    exact .group (h.of_head (Or.inr hhead))
  | .escaped c _ => .escaped c rest'
  | .separator _ h => .separator rest' h
  | .component h hstar => .component h (by
      rcases hrest with hrest | hrest
      · exact hrest.head?_ne_star
      · rwa [hrest])
  | .starred _ h => .starred rest' h
  | .run hne htext hends => .run hne htext (by
      rcases hrest with hrest | hrest
      · exact hrest
      · intro c hc
        exact hends c (hrest ▸ hc))

theorem Item.of_head {text rest rest' : List Char} {token : Token}
    (hrest : EndsRun rest' ∨ rest'.head? = rest.head?) :
    Item text rest token → Item text rest' token
  | .bare h => .bare (h.of_head hrest)
  | .modified hne h => .modified hne (h.of_head hrest)
  | .conditional c h => .conditional c (h.of_head hrest)
  | .conditionalModified c hne h => .conditionalModified c hne (h.of_head hrest)

theorem Sequence.of_head {text rest rest' : List Char} {tokens : List Token}
    (hrest : EndsRun rest' ∨ rest'.head? = rest.head?) :
    Sequence text rest tokens → Sequence text rest' tokens
  | .nil _ => .nil rest'
  | @Sequence.cons _ more _ _ _ hitem h => by
    refine .cons (hitem.of_head ?_) (h.of_head hrest)
    cases more with
    | nil => exact hrest
    | cons c more => exact Or.inr rfl

end

end Grammar

namespace Pattern

open Lexeme (EndsRun endsRun_cons)

/-! ## Reading a text behind another -/

/-- `Behind front s s'`: the states are the same but for the tokens `front`, which the
outermost sequence of `s'` has in front of those of `s`. -/
inductive Behind (front : List Token) : State → State → Prop
  | outermost (tokens : List Token) (marks : Marks) :
      Behind front ⟨⟨tokens, marks⟩, []⟩ ⟨⟨Token.fused front tokens, marks⟩, []⟩
  | inside (inner : OpenSequence) {level level' : OpenSequence} {outer outer' : List OpenSequence} :
      Behind front ⟨level, outer⟩ ⟨level', outer'⟩ →
        Behind front ⟨inner, level :: outer⟩ ⟨inner, level' :: outer'⟩

theorem Behind.push {front : List Token} {s s' : State} (h : Behind front s s') (t : Token) :
    Behind front (s.push t) (s'.push t) := by
  cases h with
  | outermost tokens marks =>
    have hbehind : Behind front ⟨⟨OpenSequence.append tokens (marks.wrap t), {}⟩, []⟩ _ :=
      .outermost _ _
    rw [← Token.append_fused] at hbehind
    exact hbehind
  | inside inner h => exact .inside (inner.push t) h

/-- The pass does not see the tokens in front. -/
theorem lockstep_behind (front : List Token) : Lockstep (Behind front) where
  openMarks h := by
    induction h with
    | outermost tokens marks => rfl
    | inside inner _ ih => exact congrArg (inner.marks :: ·) ih
  mark marks h := by
    cases h with
    | outermost tokens _ => exact .outermost tokens marks
    | inside inner h => exact .inside { inner with marks } h
  push t h := h.push t
  opening h := .inside {} h
  closing h := by
    cases h with
    | inside _ h => exact h.push _

/-- What compiles is read, in front of everything that does not go on with its last
lexeme, to a single sequence of its tokens. -/
theorem readsOn_of_compile {a : String} {pattern : Pattern} (h : compile a = .ok pattern) :
    ReadsOn {} a.toList { inner := { tokens := pattern.tokens } } := by
  obtain ⟨-, items, hseq, htokens⟩ := Grammar.derives_of_compile h
  intro rest hrest
  have hreads := (hseq.of_head (Or.inl hrest)).reads {} rfl
  rw [Grammar.foldl_push rfl] at hreads
  rw [htokens, ← List.nil_append items, ← Grammar.foldl_append_fuse]
  exact hreads

/-- A text in parentheses derives the group of what it derives. -/
theorem compile_group {a : String} {pattern : Pattern} (h : compile a = .ok pattern) :
    compile ("(" ++ a ++ ")") = .ok ⟨"(" ++ a ++ ")", [.group pattern.tokens]⟩ := by
  obtain ⟨-, items, hseq, htokens⟩ := Grammar.derives_of_compile h
  have hends : EndsRun [')'] := endsRun_cons (by decide) []
  have hgroup : Grammar.Sequence ('(' :: (a.toList ++ [')'])) [] [.group pattern.tokens] := by
    rw [htokens]
    exact (Grammar.Item.bare (.group (hseq.of_head (Or.inl hends)))).sequence
  have hfuse : [.group pattern.tokens] = Grammar.fuse [.group pattern.tokens] := rfl
  refine Grammar.compile_of_derives ⟨_, ?_, hfuse⟩
  simpa using hgroup

/-- The pass over one text behind another, from the pass over the second alone. -/
theorem readFrom_append {a b : String} {pattern : Pattern} (ha : compile a = .ok pattern)
    (hb : EndsRun b.toList) :
    Alike (fun e e' => e'.1 = a.utf8ByteSize + e.1 ∧ e'.2 = e.2)
      (fun tokens tokens' => tokens' = Token.fused pattern.tokens tokens)
      (readFrom 0 {} (Lexeme.scan b.toList)) (readFrom 0 {} (Lexeme.scan (a ++ b).toList)) := by
  have hstart : Behind pattern.tokens {} { inner := { tokens := pattern.tokens } } := by
    have hbehind : Behind pattern.tokens ⟨⟨[], {}⟩, []⟩ _ := .outermost _ _
    rwa [Token.fused_nil] at hbehind
  have hrun := (lockstep_behind pattern.tokens).keepsPace.readFrom hstart 0 a.utf8ByteSize
    (Lexeme.scan b.toList)
  rw [String.toList_append, readsOn_of_compile ha _ hb 0, Text.byteCount_eq_utf8ByteSize,
    String.ofList_toList, Nat.zero_add]
  generalize readFrom 0 {} _ = result at hrun ⊢
  generalize readFrom _ _ _ = result' at hrun ⊢
  cases hrun with
  | ok htokens =>
    cases htokens with
    | outermost tokens _ => exact .ok rfl
  | error hfault => exact .error ⟨by omega, hfault.2.symm⟩

/-- **Compiling is compositional.**  Behind a text that compiles, a text that is empty or
starts with a reserved character is compiled as it is by itself: its tokens follow those
of the first, and its fault is the same as many bytes further on as the first has.  In
parentheses, what compiles is a group. -/
theorem compile_composes {a : String} {pattern : Pattern} (ha : compile a = .ok pattern) :
    (∀ b : String, EndsRun b.toList →
      (∀ other, compile b = .ok other →
        compile (a ++ b) = .ok ⟨a ++ b, Token.fused pattern.tokens other.tokens⟩) ∧
      ∀ e, compile b = .error e →
        compile (a ++ b) = .error ⟨a ++ b, a.utf8ByteSize + e.offset, e.fault⟩) ∧
    compile ("(" ++ a ++ ")") = .ok ⟨"(" ++ a ++ ")", [.group pattern.tokens]⟩ := by
  refine ⟨fun b hb => ?_, compile_group ha⟩
  have hrun := readFrom_append ha hb
  unfold compile
  generalize readFrom 0 {} (Lexeme.scan b.toList) = result at hrun ⊢
  generalize readFrom 0 {} (Lexeme.scan (a ++ b).toList) = result' at hrun ⊢
  constructor
  · intro other hother
    cases hrun with
    | ok htokens =>
      cases hother
      rw [htokens]
    | error hfault => cases hother
  · intro e he
    cases hrun with
    | ok htokens => cases he
    | @error fault fault' hfault =>
      cases he
      obtain ⟨offset', fault'⟩ := fault'
      obtain ⟨rfl, rfl⟩ := hfault
      rfl

/-- Behind the letter `é`, of two bytes, an escaped point joins the literal, and the fault
of an open group is reported three bytes further on. -/
theorem compile_composes_behind_literal :
    let given : Token := .component ⟨.single .given, false⟩
    let family : Token := .component ⟨.single .family, false⟩
    compile "gé" = .ok ⟨"gé", [given, .literal "é"]⟩ ∧
      compile "\\.f" = .ok ⟨"\\.f", [.literal ".", family]⟩ ∧
      compile "gé\\.f" = .ok ⟨"gé\\.f", [given, .literal "é.", family]⟩ ∧
      compile "+(q" = .error ⟨"+(q", 2, .danglingMark⟩ ∧
      compile "gé+(q" = .error ⟨"gé+(q", 5, .danglingMark⟩ ∧
      compile "(gé)" = .ok ⟨"(gé)", [.group [given, .literal "é"]]⟩ := by
  intro given family
  have ha : compile "gé" = .ok ⟨"gé", [given, .literal "é"]⟩ := rfl
  have hok : compile "\\.f" = .ok ⟨"\\.f", [.literal ".", family]⟩ := rfl
  have herror : compile "+(q" = .error ⟨"+(q", 2, .danglingMark⟩ := rfl
  obtain ⟨happend, hgroup⟩ := compile_composes ha
  have htokens := (happend "\\.f" (endsRun_cons (by decide) _)).1 _ hok
  have hfault := (happend "+(q" (endsRun_cons (by decide) _)).2 _ herror
  exact ⟨ha, hok, htokens, herror, hfault, hgroup⟩

end Pattern
end PersonalNames

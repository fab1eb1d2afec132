import Mathlib.Data.List.Chain
import PersonalNames.Proofs.Pattern.Grammar

/-! # Normal forms of patterns

Compiling gives tokens of a certain shape only: literals of a sequence are fused,
marks stand in one order and around one token, and behind marks a literal is what a
single backslash or a single run can spell.  `IsNormal` says this of a token and
`IsNormalSequence` of a sequence.

Conversely every sequence of this shape is the compiled form of a text.  `written`
gives such a text: it escapes literals character by character, so that they cannot
grow together with what stands beside them, and writes only the runs behind marks as
they are.  `compile_normal_iff_written` puts both directions together.
-/
namespace PersonalNames
namespace Token

/-! ## Normal tokens -/

/-- The sources that component codes stand for. -/
inductive IsCoded : Source → Prop
  | single (kind : Component) : IsCoded (.single kind)
  | givenOrFamily : IsCoded (.either .given .family)
  | familyOrGiven : IsCoded (.either .family .given)

/-- Whether two tokens may stand next to each other: two literals would be one. -/
def Apart : Token → Token → Prop
  | .literal _, .literal _ => False
  | _, _ => True

/-- Whether a token may stand behind marks: it has none of its own, and a literal is
one character or a run without reserved characters. -/
def TakesMarks : Token → Prop
  | .literal text => text.length = 1 ∨ ∀ c ∈ text.toList, Lexeme.isReserved c = false
  | .modified _ _ | .conditional _ _ => False
  | .component _ | .separator _ | .group _ => True

/-- The tokens that a compiled sequence may have. -/
inductive IsNormal : Token → Prop
  | component {reference : Reference} : IsCoded reference.source → IsNormal (.component reference)
  | literal {text : String} : text ≠ "" → IsNormal (.literal text)
  | separator {index : Nat} : 1 ≤ index → index ≤ 3 → IsNormal (.separator index)
  | group {tokens : List Token} :
      (∀ token ∈ tokens, IsNormal token) → tokens.IsChain Apart → IsNormal (.group tokens)
  | modified {modifiers : List Modifier} {token : Token} :
      modifiers ≠ [] → token.TakesMarks → IsNormal token → IsNormal (.modified modifiers token)
  | conditional (condition : Condition) {token : Token} :
      token.TakesMarks → IsNormal token → IsNormal (.conditional condition token)
  | conditionalModified (condition : Condition) {modifiers : List Modifier} {token : Token} :
      modifiers ≠ [] → token.TakesMarks → IsNormal token →
        IsNormal (.conditional condition (.modified modifiers token))

/-- The sequences that compiling may give. -/
structure IsNormalSequence (tokens : List Token) : Prop where
  isNormal : ∀ token ∈ tokens, token.IsNormal
  apart : tokens.IsChain Apart

/-! ## Writing tokens -/

/-- The code of a source. -/
def sourceCode : Source → Char
  | .single .title => 't'
  | .single .given => 'g'
  | .single .middle => 'm'
  | .single .family => 'f'
  | .single .generational => 's'
  | .single .credentials => 'c'
  | .either .family _ => 'E'
  | .either _ _ => 'e'

/-- Text with a backslash in front of every character. -/
def escaped (text : List Char) : List Char :=
  text.flatMap fun c => ['\\', c]

mutual

/-- A token as it may be written in a pattern.  Text behind marks is written as it
is, unless it is a single character. -/
def written (marked : Bool) : Token → List Char
  | .component reference =>
    sourceCode reference.source :: (if reference.isInitial then ['*'] else [])
  | .literal text =>
    if marked && text.length ≠ 1 then text.toList else escaped text.toList
  | .separator index => (Lexeme.separator index).spelling
  | .group tokens => '(' :: (writtenAll tokens ++ [')'])
  | .modified modifiers token => modifiers.map Modifier.code ++ written true token
  | .conditional condition token => condition.code :: written true token

/-- Tokens written one after the other. -/
def writtenAll : List Token → List Char
  | [] => []
  | token :: tokens => written false token ++ writtenAll tokens

end

end Token

namespace Grammar

open Token
open Lexeme (EndsRun endsRun_cons)

/-! ## What is derived is normal -/

theorem isCoded_of_mem_components {code : Char} {reference : Reference}
    (h : (code, reference) ∈ components) : IsCoded reference.source := by
  simp only [components, List.mem_cons, Prod.mk.injEq, List.not_mem_nil, or_false] at h
  rcases h with h | h | h | h | h | h | h | h | h | h | h
  all_goals
    obtain ⟨rfl, rfl⟩ := h
    constructor

theorem bounds_of_mem_separators {code : Char} {index : Nat} (h : (code, index) ∈ separators) :
    1 ≤ index ∧ index ≤ 3 := by
  simp only [separators, List.mem_cons, Prod.mk.injEq, List.not_mem_nil, or_false] at h
  omega

/-- Joining either makes one literal of two, or the two tokens may stand next to each
other. -/
theorem join_cases (token : Token) (tokens : List Token) :
    (∃ text more rest, token = .literal text ∧ tokens = .literal more :: rest ∧
      join token tokens = .literal (text ++ more) :: rest) ∨
    (join token tokens = token :: tokens ∧ ∀ next ∈ tokens.head?, Apart token next) := by
  cases tokens with
  | nil => exact Or.inr ⟨by cases token <;> rfl, by simp⟩
  | cons head rest =>
    rw [List.head?_cons]
    simp only [Option.mem_some_iff, forall_eq']
    cases token with
    | literal text =>
      cases head with
      | literal more => exact Or.inl ⟨text, more, rest, rfl, rfl, rfl⟩
      | _ => exact Or.inr ⟨rfl, trivial⟩
    | _ => exact Or.inr ⟨rfl, trivial⟩

theorem apart_literal {text more : String} {next : Token} (h : Apart (.literal text) next) :
    Apart (.literal more) next := by
  cases next with
  | literal _ => exact h
  | _ => trivial

/-- A normal token joins a normal sequence to a normal one. -/
theorem isNormalSequence_join {token : Token} {tokens : List Token} (h : token.IsNormal)
    (hs : IsNormalSequence tokens) : IsNormalSequence (join token tokens) := by
  obtain ⟨hnormal, hapart⟩ := hs
  rcases join_cases token tokens with ⟨text, more, rest, rfl, rfl, hjoin⟩ | ⟨hjoin, hnext⟩
  · rw [List.isChain_cons] at hapart
    rw [hjoin]
    constructor
    · rintro other (_ | ⟨_, hother⟩)
      · cases h with
        | literal htext => exact .literal (by simp [htext])
      · exact hnormal other (.tail _ hother)
    · exact List.isChain_cons.mpr ⟨fun next hnext => apart_literal (hapart.1 next hnext), hapart.2⟩
  · rw [hjoin]
    constructor
    · rintro other (_ | ⟨_, hother⟩)
      · exact h
      · exact hnormal other hother
    · exact List.isChain_cons.mpr ⟨hnext, hapart⟩

/-- Fusing normal tokens gives a normal sequence. -/
theorem isNormalSequence_fuse {tokens : List Token} (h : ∀ token ∈ tokens, token.IsNormal) :
    IsNormalSequence (fuse tokens) := by
  induction tokens with
  | nil => exact ⟨h, .nil⟩
  | cons token tokens ih =>
    exact isNormalSequence_join (h token (.head _))
      (ih fun other hother => h other (.tail _ hother))

mutual

/-- A base is a normal token that takes marks. -/
theorem Base.isNormal {text rest : List Char} {token : Token} :
    Base text rest token → token.IsNormal ∧ token.TakesMarks
  | .group h => by
    obtain ⟨hnormal, hapart⟩ := isNormalSequence_fuse h.isNormal
    exact ⟨.group hnormal hapart, trivial⟩
  | .escaped c rest => ⟨.literal (by simp), Or.inl (by simp)⟩
  | .separator rest h => by
    obtain ⟨hlow, hhigh⟩ := bounds_of_mem_separators h
    exact ⟨.separator hlow hhigh, trivial⟩
  | .component h _ => ⟨.component (isCoded_of_mem_components h), trivial⟩
  | .starred rest h => by
    have hcoded := isCoded_of_mem_components h
    exact ⟨.component hcoded, trivial⟩
  | .run hne htext _ => ⟨.literal (by simpa using hne), Or.inr (by simpa using htext)⟩

theorem Item.isNormal {text rest : List Char} {token : Token} :
    Item text rest token → token.IsNormal
  | .bare h => h.isNormal.1
  | .modified hne h => .modified hne h.isNormal.2 h.isNormal.1
  | .conditional c h => .conditional c h.isNormal.2 h.isNormal.1
  | .conditionalModified c hne h => .conditionalModified c hne h.isNormal.2 h.isNormal.1

theorem Sequence.isNormal {text rest : List Char} {tokens : List Token} :
    Sequence text rest tokens → ∀ token ∈ tokens, token.IsNormal
  | .nil _ => by simp
  | .cons hitem h => by
    rintro token (_ | ⟨_, htoken⟩)
    · exact hitem.isNormal
    · exact h.isNormal token htoken

end

/-! ## What is normal is derived -/

/-- A literal as one literal for each of its characters, the way it is written when
no marks stand in front of it. -/
def letters : Token → List Token
  | .literal text => text.toList.map fun c => .literal (String.ofList [c])
  | token => [token]

/-- Fusing puts the letters of a literal together again. -/
theorem fuse_letters {text : List Char} (hne : text ≠ []) {tokens : List Token}
    (hnext : ∀ next ∈ (fuse tokens).head?, Apart (.literal "") next) :
    fuse ((text.map fun c => .literal (String.ofList [c])) ++ tokens) =
      .literal (String.ofList text) :: fuse tokens := by
  induction text with
  | nil => exact absurd rfl hne
  | cons c text ih =>
    rw [List.map_cons, List.cons_append, fuse]
    cases text with
    | nil =>
      rcases join_cases (.literal (String.ofList [c])) (fuse tokens) with
        ⟨_, more, rest, _, hfuse, _⟩ | ⟨hjoin, _⟩
      · rw [hfuse] at hnext
        exact (hnext _ rfl).elim
      · exact hjoin
    | cons d text =>
      rw [ih (List.cons_ne_nil d text), join, ← String.ofList_append, List.singleton_append]

/-- A normal sequence is what its letters are fused to. -/
theorem fuse_flatMap_letters {tokens : List Token} (h : IsNormalSequence tokens) :
    fuse (tokens.flatMap letters) = tokens := by
  obtain ⟨hnormal, hapart⟩ := h
  induction tokens with
  | nil => rfl
  | cons token tokens ih =>
    rw [List.isChain_cons] at hapart
    have htokens := ih (fun other hother => hnormal other (.tail _ hother)) hapart.2
    rw [List.flatMap_cons]
    cases token with
    | literal text =>
      cases hnormal _ (.head _) with
      | literal htext =>
        have hnext : ∀ next ∈ (fuse (tokens.flatMap letters)).head?, Apart (.literal "") next := by
          rw [htokens]
          exact fun next hnext => apart_literal (hapart.1 next hnext)
        rw [letters, fuse_letters (by simpa using htext) hnext, htokens, String.ofList_toList]
    | _ =>
      show join _ (fuse (tokens.flatMap letters)) = _
      rw [htokens]
      rfl

theorem Sequence.append {text more rest : List Char} {tokens others : List Token} :
    Sequence text (more ++ rest) tokens → Sequence more rest others →
      Sequence (text ++ more) rest (tokens ++ others)
  | .nil _, h => h
  | @Sequence.cons text text' _ token tokens hitem hseq, h => by
    rw [List.append_assoc]
    rw [← List.append_assoc] at hitem
    exact .cons hitem (hseq.append h)

theorem Item.sequence {text rest : List Char} {token : Token} (h : Item text rest token) :
    Sequence text rest [token] := by
  rw [← List.append_nil text]
  exact .cons h (.nil rest)

/-- Escaped text is a sequence of its letters. -/
theorem sequence_escaped (text : List Char) (rest : List Char) :
    Sequence (escaped text) rest (text.map fun c => .literal (String.ofList [c])) := by
  induction text with
  | nil => exact .nil rest
  | cons c text ih => exact .cons (.bare (.escaped c _)) ih

theorem mem_components_of_isCoded {source : Source} (h : IsCoded source) :
    (sourceCode source, ⟨source, false⟩) ∈ components := by
  cases h with
  | single kind => cases kind <;> decide
  | givenOrFamily => decide
  | familyOrGiven => decide

theorem base_component {reference : Reference} (h : IsCoded reference.source) (marked : Bool)
    {rest : List Char} (hrest : EndsRun rest) :
    Base (written marked (.component reference)) rest (.component reference) := by
  obtain ⟨source, isInitial⟩ := reference
  have hmem := mem_components_of_isCoded h
  rw [written]
  cases isInitial with
  | true => exact .starred rest hmem
  | false => exact .component hmem hrest.head?_ne_star

theorem base_separator {index : Nat} (hlow : 1 ≤ index) (hhigh : index ≤ 3) (marked : Bool)
    (rest : List Char) : Base (written marked (.separator index)) rest (.separator index) := by
  rw [written]
  obtain rfl | rfl | rfl : index = 1 ∨ index = 2 ∨ index = 3 := by omega
  all_goals exact .separator rest (by decide)

/-- A literal behind marks is one escaped character or one run. -/
theorem base_literal {text : String} (htext : text ≠ "") (h : (Token.literal text).TakesMarks)
    {rest : List Char} (hrest : EndsRun rest) :
    Base (written true (.literal text)) rest (.literal text) := by
  rw [written]
  by_cases hlength : text.length = 1
  · rw [if_neg (by simp [hlength])]
    obtain ⟨c, hc⟩ := List.length_eq_one_iff.mp hlength
    rw [← String.ofList_toList (s := text), hc, String.toList_ofList]
    exact .escaped c rest
  · rw [if_pos (by simp [hlength])]
    have hrun : ∀ c ∈ text.toList, Lexeme.isReserved c = false := h.resolve_left hlength
    have hbase := Base.run (by simpa using htext) hrun hrest
    rwa [String.ofList_toList] at hbase

theorem isReserved_of_isAlpha {c : Char} (h : c.isAlpha = true) : Lexeme.isReserved c = true := by
  simp [Lexeme.isReserved, h]

theorem isReserved_sourceCode (source : Source) :
    Lexeme.isReserved (sourceCode source) = true := by
  cases source with
  | single kind => cases kind <;> rfl
  | either first second => cases first <;> rfl

/-- A normal token starts with a reserved character where no marks stand in front of
it, so that it ends a run. -/
theorem endsRun_written {token : Token} (h : token.IsNormal) (rest : List Char) :
    EndsRun (written false token ++ rest) := by
  have hmarks {c : Condition} (text : List Char) : EndsRun (c.code :: text) :=
    endsRun_cons (by cases c <;> decide) text
  cases h with
  | component _ => exact endsRun_cons (isReserved_sourceCode _) _
  | @literal text htext =>
    rw [written, if_neg (by simp)]
    cases hlist : text.toList with
    | nil => exact absurd (by simpa using hlist) htext
    | cons c more => exact endsRun_cons (by decide) _
  | @separator index hlow hhigh =>
    obtain rfl | rfl | rfl : index = 1 ∨ index = 2 ∨ index = 3 := by omega
    all_goals exact endsRun_cons (by decide) _
  | group _ _ => exact endsRun_cons (by decide) _
  | @modified modifiers token hne _ _ =>
    cases modifiers with
    | nil => exact absurd rfl hne
    | cons m modifiers => exact endsRun_cons (isReserved_of_isAlpha (Lexeme.isAlpha_code m)) _
  | conditional c _ _ => exact hmarks _
  | conditionalModified c _ _ _ => exact hmarks _

/-- Normal tokens are derived one after the other if each of them is. -/
theorem sequence_writtenAll {tokens : List Token} (hnormal : ∀ token ∈ tokens, token.IsNormal)
    (h : ∀ token ∈ tokens, ∀ rest, EndsRun rest →
      Sequence (written false token) rest (letters token))
    {rest : List Char} (hrest : EndsRun rest) :
    Sequence (writtenAll tokens) rest (tokens.flatMap letters) := by
  induction tokens with
  | nil => exact .nil rest
  | cons token tokens ih =>
    have hnormal' : ∀ other ∈ tokens, other.IsNormal := fun other hother =>
      hnormal other (.tail _ hother)
    have hends : EndsRun (writtenAll tokens ++ rest) := by
      cases tokens with
      | nil => exact hrest
      | cons next tokens =>
        rw [writtenAll, List.append_assoc]
        exact endsRun_written (hnormal' next (.head _)) _
    rw [writtenAll, List.flatMap_cons]
    exact (h token (.head _) _ hends).append
      (ih hnormal' fun other hother => h other (.tail _ hother))

/-- **A normal token is derived from what is written for it**: as its letters in a
sequence, and as a base behind marks. -/
theorem sequence_written {token : Token} (h : token.IsNormal) :
    (∀ rest, EndsRun rest → Sequence (written false token) rest (letters token)) ∧
    (token.TakesMarks → ∀ rest, EndsRun rest → Base (written true token) rest token) := by
  induction h with
  | component hcoded =>
    exact ⟨fun rest hrest => (Item.bare (base_component hcoded false hrest)).sequence,
      fun _ rest hrest => base_component hcoded true hrest⟩
  | @literal text htext =>
    refine ⟨fun rest _ => ?_, fun htakes rest hrest => base_literal htext htakes hrest⟩
    rw [written, if_neg (by simp)]
    exact sequence_escaped text.toList rest
  | separator hlow hhigh =>
    exact ⟨fun rest _ => (Item.bare (base_separator hlow hhigh false rest)).sequence,
      fun _ rest _ => base_separator hlow hhigh true rest⟩
  | @group tokens hnormal hapart ih =>
    have hbase (marked : Bool) (rest : List Char) :
        Base (written marked (.group tokens)) rest (.group tokens) := by
      have hinside := sequence_writtenAll hnormal (fun token htoken => (ih token htoken).1)
        (endsRun_cons (c := ')') (by decide) rest)
      have hgroup := Base.group hinside
      rw [fuse_flatMap_letters ⟨hnormal, hapart⟩] at hgroup
      rw [written]
      exact hgroup
    exact ⟨fun rest _ => (Item.bare (hbase false rest)).sequence, fun _ rest _ => hbase true rest⟩
  | modified hne htakes _ ih =>
    refine ⟨fun rest hrest => ?_, fun hmarked => hmarked.elim⟩
    rw [written]
    exact (Item.modified hne (ih.2 htakes rest hrest)).sequence
  | conditional c htakes _ ih =>
    refine ⟨fun rest hrest => ?_, fun hmarked => hmarked.elim⟩
    rw [written]
    exact (Item.conditional c (ih.2 htakes rest hrest)).sequence
  | conditionalModified c hne htakes _ ih =>
    refine ⟨fun rest hrest => ?_, fun hmarked => hmarked.elim⟩
    rw [written, written]
    exact (Item.conditionalModified c hne (ih.2 htakes rest hrest)).sequence

end Grammar

/-! ## Compiling and writing -/

namespace Pattern

open Token

/-- The text that is written for tokens. -/
def written (tokens : List Token) : String :=
  String.ofList (writtenAll tokens)

theorem isNormalSequence_of_compile {source : String} {pattern : Pattern}
    (h : Pattern.compile source = .ok pattern) : IsNormalSequence pattern.tokens := by
  obtain ⟨_, items, hsequence, htokens⟩ := Grammar.derives_of_compile h
  rw [htokens]
  exact Grammar.isNormalSequence_fuse hsequence.isNormal

theorem compile_of_isNormalSequence {tokens : List Token} (h : IsNormalSequence tokens) :
    Pattern.compile (written tokens) = .ok ⟨written tokens, tokens⟩ := by
  have hsequence : Grammar.Sequence (writtenAll tokens) [] (tokens.flatMap Grammar.letters) :=
    Grammar.sequence_writtenAll h.isNormal
      (fun token htoken => (Grammar.sequence_written (h.isNormal token htoken)).1)
      Lexeme.endsRun_nil
  refine Grammar.compile_of_derives ⟨tokens.flatMap Grammar.letters, ?_, ?_⟩
  · rw [written, String.toList_ofList]
    exact hsequence
  · exact (Grammar.fuse_flatMap_letters h).symm

/-- **Compiling gives the normal sequences and no others**, and what is written for a
normal sequence compiles to just that sequence. -/
theorem compile_normal_iff_written (tokens : List Token) :
    ((∃ source pattern, Pattern.compile source = .ok pattern ∧ pattern.tokens = tokens) ↔
      IsNormalSequence tokens) ∧
    (IsNormalSequence tokens →
      Pattern.compile (written tokens) = .ok ⟨written tokens, tokens⟩) := by
  refine ⟨⟨?_, fun h => ?_⟩, compile_of_isNormalSequence⟩
  · rintro ⟨source, pattern, h, rfl⟩
    exact isNormalSequence_of_compile h
  · exact ⟨written tokens, _, compile_of_isNormalSequence h, rfl⟩

/-- A literal star stays apart from the component in front of it, and a run behind
marks from the group behind it. -/
theorem compile_written_star_and_run :
    let tokens : List Token :=
      [.component ⟨.single .given, false⟩, .literal "*(",
        .conditional .both (.modified [.uppercase] (.literal ", ")), .group [.literal "é"]]
    IsNormalSequence tokens ∧
      Pattern.compile "g\\*\\(+U, (\\é)" = .ok ⟨"g\\*\\(+U, (\\é)", tokens⟩ := by
  intro tokens
  have hcomma : Lexeme.isReserved ',' = false := by decide
  have hblank : Lexeme.isReserved ' ' = false := by decide
  have hnormal : IsNormalSequence tokens := by
    constructor
    · intro token htoken
      simp only [tokens, List.mem_cons, List.not_mem_nil, or_false] at htoken
      rcases htoken with rfl | rfl | rfl | rfl
      · exact .component (.single .given)
      · exact .literal (by decide)
      · exact .conditionalModified .both (by simp) (Or.inr (by simp [hcomma, hblank]))
          (.literal (by decide))
      · have hinner : ∀ token ∈ [Token.literal "é"], IsNormal token := by
          intro token htoken
          rw [List.mem_singleton.mp htoken]
          exact .literal (by decide)
        exact .group hinner (.singleton _)
    · exact .cons_cons trivial (.cons_cons trivial (.cons_cons trivial (.singleton _)))
  exact ⟨hnormal, (compile_normal_iff_written tokens).2 hnormal⟩

end Pattern
end PersonalNames

import PersonalNames.Pattern.Compile
import PersonalNames.Pattern.Evaluation

/-! # Which tokens of a sequence are shown

A sequence is put together from the left, and for each of its tokens it is decided
whether the token is shown.  `decisionsFrom` lists these decisions: what a
sequence gives is what they keep of its pieces (`assembleFrom_eq_append_keep`), and
each of them is the condition of a token at its place, between what has been kept
before it and the piece behind it (`getElem?_decisionsFrom`).

A token under `+` or `=` asks for content behind it.  The piece behind it counts
there without its condition, so a token that is shown under `+` or `=` stands in
front of content, and never at the end of a sequence; but that content is only
shown if its own condition holds as well (`joiner_faces_content`). -/
namespace PersonalNames
namespace Piece

/-! ## Decisions -/

/-- For each piece of a sequence, whether it is shown. -/
def decisionsFrom (soFar : Piece) (previousEmpty : Bool) :
    List (Option Condition × Piece) → List Bool
  | [] => []
  | (condition, p) :: rest =>
    if isShown condition soFar previousEmpty rest then
      true :: decisionsFrom (soFar.append p) p.isEmpty rest
    else false :: decisionsFrom soFar true rest

/-- The pieces that decisions keep, one behind the other. -/
def keep : List Bool → List (Option Condition × Piece) → Piece
  | true :: decisions, (_, p) :: rest => p.append (keep decisions rest)
  | false :: decisions, _ :: rest => keep decisions rest
  | _, _ => empty

/-- Whether the piece in front of a place showed nothing.  In front of the first
place stands what `previousEmpty` says. -/
def nothingBefore (previousEmpty : Bool) (decisions : List Bool)
    (pieces : List (Option Condition × Piece)) : Nat → Bool
  | 0 => previousEmpty
  | i + 1 =>
    match decisions[i]?, pieces[i]? with
    | some true, some (_, p) => p.isEmpty
    | _, _ => true

section
variable {condition : Option Condition} {soFar p : Piece} {previousEmpty : Bool}
  {rest : List (Option Condition × Piece)}

theorem decisionsFrom_of_shown (h : isShown condition soFar previousEmpty rest = true) :
    decisionsFrom soFar previousEmpty ((condition, p) :: rest) =
      true :: decisionsFrom (soFar.append p) p.isEmpty rest := by
  simp [decisionsFrom, h]

theorem decisionsFrom_of_hidden (h : isShown condition soFar previousEmpty rest = false) :
    decisionsFrom soFar previousEmpty ((condition, p) :: rest) =
      false :: decisionsFrom soFar true rest := by
  simp [decisionsFrom, h]

end

theorem keep_nil (decisions : List Bool) : keep decisions [] = empty := by
  cases decisions with
  | nil => rfl
  | cons shown _ => cases shown <;> rfl

/-- One place further on, the first piece stands in front of the others. -/
theorem nothingBefore_cons (previousEmpty shown : Bool) (decisions : List Bool)
    (first : Option Condition × Piece) (rest : List (Option Condition × Piece)) (i : Nat) :
    nothingBefore previousEmpty (shown :: decisions) (first :: rest) (i + 1) =
      nothingBefore (!shown || first.2.isEmpty) decisions rest i := by
  cases i with
  | zero => cases shown <;> rfl
  | succ i => rfl

/-- A piece that is shown comes behind what has been kept in front of it. -/
theorem keep_take_succ {decisions : List Bool} {pieces : List (Option Condition × Piece)} {i : Nat}
    {condition : Option Condition} {p : Piece} (hshown : decisions[i]? = some true)
    (hpiece : pieces[i]? = some (condition, p)) :
    keep decisions (pieces.take (i + 1)) = (keep decisions (pieces.take i)).append p := by
  induction i generalizing decisions pieces with
  | zero =>
    match decisions, pieces, hshown, hpiece with
    | true :: decisions, (_, _) :: rest, _, rfl =>
      simp [keep, keep_nil, append_empty, empty_append]
  | succ i ih =>
    match decisions, pieces, hshown, hpiece with
    | true :: decisions, (_, q) :: rest, hshown, hpiece =>
      simp only [List.take_succ_cons, keep]
      rw [ih hshown hpiece, append_assoc]
    | false :: decisions, _ :: rest, hshown, hpiece =>
      simp only [List.take_succ_cons, keep]
      exact ih hshown hpiece

/-- **What a sequence gives is what its decisions keep.** -/
theorem assembleFrom_eq_append_keep (soFar : Piece) (previousEmpty : Bool)
    (pieces : List (Option Condition × Piece)) :
    assembleFrom soFar previousEmpty pieces =
      soFar.append (keep (decisionsFrom soFar previousEmpty pieces) pieces) := by
  fun_induction assembleFrom soFar previousEmpty pieces with
  | case1 soFar => rw [keep_nil, append_empty]
  | case2 soFar previousEmpty condition p rest hshown ih =>
    rw [decisionsFrom_of_shown hshown, ih, append_assoc]
    rfl
  | case3 soFar previousEmpty condition p rest hhidden ih =>
    rw [decisionsFrom_of_hidden (Bool.eq_false_iff.2 hhidden), ih]
    rfl

/-- **What is decided at a place**: the condition there, between what has been kept
in front of it and the piece behind it. -/
theorem getElem?_decisionsFrom (soFar : Piece) (previousEmpty : Bool)
    {pieces : List (Option Condition × Piece)} {i : Nat} {condition : Option Condition} {p : Piece}
    (h : pieces[i]? = some (condition, p)) :
    (decisionsFrom soFar previousEmpty pieces)[i]? =
      some (isShown condition
        (soFar.append (keep (decisionsFrom soFar previousEmpty pieces) (pieces.take i)))
        (nothingBefore previousEmpty (decisionsFrom soFar previousEmpty pieces) pieces i)
        (pieces.drop (i + 1))) := by
  -- The place moves to the front, and what is in front of it into `soFar`.
  induction pieces generalizing soFar previousEmpty i with
  | nil => cases h
  | cons first rest ih =>
    obtain ⟨firstCondition, q⟩ := first
    cases i with
    | zero =>
      cases h
      rw [List.take_zero, keep_nil, append_empty, nothingBefore]
      cases hfirst : isShown condition soFar previousEmpty rest with
      | true =>
        rw [decisionsFrom_of_shown hfirst]
        exact congrArg some hfirst.symm
      | false =>
        rw [decisionsFrom_of_hidden hfirst]
        exact congrArg some hfirst.symm
    | succ i =>
      rw [List.getElem?_cons_succ] at h
      cases hfirst : isShown firstCondition soFar previousEmpty rest with
      | true =>
        rw [decisionsFrom_of_shown hfirst, List.getElem?_cons_succ, ih _ _ h, nothingBefore_cons,
          List.take_succ_cons, List.drop_succ_cons, keep, append_assoc]
        rfl
      | false =>
        rw [decisionsFrom_of_hidden hfirst, List.getElem?_cons_succ, ih _ _ h, nothingBefore_cons,
          List.take_succ_cons, List.drop_succ_cons, keep]
        rfl

/-- A condition that asks for content behind its token. -/
def AsksForContent (condition : Option Condition) : Prop :=
  condition = some .both ∨ condition = some .beforeContent

theorem headHasContent_of_isShown {condition : Option Condition} {soFar : Piece}
    {previousEmpty : Bool} {rest : List (Option Condition × Piece)} (h : AsksForContent condition)
    (hshown : isShown condition soFar previousEmpty rest = true) : headHasContent rest = true := by
  rcases h with rfl | rfl
  · exact (Bool.and_eq_true_iff.1 hshown).2
  · exact hshown

theorem output_ne_of_isShown_both {soFar : Piece} {previousEmpty : Bool}
    {rest : List (Option Condition × Piece)}
    (hshown : isShown (some .both) soFar previousEmpty rest = true) : soFar.output ≠ "" := by
  have hbefore : (!soFar.isEmpty) = true := (Bool.and_eq_true_iff.1 hshown).1
  simpa [isEmpty] using hbefore

end Piece

namespace Scene

variable (scene : Scene)

/-- For each token of a sequence, whether it is shown. -/
def decisions (tokens : List Token) : List Bool :=
  Piece.decisionsFrom .empty true (scene.pieces tokens)

/-- What the tokens of a sequence show that stand in front of a place. -/
def shownBefore (tokens : List Token) (place : Nat) : Piece :=
  Piece.keep (scene.decisions tokens) ((scene.pieces tokens).take place)

theorem pieces_eq_map (tokens : List Token) :
    scene.pieces tokens = tokens.map fun token => (token.condition?, scene.piece token) := by
  induction tokens with
  | nil => rfl
  | cons token tokens ih => rw [pieces, ih, List.map_cons]

theorem getElem?_pieces {tokens : List Token} {i : Nat} {token : Token}
    (h : tokens[i]? = some token) :
    (scene.pieces tokens)[i]? = some (token.condition?, scene.piece token) := by
  rw [pieces_eq_map, List.getElem?_map, h]
  rfl

/-- A sequence gives what its decisions keep. -/
theorem sequence_eq_keep (tokens : List Token) :
    scene.sequence tokens = Piece.keep (scene.decisions tokens) (scene.pieces tokens) := by
  unfold sequence decisions Piece.assemble
  rw [Piece.assembleFrom_eq_append_keep, Piece.empty_append]

theorem pieces_drop (tokens : List Token) (n : Nat) :
    (scene.pieces tokens).drop n = scene.pieces (tokens.drop n) := by
  rw [pieces_eq_map, pieces_eq_map, List.map_drop]

/-- What is decided for a token. -/
theorem getElem?_decisions {tokens : List Token} {i : Nat} {token : Token}
    (h : tokens[i]? = some token) :
    (scene.decisions tokens)[i]? =
      some (Piece.isShown token.condition? (scene.shownBefore tokens i)
        (Piece.nothingBefore true (scene.decisions tokens) (scene.pieces tokens) i)
        (scene.pieces (tokens.drop (i + 1)))) := by
  have hplace := Piece.getElem?_decisionsFrom .empty true (scene.getElem?_pieces h)
  rwa [Piece.empty_append, pieces_drop] at hplace

theorem exists_of_headHasContent {tokens : List Token} {n : Nat}
    (h : Piece.headHasContent (scene.pieces (tokens.drop n)) = true) :
    ∃ next, tokens[n]? = some next ∧ (scene.piece next).output ≠ "" := by
  cases hdrop : tokens.drop n with
  | nil =>
    rw [hdrop] at h
    cases h
  | cons next rest =>
    rw [hdrop] at h
    refine ⟨next, ?_, ?_⟩
    · rw [← List.head?_drop, hdrop, List.head?_cons]
    · simpa [pieces, Piece.headHasContent, Piece.isEmpty] using h

/-- **A joiner that is shown stands in front of content.**  The token behind it has
content; it is shown as well if it has no condition, and otherwise if its own
condition holds there.  What has been shown up to it is not empty behind `+`. -/
theorem joiner_faces_content (tokens : List Token) {i : Nat} {joiner : Token}
    (hjoiner : tokens[i]? = some joiner) (hcondition : Piece.AsksForContent joiner.condition?)
    (hshown : (scene.decisions tokens)[i]? = some true) :
    scene.sequence tokens = Piece.keep (scene.decisions tokens) (scene.pieces tokens) ∧
    ∃ next, tokens[i + 1]? = some next ∧ (scene.piece next).output ≠ "" ∧
      (next.condition? = none → (scene.decisions tokens)[i + 1]? = some true) ∧
      (∀ c, next.condition? = some c → (scene.decisions tokens)[i + 1]? =
        some (c.holds (!(scene.shownBefore tokens (i + 1)).isEmpty) (scene.piece joiner).isEmpty
          (Piece.headHasContent (scene.pieces (tokens.drop (i + 2)))))) ∧
      (joiner.condition? = some .both → (scene.shownBefore tokens (i + 1)).output ≠ "") := by
  have hdecision := hshown
  rw [scene.getElem?_decisions hjoiner, Option.some_inj] at hdecision
  obtain ⟨next, hnext, hcontent⟩ :=
    scene.exists_of_headHasContent (Piece.headHasContent_of_isShown hcondition hdecision)
  have hprevious : Piece.nothingBefore true (scene.decisions tokens) (scene.pieces tokens) (i + 1) =
      (scene.piece joiner).isEmpty := by
    simp only [Piece.nothingBefore, hshown, scene.getElem?_pieces hjoiner]
  have hnextDecision := scene.getElem?_decisions hnext
  rw [hprevious] at hnextDecision
  refine ⟨scene.sequence_eq_keep tokens, next, hnext, hcontent, ?_, ?_, ?_⟩
  · intro hnone
    rw [hnextDecision, hnone]
    rfl
  · intro c hsome
    rw [hnextDecision, hsome]
    rfl
  · intro hboth
    rw [hboth] at hdecision
    have happend : scene.shownBefore tokens (i + 1) =
        (scene.shownBefore tokens i).append (scene.piece joiner) :=
      Piece.keep_take_succ hshown (scene.getElem?_pieces hjoiner)
    have hbefore : (scene.shownBefore tokens i).output ≠ "" :=
      Piece.output_ne_of_isShown_both hdecision
    rw [happend]
    exact mt (fun h => (String.append_eq_empty_iff.1 h).1) hbefore

/-- A given and a family name in plain text. -/
def johnSmith : Scene :=
  ⟨.plain, .ofGivenFamily "John" "Smith", {}⟩

/-- A given name, a separator under a condition, and a family name. -/
def givenFamily (separator family : Condition) : List Token :=
  [.component ⟨.single .given, false⟩, .conditional separator (.separator 1),
    .conditional family (.component ⟨.single .family, false⟩)]

/-- In `g+i-f` the separator and the family name are both shown. -/
theorem joiner_faces_content_afterContent :
    (johnSmith.decisions (givenFamily .both .afterContent))[1]? = some true ∧
      (johnSmith.decisions (givenFamily .both .afterContent))[2]? = some true := by
  refine ⟨by rfl, ?_⟩
  obtain ⟨-, next, hnext, -, -, hown, hbefore⟩ :=
    johnSmith.joiner_faces_content (givenFamily .both .afterContent) (i := 1)
      rfl (.inl rfl) (by rfl)
  cases hnext
  rw [hown .afterContent rfl]
  simpa [Condition.holds, Piece.isEmpty] using hbefore rfl

/-! ## A joiner in front of a token that is not shown -/

/-- That every joiner that is shown stands in front of a token that is shown and
has content. -/
def JoinersFaceShown (tokens : List Token) : Prop :=
  ∀ (i : Nat) (joiner : Token), tokens[i]? = some joiner →
    Piece.AsksForContent joiner.condition? → (scene.decisions tokens)[i]? = some true →
      ∃ next, tokens[i + 1]? = some next ∧ (scene.piece next).output ≠ "" ∧
        (scene.decisions tokens)[i + 1]? = some true

/-- In `g+i~f` the separator is shown because there is a family name, and the family
name is not shown because there is a given name. -/
theorem not_joinersFaceShown_afterNothing :
    Pattern.compile "g+i~f" = .ok ⟨"g+i~f", givenFamily .both .afterNothing⟩ ∧
      ¬ johnSmith.JoinersFaceShown (givenFamily .both .afterNothing) ∧
      (johnSmith.sequence (givenFamily .both .afterNothing)).output = "John " := by
  refine ⟨by rfl, ?_, by rfl⟩
  intro h
  obtain ⟨_, -, -, hfamily⟩ := h 1 (.conditional .both (.separator 1)) rfl (.inl rfl) (by rfl)
  have hhidden : (johnSmith.decisions (givenFamily .both .afterNothing))[2]? = some false := by rfl
  rw [hhidden] at hfamily
  cases hfamily

end Scene
end PersonalNames

import PersonalNames.Proofs.Pattern.Decisions

/-! # Dissolving a leading group

A group at the start of a sequence is put together by itself, and the tokens behind it
are put behind what it gives.  Without the parentheses the tokens of the group are put
together from the same state, and the tokens behind it from the same text; but the last
of the group then has a token behind it, and the first behind it has another token in
front.  So the parentheses may go if the last token of the group does not look at what is
behind it, and the first token behind it does not look at the token in front
(`leading_group_dissolves`).

What a sequence gives depends on each of its tokens through the piece and the condition
only.  So sequences that give the same may replace each other in every context, at the
top or within the groups of another sequence (`SequenceContext.sequence_fill`).
-/
namespace PersonalNames

namespace Piece

/-! ## Putting two sequences together -/

/-- A condition that looks at the piece behind its token. -/
def LooksAhead (condition : Option Condition) : Prop :=
  condition = some .both ∨ condition = some .beforeContent ∨ condition = some .beforeNothing

section
variable {condition : Option Condition} (soFar : Piece) (previousEmpty : Bool)

theorem isShown_of_not_looksAhead (h : ¬ LooksAhead condition)
    (rest rest' : List (Option Condition × Piece)) :
    isShown condition soFar previousEmpty rest = isShown condition soFar previousEmpty rest' := by
  cases condition with
  | none => rfl
  | some c =>
    cases c with
    | both => exact absurd (Or.inl rfl) h
    | beforeContent => exact absurd (Or.inr (Or.inl rfl)) h
    | beforeNothing => exact absurd (Or.inr (Or.inr rfl)) h
    | _ => rfl

/-- Only an alternative looks at the token in front of it. -/
theorem isShown_of_ne_alternative (h : condition ≠ some .alternative) (previousEmpty' : Bool)
    (rest : List (Option Condition × Piece)) :
    isShown condition soFar previousEmpty rest = isShown condition soFar previousEmpty' rest := by
  cases condition with
  | none => rfl
  | some c =>
    cases c with
    | alternative => exact absurd rfl h
    | _ => rfl

/-- **A sequence whose last piece does not look ahead is put together as it is by itself**,
and what follows is put together behind it. -/
theorem assembleFrom_append {pieces : List (Option Condition × Piece)}
    (h : ∀ last ∈ pieces.getLast?, ¬ LooksAhead last.1)
    (more : List (Option Condition × Piece)) :
    ∃ lastEmpty, assembleFrom soFar previousEmpty (pieces ++ more) =
      assembleFrom (assembleFrom soFar previousEmpty pieces) lastEmpty more := by
  induction pieces generalizing soFar previousEmpty with
  | nil => exact ⟨previousEmpty, rfl⟩
  | cons first rest ih =>
    obtain ⟨condition, p⟩ := first
    have hshown : isShown condition soFar previousEmpty (rest ++ more) =
        isShown condition soFar previousEmpty rest := by
      cases rest with
      | nil => exact isShown_of_not_looksAhead soFar previousEmpty (h _ rfl) _ _
      | cons second rest => rfl
    have hrest : ∀ last ∈ rest.getLast?, ¬ LooksAhead last.1 := fun last hlast => by
      cases rest with
      | nil => cases hlast
      | cons second rest => exact h last (by rwa [List.getLast?_cons_cons])
    rw [List.cons_append, assembleFrom, assembleFrom, hshown]
    split
    · exact ih (soFar.append p) p.isEmpty hrest
    · exact ih soFar true hrest

theorem assembleFrom_of_ne_alternative {pieces : List (Option Condition × Piece)}
    (h : ∀ first ∈ pieces.head?, first.1 ≠ some .alternative) (previousEmpty' : Bool) :
    assembleFrom soFar previousEmpty pieces = assembleFrom soFar previousEmpty' pieces := by
  cases pieces with
  | nil => rfl
  | cons first rest =>
    rw [assembleFrom, assembleFrom,
      isShown_of_ne_alternative soFar previousEmpty (h first rfl) previousEmpty']

end

end Piece

/-! ## Contexts -/

mutual

/-- A token with a place for a sequence in one of its groups. -/
inductive TokenContext where
  | group (inside : SequenceContext)
  | modified (modifiers : List Modifier) (token : TokenContext)
  | conditional (condition : Condition) (token : TokenContext)

/-- A sequence with a place for a sequence: the whole, or a place in one of its tokens. -/
inductive SequenceContext where
  | whole
  | within (before : List Token) (token : TokenContext) (after : List Token)

end

mutual

/-- The token with a sequence in its place. -/
def TokenContext.fill (tokens : List Token) : TokenContext → Token
  | .group inside => .group (inside.fill tokens)
  | .modified modifiers token => .modified modifiers (token.fill tokens)
  | .conditional condition token => .conditional condition (token.fill tokens)

/-- The sequence with a sequence in its place. -/
def SequenceContext.fill (tokens : List Token) : SequenceContext → List Token
  | .whole => tokens
  | .within before token after => before ++ token.fill tokens :: after

end

namespace TokenContext

theorem fill_ne_component (context : TokenContext) (tokens : List Token) (reference : Reference) :
    context.fill tokens ≠ .component reference := by
  intro h
  cases context <;> cases h

theorem condition?_fill (context : TokenContext) (tokens others : List Token) :
    (context.fill tokens).condition? = (context.fill others).condition? := by
  cases context <;> rfl

end TokenContext

namespace Scene

variable (scene : Scene)

theorem pieces_append (tokens others : List Token) :
    scene.pieces (tokens ++ others) = scene.pieces tokens ++ scene.pieces others := by
  rw [pieces_eq_map, pieces_eq_map, pieces_eq_map, List.map_append]

end Scene

mutual

theorem TokenContext.piece_fill {scene : Scene} {tokens others : List Token}
    (h : scene.sequence tokens = scene.sequence others) :
    ∀ context : TokenContext, scene.piece (context.fill tokens) = scene.piece (context.fill others)
  | .group inside => SequenceContext.sequence_fill h inside
  | .modified modifiers token => by
    rw [TokenContext.fill, TokenContext.fill,
      scene.piece_modified (token.fill_ne_component tokens),
      scene.piece_modified (token.fill_ne_component others), token.piece_fill h]
  | .conditional _ token => token.piece_fill h

/-- **Sequences that give the same may replace each other in every context.** -/
theorem SequenceContext.sequence_fill {scene : Scene} {tokens others : List Token}
    (h : scene.sequence tokens = scene.sequence others) :
    ∀ context : SequenceContext,
      scene.sequence (context.fill tokens) = scene.sequence (context.fill others)
  | .whole => h
  | .within before token after => by
    have hpieces : scene.pieces (token.fill tokens :: after) =
        scene.pieces (token.fill others :: after) := by
      rw [Scene.pieces, Scene.pieces, token.condition?_fill tokens others, token.piece_fill h]
    rw [SequenceContext.fill, SequenceContext.fill, Scene.sequence, Scene.sequence,
      Scene.pieces_append, Scene.pieces_append, hpieces]

end

/-! ## Dissolving a group -/

namespace Scene

variable (scene : Scene) {tokens rest : List Token}

/-- A leading group and its tokens give the same in front of the other tokens. -/
theorem sequence_group_cons (hlast : ∀ last ∈ tokens.getLast?, ¬ Piece.LooksAhead last.condition?)
    (hfirst : ∀ first ∈ rest.head?, first.condition? ≠ some .alternative) :
    scene.sequence (.group tokens :: rest) = scene.sequence (tokens ++ rest) := by
  have hlast' : ∀ last ∈ (scene.pieces tokens).getLast?, ¬ Piece.LooksAhead last.1 := by
    rw [pieces_eq_map, List.getLast?_map]
    simpa using hlast
  have hfirst' : ∀ first ∈ (scene.pieces rest).head?, first.1 ≠ some .alternative := by
    rw [pieces_eq_map, List.head?_map]
    simpa using hfirst
  obtain ⟨lastEmpty, happend⟩ :=
    Piece.assembleFrom_append .empty true hlast' (scene.pieces rest)
  calc scene.sequence (.group tokens :: rest)
      = Piece.assembleFrom (Piece.empty.append (Piece.assemble (scene.pieces tokens)))
          (Piece.assemble (scene.pieces tokens)).isEmpty (scene.pieces rest) := rfl
    _ = Piece.assembleFrom (Piece.assemble (scene.pieces tokens)) lastEmpty
          (scene.pieces rest) := by
      rw [Piece.empty_append, Piece.assembleFrom_of_ne_alternative _ _ hfirst' lastEmpty]
    _ = scene.sequence (tokens ++ rest) := by
      rw [sequence, pieces_append]
      exact happend.symm

/-- **A leading group may be dissolved** in every context, if its last token does not look
ahead and the first token behind it is no alternative: the text is the same, and so is the
output in every format. -/
theorem leading_group_dissolves
    (hlast : ∀ last ∈ tokens.getLast?, ¬ Piece.LooksAhead last.condition?)
    (hfirst : ∀ first ∈ rest.head?, first.condition? ≠ some .alternative)
    (context : SequenceContext) :
    scene.sequence (context.fill (.group tokens :: rest)) =
      scene.sequence (context.fill (tokens ++ rest)) :=
  SequenceContext.sequence_fill (scene.sequence_group_cons hlast hfirst) context

/-- `U((g-i)-f)` and `U(g-i-f)` give the same. -/
theorem leading_group_dissolves_under_modifier :
    let tokens : List Token :=
      [.component ⟨.single .given, false⟩, .conditional .afterContent (.separator 1)]
    let rest : List Token := [.conditional .afterContent (.component ⟨.single .family, false⟩)]
    let context : SequenceContext := .within [] (.modified [.uppercase] (.group .whole)) []
    Pattern.compile "U((g-i)-f)" =
        .ok ⟨"U((g-i)-f)", context.fill (.group tokens :: rest)⟩ ∧
      Pattern.compile "U(g-i-f)" = .ok ⟨"U(g-i-f)", context.fill (tokens ++ rest)⟩ ∧
      (∀ last ∈ tokens.getLast?, ¬ Piece.LooksAhead last.condition?) ∧
      (∀ first ∈ rest.head?, first.condition? ≠ some .alternative) ∧
      johnSmith.sequence (context.fill (.group tokens :: rest)) =
        johnSmith.sequence (context.fill (tokens ++ rest)) := by
  intro tokens rest context
  have hgroup : Lexeme.scan "U((g-i)-f)".toList =
      [.modifier .uppercase, .opening, .opening, .component 'g' false, .condition .afterContent,
        .separator 1, .closing, .condition .afterContent, .component 'f' false, .closing] := by
    decide +kernel
  have hdissolved : Lexeme.scan "U(g-i-f)".toList =
      [.modifier .uppercase, .opening, .component 'g' false, .condition .afterContent,
        .separator 1, .condition .afterContent, .component 'f' false, .closing] := by
    decide +kernel
  have hlast : ∀ last ∈ tokens.getLast?, ¬ Piece.LooksAhead last.condition? := by
    rintro _ ⟨⟩ (h | h | h) <;> cases h
  have hfirst : ∀ first ∈ rest.head?, first.condition? ≠ some .alternative := by
    rintro _ ⟨⟩ h
    cases h
  refine ⟨?_, ?_, hlast, hfirst, johnSmith.leading_group_dissolves hlast hfirst context⟩
  · rw [Pattern.compile, hgroup]
    rfl
  · rw [Pattern.compile, hdissolved]
    rfl

end Scene
end PersonalNames

import PersonalNames.Pattern.Evaluation

/-! # Evaluation in two formats

The conditions of a pattern look at what has been written, so the format decides
which tokens are shown.  Two formats whose writings are related (`Relates`) by a
relation that keeps apart what is empty and what is not show the same tokens, and
the outputs of every sequence are related (`output_related`).  With the equality
of a format with itself this gives what holds of all outputs (`output_induction`). -/
namespace PersonalNames

variable {R : String → String → Prop}

/-- What two formats write of the same texts and components is related. -/
structure OutputFormat.Relates (R : String → String → Prop) (f g : OutputFormat) : Prop where
  /-- Nothing is related to nothing. -/
  nothing : R "" ""
  /-- Related writings may be put together. -/
  append {a b c d : String} : R a b → R c d → R (a ++ c) (b ++ d)
  /-- Only nothing is related to nothing. -/
  empty_iff {a b : String} : R a b → (a = "" ↔ b = "")
  text (s : String) : R (f.text s) (g.text s)
  component (kind : Component) (s : String) :
    R (f.semantic (Scene.className kind) (f.text s)) (g.semantic (Scene.className kind) (g.text s))

namespace Piece

/-- Pieces of one text whose outputs are related. -/
structure Related (R : String → String → Prop) (p q : Piece) : Prop where
  text_eq : p.text = q.text
  output : R p.output q.output

/-- Pieces under the same conditions that are related one by one. -/
inductive AllRelated (R : String → String → Prop) :
    List (Option Condition × Piece) → List (Option Condition × Piece) → Prop where
  | nil : AllRelated R [] []
  | cons (condition : Option Condition) {p q : Piece}
      {ps qs : List (Option Condition × Piece)} (head : Related R p q) (tail : AllRelated R ps qs) :
      AllRelated R ((condition, p) :: ps) ((condition, q) :: qs)

section
variable {f g : OutputFormat} (h : f.Relates R g)
include h

theorem related_empty : Related R empty empty :=
  ⟨rfl, h.nothing⟩

theorem Related.append {p p' q q' : Piece} (hp : Related R p p') (hq : Related R q q') :
    Related R (p.append q) (p'.append q') := by
  constructor
  · show p.text ++ q.text = p'.text ++ q'.text
    rw [hp.text_eq, hq.text_eq]
  · exact h.append hp.output hq.output

theorem Related.isEmpty_eq {p q : Piece} (hpq : Related R p q) : p.isEmpty = q.isEmpty := by
  unfold isEmpty
  rw [decide_eq_decide]
  exact h.empty_iff hpq.output

theorem AllRelated.headHasContent_eq {ps qs : List (Option Condition × Piece)}
    (hs : AllRelated R ps qs) : headHasContent ps = headHasContent qs := by
  cases hs with
  | nil => rfl
  | cons _ hpq _ =>
    simp only [headHasContent]
    rw [hpq.isEmpty_eq h]

/-- A condition comes out the same between related pieces. -/
theorem isShown_eq (condition : Option Condition) {soFar soFar' : Piece}
    (hsoFar : Related R soFar soFar') (previousEmpty : Bool)
    {rest rest' : List (Option Condition × Piece)} (hrest : AllRelated R rest rest') :
    isShown condition soFar previousEmpty rest = isShown condition soFar' previousEmpty rest' := by
  unfold isShown
  rw [hsoFar.isEmpty_eq h, hrest.headHasContent_eq h]

theorem assembleFrom_related {ps qs : List (Option Condition × Piece)} (hs : AllRelated R ps qs)
    {soFar soFar' : Piece} (hsoFar : Related R soFar soFar') (previousEmpty : Bool) :
    Related R (assembleFrom soFar previousEmpty ps) (assembleFrom soFar' previousEmpty qs) := by
  induction hs generalizing soFar soFar' previousEmpty with
  | nil => exact hsoFar
  | @cons condition p q _ _ hpq hrest ih =>
    -- The token is shown in both formats or in neither.
    have hshown := isShown_eq h condition hsoFar previousEmpty hrest
    unfold assembleFrom
    rw [hshown, hpq.isEmpty_eq h]
    split
    · exact ih (hsoFar.append h hpq) q.isEmpty
    · exact ih hsoFar true

theorem assemble_related {ps qs : List (Option Condition × Piece)} (hs : AllRelated R ps qs) :
    Related R (assemble ps) (assemble qs) :=
  assembleFrom_related h hs (related_empty h) true

end

end Piece

namespace Scene

/-- Scenes of one name and the same separators in related formats. -/
structure Related (R : String → String → Prop) (s t : Scene) : Prop where
  name_eq : s.name = t.name
  separator_eq (index : Nat) : s.settings.separator index = t.settings.separator index
  format : s.format.Relates R t.format

section
variable {s t : Scene} (h : Related R s t)
include h

theorem Related.textPiece (text : String) :
    Piece.Related R (s.textPiece text) (t.textPiece text) :=
  ⟨rfl, h.format.text text⟩

theorem Related.resolve?_eq (source : Source) : s.resolve? source = t.resolve? source := by
  unfold resolve?
  rw [h.name_eq]

theorem Related.componentPiece (reference : Reference) (modifiers : List Modifier) :
    Piece.Related R (s.componentPiece reference modifiers)
      (t.componentPiece reference modifiers) := by
  unfold Scene.componentPiece
  rw [h.resolve?_eq]
  cases t.resolve? reference.source with
  | none => exact Piece.related_empty h.format
  | some found =>
    obtain ⟨kind, value⟩ := found
    exact ⟨rfl, h.format.component kind _⟩

theorem Related.modifiedPiece (modifiers : List Modifier) {p q : Piece}
    (hpq : Piece.Related R p q) :
    Piece.Related R (s.textPiece (Modifier.applyAll modifiers p.text))
      (t.textPiece (Modifier.applyAll modifiers q.text)) := by
  rw [hpq.text_eq]
  exact h.textPiece _

end

mutual

theorem piece_related {s t : Scene} (h : Related R s t) (token : Token) :
    Piece.Related R (s.piece token) (t.piece token) := by
  cases token with
  | component reference => exact h.componentPiece reference []
  | literal text => exact h.textPiece text
  | separator index =>
    simp only [piece]
    rw [h.separator_eq index]
    exact h.textPiece _
  | group tokens => exact Piece.assemble_related h.format (pieces_related h tokens)
  | modified modifiers token =>
    -- A component takes its modifiers itself; of all else only the text is used.
    rcases token.component_or_other with ⟨reference, rfl⟩ | hother
    · exact h.componentPiece reference modifiers
    · rw [s.piece_modified hother, t.piece_modified hother]
      exact h.modifiedPiece modifiers (piece_related h token)
  | conditional condition token => exact piece_related h token

theorem pieces_related {s t : Scene} (h : Related R s t) (tokens : List Token) :
    Piece.AllRelated R (s.pieces tokens) (t.pieces tokens) := by
  cases tokens with
  | nil => exact .nil
  | cons token tokens => exact .cons _ (piece_related h token) (pieces_related h tokens)

end

end Scene

namespace Pattern

variable {f g : OutputFormat}

/-- **The outputs of a sequence in related formats are related.**  The settings
may differ in all but the separators. -/
theorem output_related (h : f.Relates R g) (tokens : List Token) (name : PersonName)
    {settings settings' : Settings}
    (hsep : ∀ index, settings.separator index = settings'.separator index) :
    R (output f tokens name settings) (output g tokens name settings') := by
  have hscenes : Scene.Related R ⟨f, name, settings⟩ ⟨g, name, settings'⟩ := ⟨rfl, hsep, h⟩
  exact (Piece.assemble_related h (Scene.pieces_related hscenes tokens)).output

/-- What holds of nothing, of texts and of components, and of two writings put
together if of both, holds of every output. -/
theorem output_induction {P : String → Prop} (nothing : P "")
    (append : ∀ {a b}, P a → P b → P (a ++ b)) (text : ∀ s, P (f.text s))
    (component : ∀ kind s, P (f.semantic (Scene.className kind) (f.text s)))
    (tokens : List Token) (name : PersonName) (settings : Settings) :
    P (output f tokens name settings) := by
  -- The equality that carries `P` relates the format to itself.
  have hf : f.Relates (fun a b => a = b ∧ P a) f := by
    constructor
    · exact ⟨rfl, nothing⟩
    · rintro a b c d ⟨rfl, ha⟩ ⟨rfl, hc⟩
      exact ⟨rfl, append ha hc⟩
    · rintro a b ⟨rfl, -⟩
      exact Iff.rfl
    · intro s
      exact ⟨rfl, text s⟩
    · intro kind s
      exact ⟨rfl, component kind s⟩
  exact (output_related hf tokens name fun _ => rfl).2

end Pattern
end PersonalNames

import PersonalNames.Proofs.Markup.Annotation
import PersonalNames.Proofs.Modifier.Words
import PersonalNames.Proofs.Pattern.Alternatives
import PersonalNames.Proofs.Pattern.Mentions

/-! # A component that is present is never empty

A component counts only if it is more than blanks.  Modifiers leave some of its words, the
initial of a text with words is not empty, and no format writes text as nothing.  So the
piece of a component token is empty, in text and output alike, exactly if the name has none
of the components that the token may show (`component_empty_iff_absent`).

A condition asks of the pieces around it only whether they are empty, so what is decided in
a sequence depends on nothing else (`decisionsFrom_eq_of_isEmpty_eq`).  Hence modifiers and
initials of components play no part in it: the tokens that are shown are those that would
be shown without them.
-/
namespace PersonalNames

/-! ## Components under modifiers -/

namespace Text

/-- A text that has words is not blank, and there is something to start with. -/
theorem trimStart_ne_nil_of_words {s : List Char} (h : words s ≠ []) : trimStart s ≠ [] :=
  mt trimStart_eq_nil_iff.1 (mt words_eq_nil_iff.2 h)

end Text

/-- A component that counts has words. -/
theorem PersonName.words_ne_nil_of_get? {n : PersonName} {kind : Component} {value : String}
    (h : n.get? kind = some value) : Text.words value.toList ≠ [] := by
  have husable : isUsable value = true := (Option.filter_eq_some_iff.1 h).2
  exact mt Text.words_eq_nil_iff.1 (isUsable_iff.1 husable).1

namespace Scene

variable (scene : Scene)

/-- A source gives nothing exactly if the name has none of its components. -/
theorem resolve?_eq_none_iff (source : Source) :
    scene.resolve? source = none ↔ ∀ kind ∈ source.kinds, scene.name.get? kind = none := by
  cases source <;> simp [resolve?, Source.kinds]

/-- Whatever the modifiers, a component that is present has a text. -/
theorem text_componentPiece_ne_empty {reference : Reference}
    (h : scene.resolve? reference.source ≠ none) (modifiers : List Modifier) :
    (scene.componentPiece reference modifiers).text ≠ "" := by
  obtain ⟨⟨kind, value⟩, hfound⟩ := Option.ne_none_iff_exists'.1 h
  have hvalue := PersonName.words_ne_nil_of_get? (scene.get?_of_resolve? hfound)
  have hchanged : Text.words (Modifier.applyAll modifiers value).toList ≠ [] :=
    mt (Modifier.words_applyAll_eq_nil_iff modifiers value).1 hvalue
  unfold componentPiece
  rw [hfound]
  dsimp only
  by_cases hinitial : reference.isInitial = true
  · rw [if_pos hinitial]
    exact initial_ne_empty (Text.trimStart_ne_nil_of_words hchanged)
  · rw [if_neg hinitial]
    intro hempty
    rw [hempty] at hchanged
    exact hchanged rfl

theorem text_componentPiece_eq_empty_iff (reference : Reference) (modifiers : List Modifier) :
    (scene.componentPiece reference modifiers).text = "" ↔
      ∀ kind ∈ reference.source.kinds, scene.name.get? kind = none := by
  rw [← resolve?_eq_none_iff]
  constructor
  · intro htext
    by_contra hfound
    exact scene.text_componentPiece_ne_empty hfound modifiers htext
  · intro hnone
    unfold componentPiece
    rw [hnone]
    rfl

/-- A component has output exactly if it has text. -/
theorem output_componentPiece_eq_empty_iff (hformat : scene.format ∈ OutputFormat.all)
    (reference : Reference) (modifiers : List Modifier) :
    (scene.componentPiece reference modifiers).output = "" ↔
      (scene.componentPiece reference modifiers).text = "" := by
  unfold componentPiece
  cases scene.resolve? reference.source with
  | none => exact Iff.rfl
  | some found => exact OutputFormat.component_eq_empty_iff hformat _ _

theorem isEmpty_componentPiece_iff (hformat : scene.format ∈ OutputFormat.all)
    (reference : Reference) (modifiers : List Modifier) :
    (scene.componentPiece reference modifiers).isEmpty = true ↔
      ∀ kind ∈ reference.source.kinds, scene.name.get? kind = none := by
  rw [Piece.isEmpty, decide_eq_true_iff, scene.output_componentPiece_eq_empty_iff hformat,
    text_componentPiece_eq_empty_iff]

end Scene

/-! ## What conditions see -/

namespace Piece

theorem isEmpty_append (p q : Piece) : (p.append q).isEmpty = (p.isEmpty && q.isEmpty) := by
  simp [isEmpty, append, Bool.decide_and]

/-- What a condition can know of a piece: the condition in front of it, and whether it is
empty. -/
def outline (piece : Option Condition × Piece) : Option Condition × Bool :=
  (piece.1, piece.2.isEmpty)

theorem headHasContent_eq_of_outline {ps qs : List (Option Condition × Piece)}
    (h : ps.map outline = qs.map outline) : headHasContent ps = headHasContent qs := by
  cases ps with
  | nil =>
    cases qs with
    | nil => rfl
    | cons q qs => cases h
  | cons p ps =>
    cases qs with
    | nil => cases h
    | cons q qs =>
      obtain ⟨hhead, -⟩ := List.cons.inj h
      have hempty : p.2.isEmpty = q.2.isEmpty := congrArg Prod.snd hhead
      simp only [headHasContent, hempty]

/-- **What is decided depends on where pieces are empty**, and on nothing else. -/
theorem decisionsFrom_eq_of_isEmpty_eq {ps qs : List (Option Condition × Piece)}
    (h : ps.map outline = qs.map outline) {soFar other : Piece}
    (hsoFar : soFar.isEmpty = other.isEmpty) (previousEmpty : Bool) :
    decisionsFrom soFar previousEmpty ps = decisionsFrom other previousEmpty qs := by
  -- What has been put together changes from place to place, and is empty on both sides or not.
  induction ps generalizing qs soFar other previousEmpty with
  | nil =>
    cases qs with
    | nil => rfl
    | cons q qs => cases h
  | cons p ps ih =>
    cases qs with
    | nil => cases h
    | cons q qs =>
      obtain ⟨condition, p⟩ := p
      obtain ⟨condition', q⟩ := q
      obtain ⟨hhead, htail⟩ := List.cons.inj h
      obtain ⟨hcondition, hempty⟩ := Prod.mk.inj hhead
      dsimp only at hcondition hempty
      subst hcondition
      have hshown : isShown condition soFar previousEmpty ps =
          isShown condition other previousEmpty qs := by
        unfold isShown
        rw [hsoFar, headHasContent_eq_of_outline htail]
      have happend : (soFar.append p).isEmpty = (other.append q).isEmpty := by
        rw [isEmpty_append, isEmpty_append, hsoFar, hempty]
      unfold decisionsFrom
      rw [hshown, hempty, ih htail happend, ih htail hsoFar]

end Piece

/-! ## Component tokens -/

namespace Token

/-- The component that a token stands for, with or without modifiers and a condition. -/
def reference? : Token → Option Reference
  | .component reference => some reference
  | .modified _ (.component reference) => some reference
  | .conditional _ token => token.reference?
  | _ => none

/-- A component token without modifiers and not as an initial, under the condition that it
has; other tokens as they are. -/
def bare : Token → Token
  | .component reference => .component ⟨reference.source, false⟩
  | .modified _ (.component reference) => .component ⟨reference.source, false⟩
  | .conditional condition token => .conditional condition token.bare
  | token => token

theorem condition?_bare (token : Token) : token.bare.condition? = token.condition? := by
  cases token with
  | modified modifiers token => cases token <;> rfl
  | _ => rfl

end Token

namespace Scene

variable (scene : Scene)

theorem exists_componentPiece : ∀ (token : Token) {reference : Reference},
    token.reference? = some reference →
      ∃ modifiers, scene.piece token = scene.componentPiece reference modifiers
  | .component _, _, rfl => ⟨[], rfl⟩
  | .modified modifiers (.component _), _, rfl => ⟨modifiers, rfl⟩
  | .conditional _ token, _, h => exists_componentPiece token h

/-- A token is as empty as it would be without modifiers. -/
theorem isEmpty_piece_bare (hformat : scene.format ∈ OutputFormat.all) (token : Token) :
    (scene.piece token.bare).isEmpty = (scene.piece token).isEmpty := by
  have hsame (reference : Reference) (modifiers : List Modifier) :
      (scene.componentPiece ⟨reference.source, false⟩ []).isEmpty =
        (scene.componentPiece reference modifiers).isEmpty := by
    rw [Bool.eq_iff_iff, scene.isEmpty_componentPiece_iff hformat,
      scene.isEmpty_componentPiece_iff hformat]
  match token with
  | .component reference => exact hsame reference []
  | .literal _ | .separator _ | .group _ => rfl
  | .modified modifiers token =>
    rcases token.component_or_other with ⟨reference, rfl⟩ | hother
    · exact hsame reference modifiers
    · cases token with
      | component reference => exact absurd rfl (hother reference)
      | _ => rfl
  | .conditional _ token => exact isEmpty_piece_bare hformat token

/-- **Component tokens are empty exactly where components are absent.**  In each of the
formats, whatever the modifiers and whether or not an initial is shown, the output of a
component token is empty if and only if its text is, and that is if and only if the name has
none of the components that the token may show.  So the decisions in a sequence are the same
with all modifiers and initials of its components taken away. -/
theorem component_empty_iff_absent (hformat : scene.format ∈ OutputFormat.all) :
    (∀ (token : Token) (reference : Reference), token.reference? = some reference →
      ((scene.piece token).output = "" ↔ (scene.piece token).text = "") ∧
        ((scene.piece token).text = "" ↔
          ∀ kind ∈ reference.source.kinds, scene.name.get? kind = none)) ∧
      ∀ tokens : List Token, scene.decisions (tokens.map Token.bare) = scene.decisions tokens := by
  constructor
  · intro token reference hreference
    obtain ⟨modifiers, hpiece⟩ := scene.exists_componentPiece token hreference
    rw [hpiece]
    exact ⟨scene.output_componentPiece_eq_empty_iff hformat reference modifiers,
      scene.text_componentPiece_eq_empty_iff reference modifiers⟩
  · intro tokens
    apply Piece.decisionsFrom_eq_of_isEmpty_eq _ rfl
    rw [pieces_eq_map, pieces_eq_map, List.map_map, List.map_map, List.map_map]
    apply List.map_congr_left
    intro token _
    exact Prod.ext token.condition?_bare (scene.isEmpty_piece_bare hformat token)

/-- The last word of a trimmed title, as an initial and under a condition, in HTML with
classes: present where the title is a sign behind blanks, absent where it is all blank. -/
theorem component_empty_iff_absent_last_word :
    let token : Token := .conditional .both
      (.modified [.trim, .lastWord, .lowercase] (.component ⟨.either .title .given, true⟩))
    let present : Scene := ⟨.semanticHtml, { title := " \t&" }, {}⟩
    let absent : Scene := ⟨.semanticHtml, { title := " \t", given := "_none" }, {}⟩
    (present.format ∈ OutputFormat.all ∧ token.reference? = some ⟨.either .title .given, true⟩ ∧
      present.name.get? .title = some " \t&" ∧ (present.piece token).output ≠ "") ∧
      absent.format ∈ OutputFormat.all ∧ (absent.piece token).output = "" := by
  intro token present absent
  have hformat : OutputFormat.semanticHtml ∈ OutputFormat.all := .tail _ (.tail _ (.head _))
  have hreference : token.reference? = some ⟨.either .title .given, true⟩ := rfl
  obtain ⟨hpresent, -⟩ := present.component_empty_iff_absent hformat
  obtain ⟨habsent, -⟩ := absent.component_empty_iff_absent hformat
  obtain ⟨houtput, htext⟩ := hpresent token _ hreference
  obtain ⟨houtput', htext'⟩ := habsent token _ hreference
  have htitle : present.name.get? .title = some " \t&" := by decide +kernel
  refine ⟨⟨hformat, hreference, htitle, ?_⟩, hformat, ?_⟩
  · intro hempty
    have hnone := htext.1 (houtput.1 hempty) .title (.head _)
    rw [htitle] at hnone
    cases hnone
  · apply houtput'.2
    apply htext'.2
    decide +kernel

end Scene
end PersonalNames

import Mathlib.Data.List.Chain
import PersonalNames.Proofs.NameList.Joining

/-! # What putting parts together gives

`concatAll` is meant to leave no seams: in a sequence no part is a sequence or empty
text, and no two neighbours are plain text.  `IsNormal` says this of a markup.

The parts are taken over one after the other, and plain text joins plain text in front
of it.  But the parts of a sequence are taken over as they are.  So where a sequence
begins with plain text and comes behind plain text, the two stay apart.
`concatAll_normal_form` says that this is the only way to miss the normal form, and
`isNormal_format` that a formatted list never does.
-/
namespace PersonalNames
namespace Markup

/-! ## The normal form -/

/-- Whether a markup is plain text. -/
def isPlain : Markup → Bool
  | plain _ => true
  | _ => false

/-- The parts that a normal sequence may have: no sequence and no empty plain text. -/
def IsPart : Markup → Prop
  | plain text => text ≠ ""
  | concat _ => False
  | escaped _ | hyperlink _ _ | emphasis _ => True

/-- Whether two parts may stand next to each other: two plain texts would be one. -/
def Apart (before behind : Markup) : Prop :=
  before.isPlain = false ∨ behind.isPlain = false

/-- Parts of which none is left to be dropped, joined or taken apart. -/
structure IsMerged (parts : List Markup) : Prop where
  isPart : ∀ part ∈ parts, part.IsPart
  apart : parts.IsChain Apart

/-- A markup is normal if it is no sequence, or one of at least two parts that are merged. -/
def IsNormal : Markup → Prop
  | concat parts => 2 ≤ parts.length ∧ IsMerged parts
  | _ => True

instance : DecidablePred IsPart
  | plain text => inferInstanceAs (Decidable (text ≠ ""))
  | concat _ => isFalse id
  | escaped _ | hyperlink _ _ | emphasis _ => isTrue trivial

instance : DecidableRel Apart := fun before behind =>
  inferInstanceAs (Decidable (before.isPlain = false ∨ behind.isPlain = false))

instance (parts : List Markup) : Decidable (IsMerged parts) :=
  decidable_of_iff ((∀ part ∈ parts, part.IsPart) ∧ parts.IsChain Apart)
    ⟨fun h => ⟨h.1, h.2⟩, fun h => ⟨h.isPart, h.apart⟩⟩

instance : DecidablePred IsNormal
  | concat parts => inferInstanceAs (Decidable (2 ≤ parts.length ∧ IsMerged parts))
  | plain _ | escaped _ | hyperlink _ _ | emphasis _ => isTrue trivial

/-! ## Where text meets text -/

/-- Whether a markup is empty plain text. -/
def isNothing : Markup → Bool
  | plain text => text = ""
  | _ => false

/-- Whether a markup is plain text or a sequence that ends with plain text. -/
def endsInText : Markup → Bool
  | plain _ => true
  | concat parts => parts.getLast?.any isPlain
  | _ => false

/-- Whether a markup is a sequence that begins with plain text. -/
def opensWithText : Markup → Bool
  | concat parts => parts.head?.any isPlain
  | _ => false

/-- Whether a part fits behind another: it is no sequence that begins with plain text, or
there is no plain text in front of it. -/
def Fits (before behind : Markup) : Prop :=
  before.endsInText = false ∨ behind.opensWithText = false

instance : DecidableRel Fits := fun before behind =>
  inferInstanceAs (Decidable (before.endsInText = false ∨ behind.opensWithText = false))

/-- The parts that are not empty plain text. -/
def solid (parts : List Markup) : List Markup :=
  parts.filter fun part => !part.isNothing

theorem solid_concat (parts : List Markup) {part : Markup} (h : part.isNothing = false) :
    solid (parts ++ [part]) = solid parts ++ [part] := by
  simp [solid, h]

/-- Two stretches form a chain if each of them does and the edges do not exclude each
other. -/
theorem isChain_append_iff {p q : Markup → Bool} (parts more : List Markup) :
    (parts ++ more).IsChain (fun before behind => p before = false ∨ q behind = false) ↔
      parts.IsChain (fun before behind => p before = false ∨ q behind = false) ∧
        more.IsChain (fun before behind => p before = false ∨ q behind = false) ∧
        (parts.getLast?.any p = false ∨ more.head?.any q = false) := by
  rw [List.isChain_append]
  cases parts.getLast? <;> cases more.head? <;> simp

theorem isChain_apart_append (parts more : List Markup) :
    (parts ++ more).IsChain Apart ↔ parts.IsChain Apart ∧ more.IsChain Apart ∧
      (parts.getLast?.any isPlain = false ∨ more.head?.any isPlain = false) :=
  isChain_append_iff parts more

theorem isChain_fits_concat (parts : List Markup) (part : Markup) :
    (parts ++ [part]).IsChain Fits ↔ parts.IsChain Fits ∧
      (parts.getLast?.any endsInText = false ∨ part.opensWithText = false) := by
  have h : (parts ++ [part]).IsChain Fits ↔ parts.IsChain Fits ∧ [part].IsChain Fits ∧
      (parts.getLast?.any endsInText = false ∨ [part].head?.any opensWithText = false) :=
    isChain_append_iff parts [part]
  rw [h, iff_true_intro (List.isChain_singleton part), true_and, List.head?_cons, Option.any_some]

/-! ## Taking parts over -/

/-- What has been made of parts: only neighbours may be out of order, and they are not
if all the parts fit behind each other. -/
structure Merges (parts merged : List Markup) : Prop where
  isPart : ∀ part ∈ merged, part.IsPart
  ends_eq : merged.getLast?.any isPlain = (solid parts).getLast?.any endsInText
  apart_iff : merged.IsChain Apart ↔ (solid parts).IsChain Fits

theorem merges_nil : Merges [] [] where
  isPart _ h := absurd h List.not_mem_nil
  ends_eq := rfl
  apart_iff := iff_of_true List.isChain_nil List.isChain_nil

section
variable {parts merged : List Markup} (h : Merges parts merged)
include h

/-- A part that is no sequence is put behind the others, unless plain text meets plain
text. -/
theorem Merges.push {part : Markup} (hpart : part.IsPart) (hnothing : part.isNothing = false)
    (hends : part.endsInText = part.isPlain) (hopens : part.opensWithText = false)
    (hapart : merged.getLast?.any isPlain = false ∨ part.isPlain = false) :
    Merges (parts ++ [part]) (merged ++ [part]) where
  isPart := by
    intro other hmem
    rcases List.mem_append.1 hmem with hmem | hmem
    · exact h.isPart other hmem
    · rwa [List.mem_singleton.1 hmem]
  ends_eq := by
    rw [solid_concat parts hnothing, List.getLast?_concat, List.getLast?_concat]
    exact hends.symm
  apart_iff := by
    rw [solid_concat parts hnothing, isChain_fits_concat, isChain_apart_append, h.apart_iff,
      and_iff_left (Or.inr hopens)]
    exact and_iff_left ⟨List.isChain_singleton part, hapart⟩

/-- Plain text joins the plain text in front of it. -/
theorem Merges.join {front : List Markup} {before text : String} (htext : text ≠ "")
    (hmerged : merged = front ++ [plain before]) :
    Merges (parts ++ [plain text]) (front ++ [plain (before ++ text)]) := by
  have hnothing : (plain text).isNothing = false := by simpa [isNothing] using htext
  have hopens : (plain text).opensWithText = false := rfl
  have hlast (text : String) : [plain text].IsChain Apart := List.isChain_singleton _
  subst hmerged
  constructor
  · intro other hmem
    rcases List.mem_append.1 hmem with hmem | hmem
    · exact h.isPart other (List.mem_append_left _ hmem)
    · rw [List.mem_singleton.1 hmem]
      exact fun hempty => htext (String.append_eq_empty_iff.1 hempty).2
  · rw [solid_concat parts hnothing, List.getLast?_concat, List.getLast?_concat]
    rfl
  · -- Which text stands at the end plays no part in who may stand next to it.
    rw [solid_concat parts hnothing, isChain_fits_concat, and_iff_left (Or.inr hopens),
      ← h.apart_iff, isChain_apart_append, isChain_apart_append]
    exact and_congr_right fun _ => and_congr_left fun _ => iff_of_true (hlast _) (hlast _)

/-- The parts of a sequence are put behind the others. -/
theorem Merges.splice {inner : List Markup} (hinner : (concat inner).IsNormal) :
    Merges (parts ++ [concat inner]) (merged ++ inner) := by
  obtain ⟨hlength, hmerged⟩ := hinner
  have hsolid : solid (parts ++ [concat inner]) = solid parts ++ [concat inner] :=
    solid_concat parts rfl
  constructor
  · intro other hmem
    rcases List.mem_append.1 hmem with hmem | hmem
    · exact h.isPart other hmem
    · exact hmerged.isPart other hmem
  · have hne : inner ≠ [] := List.ne_nil_of_length_pos (by omega)
    rw [hsolid, List.getLast?_concat, List.getLast?_append_of_ne_nil merged hne]
    rfl
  · rw [hsolid, isChain_fits_concat, isChain_apart_append, h.apart_iff, h.ends_eq,
      and_iff_right hmerged.apart]
    exact Iff.rfl

/-- **Step.**  Taking a part over keeps what has been made of the parts before it. -/
theorem Merges.absorb {part : Markup} (hpart : part.IsNormal) :
    Merges (parts ++ [part]) (Markup.absorb merged part) := by
  cases part with
  | plain text =>
    simp only [Markup.absorb]
    split
    · next htext =>
      have hsolid : solid (parts ++ [plain text]) = solid parts := by
        simp [solid, isNothing, htext]
      exact ⟨h.isPart, hsolid ▸ h.ends_eq, hsolid ▸ h.apart_iff⟩
    · next htext =>
      split
      · next before hlast =>
        obtain ⟨front, hmerged⟩ := List.getLast?_eq_some_iff.1 hlast
        rw [hmerged, List.dropLast_concat]
        exact h.join htext hmerged
      · next hlast =>
        have hnotPlain : merged.getLast?.any isPlain = false := by
          cases hend : merged.getLast? with
          | none => rfl
          | some last =>
            cases last with
            | plain before => exact absurd hend (hlast before)
            | _ => rfl
        exact h.push htext (by simpa [isNothing] using htext) rfl rfl (.inl hnotPlain)
  | concat inner => exact h.splice hpart
  | escaped text => exact h.push trivial rfl rfl rfl (.inr rfl)
  | hyperlink url content => exact h.push trivial rfl rfl rfl (.inr rfl)
  | emphasis content => exact h.push trivial rfl rfl rfl (.inr rfl)

end

/-- **Run.**  What is made of normal parts. -/
theorem merges_foldl_absorb {parts : List Markup} (h : ∀ part ∈ parts, part.IsNormal) :
    Merges parts (parts.foldl absorb []) := by
  induction parts using List.reverseRecOn with
  | nil => exact merges_nil
  | append_singleton parts part ih =>
    rw [List.foldl_concat]
    have hparts : ∀ part ∈ parts, part.IsNormal := fun part hmem =>
      h part (List.mem_append_left _ hmem)
    exact (ih hparts).absorb (h part (by simp))

/-! ## The result -/

/-- Parts that are merged are normal as one markup if no neighbours are plain text. -/
theorem isNormal_ofParts {merged : List Markup} (h : ∀ part ∈ merged, part.IsPart) :
    (ofParts merged).IsNormal ↔ merged.IsChain Apart := by
  match merged with
  | [] => exact iff_of_true trivial List.isChain_nil
  | [part] =>
    refine iff_of_true ?_ (List.isChain_singleton part)
    cases part with
    | concat inner => exact absurd (h _ List.mem_cons_self) id
    | _ => exact trivial
  | first :: second :: others =>
    have hlength : 2 ≤ (first :: second :: others).length := by simp
    exact ⟨fun hnormal => hnormal.2.apart, fun hapart => ⟨hlength, h, hapart⟩⟩

/-- The parts of a sequence that is made of merged parts. -/
theorem parts_of_ofParts {merged inner : List Markup} (h : ∀ part ∈ merged, part.IsPart)
    (hconcat : ofParts merged = concat inner) : inner = merged ∧ 2 ≤ merged.length := by
  match merged with
  | [] => cases hconcat
  | [part] =>
    have hpart := h part List.mem_cons_self
    rw [show part = concat inner from hconcat] at hpart
    exact absurd hpart id
  | first :: second :: others =>
    cases hconcat
    exact ⟨rfl, by simp⟩

/-- Normal parts give something normal exactly if they fit behind each other. -/
theorem isNormal_concatAll_iff {parts : List Markup} (h : ∀ part ∈ parts, part.IsNormal) :
    (concatAll parts).IsNormal ↔ (solid parts).IsChain Fits := by
  have hmerges := merges_foldl_absorb h
  exact (isNormal_ofParts hmerges.isPart).trans hmerges.apart_iff

/-- **What `concatAll` gives.**  Of normal parts it makes no sequence of less than two
parts and none that holds a sequence or empty text.  And what it makes is normal exactly
if none of the parts, but for empty text, is a sequence that begins with plain text
behind plain text or behind a sequence that ends with it. -/
theorem concatAll_normal_form {parts : List Markup} (h : ∀ part ∈ parts, part.IsNormal) :
    (∀ inner, concatAll parts = concat inner →
      2 ≤ inner.length ∧ ∀ part ∈ inner, part.IsPart) ∧
      ((concatAll parts).IsNormal ↔ (solid parts).IsChain Fits) := by
  have hpart := (merges_foldl_absorb h).isPart
  refine ⟨?_, isNormal_concatAll_iff h⟩
  intro inner hconcat
  obtain ⟨rfl, hlength⟩ := parts_of_ofParts hpart hconcat
  exact ⟨hlength, hpart⟩

/-- Text joins the text at the end of a sequence, with empty text between. -/
theorem concatAll_normal_form_behind_sequence :
    let parts := [concat [escaped "a", plain "b"], plain "", plain "c"]
    (∀ part ∈ parts, part.IsNormal) ∧ (solid parts).IsChain Fits ∧
      (concatAll parts).IsNormal ∧ concatAll parts = concat [escaped "a", plain "bc"] := by
  intro parts
  have hparts : ∀ part ∈ parts, part.IsNormal := by decide
  have hfits : (solid parts).IsChain Fits := by decide
  exact ⟨hparts, hfits, (concatAll_normal_form hparts).2.2 hfits, rfl⟩

/-- Text stays apart from the text at the beginning of a sequence. -/
theorem not_isNormal_concatAll_of_seam :
    let parts := [plain "a", concat [plain "b", escaped "c"]]
    (∀ part ∈ parts, part.IsNormal) ∧
      concatAll parts = concat [plain "a", plain "b", escaped "c"] ∧
      ¬ (concatAll parts).IsNormal := by
  intro parts
  exact ⟨by decide, rfl, by decide⟩

theorem isNormal_of_ne_concat {m : Markup} (h : ∀ inner, m ≠ concat inner) : m.IsNormal := by
  cases m with
  | concat inner => exact absurd rfl (h inner)
  | _ => exact trivial

/-- Parts that are no sequences are put together in normal form. -/
theorem isNormal_concatAll {parts : List Markup}
    (h : ∀ part ∈ parts, ∀ inner, part ≠ concat inner) : (concatAll parts).IsNormal := by
  have hnormal : ∀ part ∈ parts, part.IsNormal := fun part hmem =>
    isNormal_of_ne_concat (h part hmem)
  rw [isNormal_concatAll_iff hnormal, List.isChain_iff_getElem]
  intro i hi
  have hmem : (solid parts)[i + 1] ∈ parts := List.mem_of_mem_filter (List.getElem_mem hi)
  -- Only a sequence opens with text.
  right
  cases hpart : (solid parts)[i + 1] with
  | concat inner => exact absurd hpart (h _ hmem inner)
  | _ => rfl

end Markup

/-- A formatted name is no sequence. -/
theorem Pattern.formatTokens_ne_concat (tokens : List Token) (name : PersonName)
    (settings : Settings) (inner : List Markup) :
    formatTokens tokens name settings ≠ .concat inner := by
  have hcontent : content tokens name settings ≠ .concat inner := by
    unfold content
    split <;> exact Markup.noConfusion
  exact formatTokens_cases (P := fun m => m ≠ .concat inner) Markup.noConfusion hcontent
    fun _ => Markup.noConfusion

/-- **A formatted list is in normal form**, whatever the names, the pattern and the style. -/
theorem NameList.isNormal_format (pattern : Pattern) (names : List PersonName)
    (style : ListStyle) (settings : Settings) (terms : Terms) :
    (format pattern names style settings terms).IsNormal := by
  have hmark (inner : List Markup) : cutMark terms settings.markup ≠ .concat inner := by
    unfold cutMark
    split <;> exact Markup.noConfusion
  have hname (name : PersonName) := Pattern.formatTokens_ne_concat pattern.tokens name settings
  exact formatTokens_induction pattern.tokens settings terms (fun _ _ => Markup.noConfusion) hmark
    hname (fun _ => Markup.isNormal_of_ne_concat) (fun _ => Markup.isNormal_concatAll) names

end PersonalNames

import PersonalNames.Markup.Basic

/-! # Rendering markup trees

Two facts hold in every format that joins texts and keeps apart what is empty and
what is not (`Lawful`), as the formats at hand do.  A tree counts as empty exactly
if nothing is written for it (`isEmpty_iff`).  And `concatAll` drops, joins and
takes apart the parts it is given, but none of this is seen: they are written one
behind the other (`render_concatAll`).  `concatAll_keeps_rendering` says both of the
three formats. -/
namespace PersonalNames

namespace OutputFormat

/-- A format that writes texts put together, and parts without a delimiter, one
behind the other, and writes nothing exactly for nothing. -/
structure Lawful (f : OutputFormat) : Prop where
  text_append (s t : String) : f.text (s ++ t) = f.text s ++ f.text t
  join_empty (items : List String) : f.join "" items = String.join items
  text_eq_empty_iff (s : String) : f.text s = "" ↔ s = ""
  raw_eq_empty_iff (s : String) : f.raw s = "" ↔ s = ""
  emphasis_eq_empty_iff (content : String) : f.emphasis content = "" ↔ content = ""
  link_eq_empty_iff (url content : String) : f.link url content = "" ↔ content = ""

theorem intercalate_empty (items : List String) :
    String.intercalate "" items = String.join items := by
  induction items with
  | nil => simp
  | cons item items ih =>
    by_cases hitems : items = []
    · simp [hitems]
    · rw [String.intercalate_cons_of_ne_nil hitems, ih, String.join_cons, String.append_empty]

theorem enclose_eq_empty_iff {opening closing content : String} (h : opening ≠ "") :
    Html.enclose opening closing content = "" ↔ content = "" := by
  unfold Html.enclose
  by_cases hcontent : content = ""
  · simp [hcontent]
  · simp [hcontent, h]

theorem plain_lawful : Lawful plain where
  text_append _ _ := rfl
  join_empty := intercalate_empty
  text_eq_empty_iff _ := Iff.rfl
  raw_eq_empty_iff _ := Iff.rfl
  emphasis_eq_empty_iff _ := Iff.rfl
  link_eq_empty_iff _ _ := Iff.rfl

theorem htmlWith_lawful (classes : Bool) : Lawful (htmlWith classes) where
  text_append := Html.escape_append
  join_empty items := by
    have h : Html.escape "" = "" := (Html.escape_eq_empty_iff "").2 rfl
    show String.intercalate (Html.escape "") items = String.join items
    rw [h, intercalate_empty]
  text_eq_empty_iff := Html.escape_eq_empty_iff
  raw_eq_empty_iff _ := Iff.rfl
  emphasis_eq_empty_iff _ := enclose_eq_empty_iff (by decide)
  link_eq_empty_iff url _ := by
    have h : Html.linkTag url ≠ "" := by simp [Html.linkTag]
    exact enclose_eq_empty_iff h

theorem html_lawful : Lawful html :=
  htmlWith_lawful false

/-- The formats at hand. -/
def all : List OutputFormat :=
  [plain, html, semanticHtml]

theorem lawful_of_mem_all {f : OutputFormat} (h : f ∈ all) : f.Lawful := by
  simp only [all, List.mem_cons, List.not_mem_nil, or_false] at h
  rcases h with rfl | rfl | rfl
  · exact plain_lawful
  · exact html_lawful
  · exact htmlWith_lawful true

end OutputFormat

namespace Markup

variable {f : OutputFormat}

theorem renderAll_eq_map (parts : List Markup) : renderAll f parts = parts.map (render f) := by
  induction parts with
  | nil => rfl
  | cons part parts ih => simp only [renderAll, List.map_cons, ih]

theorem join_renderAll_append (parts more : List Markup) :
    String.join (renderAll f (parts ++ more)) =
      String.join (renderAll f parts) ++ String.join (renderAll f more) := by
  simp only [renderAll_eq_map, List.map_append, String.join_append]

theorem join_renderAll_concat (parts : List Markup) (part : Markup) :
    String.join (renderAll f (parts ++ [part])) =
      String.join (renderAll f parts) ++ render f part := by
  rw [join_renderAll_append]
  simp only [renderAll, String.join_cons, String.join_nil, String.append_empty]

/-- A sequence is written part by part. -/
theorem render_concat (h : f.Lawful) (parts : List Markup) :
    render f (concat parts) = String.join (renderAll f parts) := by
  simp only [render]
  exact h.join_empty (renderAll f parts)

mutual

/-- **A tree counts as empty exactly if nothing is written for it.** -/
theorem isEmpty_iff (h : f.Lawful) (m : Markup) : m.isEmpty ↔ m.render f = "" := by
  cases m with
  | plain text =>
    simp only [isEmpty, render, decide_eq_true_iff]
    exact (h.text_eq_empty_iff text).symm
  | escaped text =>
    simp only [isEmpty, render, decide_eq_true_iff]
    exact (h.raw_eq_empty_iff text).symm
  | hyperlink url content =>
    simp only [isEmpty, render]
    rw [h.link_eq_empty_iff]
    exact isEmpty_iff h content
  | emphasis content =>
    simp only [isEmpty, render]
    rw [h.emphasis_eq_empty_iff]
    exact isEmpty_iff h content
  | concat parts =>
    rw [render_concat h]
    simp only [isEmpty]
    exact allEmpty_iff h parts

theorem allEmpty_iff (h : f.Lawful) (parts : List Markup) :
    allEmpty parts ↔ String.join (renderAll f parts) = "" := by
  cases parts with
  | nil => simp [allEmpty, renderAll]
  | cons part parts =>
    simp only [allEmpty, renderAll, Bool.and_eq_true, String.join_cons, String.append_eq_empty_iff]
    exact and_congr (isEmpty_iff h part) (allEmpty_iff h parts)

end

section
variable (h : f.Lawful)
include h

/-- However a part is taken over, it is written behind the parts before it. -/
theorem join_renderAll_absorb (parts : List Markup) (part : Markup) :
    String.join (renderAll f (absorb parts part)) =
      String.join (renderAll f parts) ++ render f part := by
  cases part with
  | plain text =>
    simp only [absorb]
    split
    · next htext =>
      have hnothing : f.text text = "" := (h.text_eq_empty_iff text).2 htext
      simp only [render]
      rw [hnothing, String.append_empty]
    · split
      · next before hlast =>
        -- The text joins the plain text `before`.
        obtain ⟨front, rfl⟩ := List.getLast?_eq_some_iff.1 hlast
        rw [List.dropLast_concat, join_renderAll_concat, join_renderAll_concat]
        simp only [render]
        rw [h.text_append, String.append_assoc]
      · exact join_renderAll_concat parts _
  | concat inner =>
    simp only [absorb]
    rw [join_renderAll_append, render_concat h]
  | escaped text => exact join_renderAll_concat parts _
  | hyperlink url content => exact join_renderAll_concat parts _
  | emphasis content => exact join_renderAll_concat parts _

theorem join_renderAll_foldl_absorb (parts before : List Markup) :
    String.join (renderAll f (parts.foldl absorb before)) =
      String.join (renderAll f before) ++ String.join (renderAll f parts) := by
  induction parts generalizing before with
  | nil => simp only [List.foldl_nil, renderAll, String.join_nil, String.append_empty]
  | cons part parts ih =>
    rw [List.foldl_cons, ih, join_renderAll_absorb h, String.append_assoc]
    simp only [renderAll, String.join_cons]

theorem render_ofParts (parts : List Markup) :
    render f (ofParts parts) = String.join (renderAll f parts) := by
  unfold ofParts
  split
  · exact (h.text_eq_empty_iff "").2 rfl
  · simp only [renderAll, String.join_cons, String.join_nil, String.append_empty]
  · exact render_concat h _

/-- **Parts put together are written one behind the other.** -/
theorem render_concatAll (parts : List Markup) :
    render f (concatAll parts) = String.join (renderAll f parts) := by
  unfold concatAll
  rw [render_ofParts h, join_renderAll_foldl_absorb h]
  simp only [renderAll, String.join_nil, String.empty_append]

end

theorem allEmpty_iff_forall (parts : List Markup) :
    allEmpty parts ↔ ∀ part ∈ parts, part.isEmpty := by
  induction parts with
  | nil => simp [allEmpty]
  | cons part parts ih => simp [allEmpty, ih]

/-- Parts put together are empty exactly if each of them is. -/
theorem isEmpty_concatAll (parts : List Markup) :
    (concatAll parts).isEmpty ↔ ∀ part ∈ parts, part.isEmpty := by
  have h := OutputFormat.plain_lawful
  rw [isEmpty_iff h, render_concatAll h, ← allEmpty_iff h, allEmpty_iff_forall]

/-- **Putting parts together changes nothing that is written.**  In each of the formats
parts put together are written one behind the other, and a tree is empty exactly if
nothing is written for it; so parts put together are empty exactly if all of them are. -/
theorem concatAll_keeps_rendering :
    (∀ f ∈ OutputFormat.all,
      (∀ parts, (concatAll parts).render f = String.join (parts.map (render f))) ∧
        ∀ m : Markup, m.isEmpty ↔ m.render f = "") ∧
      ∀ parts, (concatAll parts).isEmpty ↔ ∀ part ∈ parts, part.isEmpty := by
  refine ⟨?_, isEmpty_concatAll⟩
  intro f hf
  have h := OutputFormat.lawful_of_mem_all hf
  refine ⟨fun parts => ?_, isEmpty_iff h⟩
  rw [render_concatAll h, renderAll_eq_map]

/-- Text that is joined is escaped as before, and a link around nothing is not written. -/
theorem concatAll_keeps_rendering_html :
    let parts := [plain "a&", plain "", concat [plain "<", emphasis (plain "b")],
      hyperlink "u" (concat [])]
    OutputFormat.semanticHtml ∈ OutputFormat.all ∧
      (concatAll parts).render .semanticHtml = "a&amp;&lt;<em>b</em>" ∧
      ¬ (concatAll parts).isEmpty := by
  intro parts
  have hmem : OutputFormat.semanticHtml ∈ OutputFormat.all := .tail _ (.tail _ (.head _))
  obtain ⟨hrender, hempty⟩ := concatAll_keeps_rendering.1 _ hmem
  have hparts : String.join (parts.map (render .semanticHtml)) = "a&amp;&lt;<em>b</em>" := by
    decide
  have hhtml := (hrender parts).trans hparts
  refine ⟨hmem, hhtml, ?_⟩
  rw [hempty, hhtml]
  decide

end Markup
end PersonalNames

import PersonalNames.Pattern.Evaluation

/-! # The language of HTML content

What counts as HTML content here: text in which characters with a meaning in
HTML stand only as entities (`IsText`), and elements of three kinds around
content, properly nested (`IsContent`).  The definitions do not mention how
content is written; that escaping gives text, and that what an HTML format
writes around content is content, is shown below. -/
namespace PersonalNames
namespace Html

/-- The entities that stand for characters with a meaning in HTML. -/
def entities : List String :=
  ["&amp;", "&lt;", "&gt;", "&quot;", "&#39;"]

/-- Text in HTML content or in an attribute value: no angle bracket and no quote
occurs in it, and an ampersand only where an entity starts. -/
structure IsText (s : String) : Prop where
  not_mem : '<' ∉ s.toList ∧ '>' ∉ s.toList ∧ '"' ∉ s.toList ∧ '\'' ∉ s.toList
  entity (before after : List Char) (h : s.toList = before ++ '&' :: after) :
    ∃ entity ∈ entities, entity.toList <+: '&' :: after

/-- HTML content: text, emphasis, links and the spans of components, one behind
the other and around each other. -/
inductive IsContent : String → Prop where
  | nil : IsContent ""
  | text {s rest : String} (hs : IsText s) (hrest : IsContent rest) : IsContent (s ++ rest)
  | emphasis {inner rest : String} (hinner : IsContent inner) (hrest : IsContent rest) :
      IsContent ("<em>" ++ inner ++ "</em>" ++ rest)
  | link {url inner rest : String} (hurl : IsText url) (hinner : IsContent inner)
      (hrest : IsContent rest) :
      IsContent ("<a href=\"" ++ url ++ "\">" ++ inner ++ "</a>" ++ rest)
  | span (kind : Component) {inner rest : String} (hinner : IsContent inner)
      (hrest : IsContent rest) :
      IsContent ("<span class=\"name-" ++ kind.id ++ "\">" ++ inner ++ "</span>" ++ rest)

/-! ## Text -/

theorem isText_empty : IsText "" := by
  constructor
  · simp
  · intro before after h
    simp at h

theorem IsText.append {s t : String} (hs : IsText s) (ht : IsText t) : IsText (s ++ t) := by
  constructor
  · obtain ⟨hs₁, hs₂, hs₃, hs₄⟩ := hs.not_mem
    obtain ⟨ht₁, ht₂, ht₃, ht₄⟩ := ht.not_mem
    simp only [String.toList_append, List.mem_append, not_or]
    exact ⟨⟨hs₁, ht₁⟩, ⟨hs₂, ht₂⟩, ⟨hs₃, ht₃⟩, ⟨hs₄, ht₄⟩⟩
  · intro before after h
    rw [String.toList_append, List.append_eq_append_iff] at h
    rcases h with ⟨front, hbefore, hafter⟩ | ⟨back, hback, hafter⟩
    · exact ht.entity front after hafter
    · cases back with
      | nil => exact ht.entity [] after hafter.symm
      | cons c back =>
        -- The ampersand stands in `s`, and so does its entity.
        obtain ⟨rfl, rfl⟩ := List.cons.inj hafter
        obtain ⟨entity, hmem, hbegin⟩ := hs.entity before back hback
        exact ⟨entity, hmem, hbegin.trans ⟨t.toList, rfl⟩⟩

/-- A character without a meaning in HTML is text. -/
theorem isText_singleton {c : Char}
    (h : c ≠ '&' ∧ c ≠ '<' ∧ c ≠ '>' ∧ c ≠ '"' ∧ c ≠ '\'') : IsText (String.ofList [c]) := by
  obtain ⟨hamp, hlt, hgt, hquot, hapos⟩ := h
  constructor
  · simp only [String.toList_ofList, List.mem_singleton]
    exact ⟨hlt.symm, hgt.symm, hquot.symm, hapos.symm⟩
  · intro before after h
    have hmem : '&' ∈ [c] := by
      rw [← String.toList_ofList (l := [c]), h]
      simp
    exact absurd (List.mem_singleton.1 hmem).symm hamp

/-- An entity is text. -/
theorem isText_of_mem_entities (entity : String) (h : entity ∈ entities) : IsText entity := by
  have htail : '&' ∉ entity.toList.tail := by
    revert h entity
    decide
  constructor
  · revert h entity
    decide
  · intro before after hentity
    cases before with
    | nil => exact ⟨entity, h, by rw [hentity]; exact List.prefix_refl _⟩
    | cons c before =>
      rw [hentity] at htail
      simp at htail

theorem isText_escapeChar (c : Char) : IsText (String.ofList (escapeChar c)) := by
  unfold escapeChar
  split
  · exact isText_of_mem_entities "&amp;" (by decide)
  · exact isText_of_mem_entities "&lt;" (by decide)
  · exact isText_of_mem_entities "&gt;" (by decide)
  · exact isText_of_mem_entities "&quot;" (by decide)
  · exact isText_of_mem_entities "&#39;" (by decide)
  · next h₁ h₂ h₃ h₄ h₅ => exact isText_singleton ⟨h₁, h₂, h₃, h₄, h₅⟩

/-- **Escaping any text gives text of HTML.** -/
theorem isText_escape (s : String) : IsText (escape s) := by
  unfold escape
  induction s.toList with
  | nil => exact isText_empty
  | cons c rest ih =>
    rw [List.flatMap_cons, String.ofList_append]
    exact (isText_escapeChar c).append ih

/-! ## Content -/

theorem IsText.isContent {s : String} (hs : IsText s) : IsContent s := by
  rw [← String.append_empty (s := s)]
  exact .text hs .nil

theorem IsContent.append {s t : String} (hs : IsContent s) (ht : IsContent t) :
    IsContent (s ++ t) := by
  induction hs with
  | nil => rwa [String.empty_append]
  | text hs _ ih =>
    rw [String.append_assoc]
    exact .text hs ih
  | emphasis hinner _ _ ih =>
    rw [String.append_assoc]
    exact .emphasis hinner ih
  | link hurl hinner _ _ ih =>
    rw [String.append_assoc]
    exact .link hurl hinner ih
  | span kind hinner _ _ ih =>
    rw [String.append_assoc]
    exact .span kind hinner ih

theorem isContent_join {items : List String} (h : ∀ item ∈ items, IsContent item) :
    IsContent (String.join items) := by
  induction items with
  | nil => exact .nil
  | cons item items ih =>
    rw [String.join_cons]
    have hitems : ∀ item ∈ items, IsContent item := fun item hmem => h item (.tail _ hmem)
    exact (h item (.head _)).append (ih hitems)

/-- Content between tags is content if it is wherever something is between them. -/
theorem isContent_enclose {opening closing content : String}
    (h : IsContent (opening ++ content ++ closing ++ "")) :
    IsContent (enclose opening closing content) := by
  unfold enclose
  split
  · exact .nil
  · rwa [String.append_empty] at h

/-- The tag of a component names its kind. -/
theorem spanTag_className (kind : Component) :
    spanTag (Scene.className kind) = "<span class=\"name-" ++ kind.id ++ "\">" := by
  cases kind <;> decide

end Html

namespace OutputFormat

open Html

variable {classes : Bool}

theorem isContent_text (s : String) : IsContent ((htmlWith classes).text s) :=
  (isText_escape s).isContent

theorem isContent_emphasis {content : String} (h : IsContent content) :
    IsContent ((htmlWith classes).emphasis content) :=
  isContent_enclose (.emphasis h .nil)

theorem isContent_link (url : String) {content : String} (h : IsContent content) :
    IsContent ((htmlWith classes).link url content) :=
  isContent_enclose (.link (isText_escape url) h .nil)

theorem isContent_semantic (kind : Component) {content : String} (h : IsContent content) :
    IsContent ((htmlWith classes).semantic (Scene.className kind) content) := by
  show IsContent (if classes then _ else content)
  split
  · apply isContent_enclose
    rw [spanTag_className]
    exact .span kind h .nil
  · exact h

end OutputFormat
end PersonalNames

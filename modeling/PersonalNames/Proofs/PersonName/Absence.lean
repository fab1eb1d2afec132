import PersonalNames.Proofs.PersonName.Readings

/-! # Absent values

The loose reading takes scalars only.  A null, a `false`, a list or an object gives
nothing, under a known key or an unknown one, and the entry might as well be missing.

There is one exception.  The link has two keys, and `link` puts `url` out of use by
being there, whatever its value.  So an absent value under `link` hides the link that
stands under `url`, and leaving the entry out uncovers it (`link_without_link`).
`ofJson_without_absent` says that nothing else is ever lost or won.
-/
namespace PersonalNames

namespace Json

/-- The values that give no text where text is wanted. -/
inductive IsAbsent : Json → Prop
  | null : IsAbsent .null
  | boolFalse : IsAbsent (.bool false)
  | array (items : List Json) : IsAbsent (.array items)
  | object (entries : List (String × Json)) : IsAbsent (.object entries)

/-- Entries without those under a key. -/
def without (key : String) (entries : List (String × Json)) : List (String × Json) :=
  entries.filter fun entry => entry.1 ≠ key

theorem IsAbsent.scalarText?_eq_none {v : Json} (h : v.IsAbsent) : v.scalarText? = none := by
  cases h <;> rfl

theorem find?_without (key other : String) (entries : List (String × Json)) :
    Catalog.find? other (without key entries) =
      if other = key then none else Catalog.find? other entries := by
  induction entries with
  | nil => simp [without, Catalog.find?]
  | cons entry entries ih =>
    obtain ⟨k, v⟩ := entry
    by_cases hkey : k = key
    · subst hkey
      have hdrop : without k ((k, v) :: entries) = without k entries := by simp [without]
      rw [hdrop, ih, Catalog.find?]
      by_cases hother : other = k
      · rw [if_pos hother, if_pos hother]
      · rw [if_neg hother, if_neg hother, if_neg (Ne.symm hother)]
    · have hkeep : without key ((k, v) :: entries) = (k, v) :: without key entries := by
        simp [without, hkey]
      rw [hkeep, Catalog.find?, Catalog.find?, ih]
      by_cases hother : k = other
      · rw [if_pos hother, if_pos hother, if_neg (hother ▸ hkey)]
      · rw [if_neg hother, if_neg hother]

end Json

namespace PersonName

open Json

theorem link_ofJson (entries : List (String × Json)) :
    (ofJson (.object entries)).link = looseText? entries ["link", "url"] := by
  rw [ofJson_object]

section
variable {entries : List (String × Json)} {key : String} {v : Json}
  (hfound : Catalog.find? key entries = some v) (habsent : v.IsAbsent)
include hfound habsent

/-- Under one key an absent value reads like none. -/
theorem looseText?_one_without (other : String) :
    looseText? (without key entries) [other] = looseText? entries [other] := by
  rw [looseText?_one, looseText?_one, find?_without]
  by_cases hother : other = key
  · rw [if_pos hother, hother, hfound]
    exact habsent.scalarText?_eq_none.symm
  · rw [if_neg hother]

/-- Under two keys it does so unless it stands under the first. -/
theorem looseText?_two_without {first : String} (hfirst : key ≠ first) (second : String) :
    looseText? (without key entries) [first, second] = looseText? entries [first, second] := by
  rw [looseText?_two, looseText?_two, find?_without, find?_without, if_neg (Ne.symm hfirst)]
  by_cases hsecond : second = key
  · rw [if_pos hsecond, hsecond, hfound]
    cases Catalog.find? first entries with
    | none => exact habsent.scalarText?_eq_none.symm
    | some _ => rfl
  · rw [if_neg hsecond]

/-- What is read of the components does not change when an absent value is left out. -/
theorem part_without (kind : Component) :
    (ofJson (.object (without key entries))).part kind = (ofJson (.object entries)).part kind := by
  have htext := looseText?_one_without hfound habsent
  rw [ofJson_object, ofJson_object]
  cases kind
  all_goals exact htext _

/-- Neither does the link, unless the value stands under `link`. -/
theorem link_without (hkey : key ≠ "link") :
    (ofJson (.object (without key entries))).link = (ofJson (.object entries)).link := by
  rw [link_ofJson, link_ofJson]
  exact looseText?_two_without hfound habsent hkey "url"

end

/-- Without a key `link`, the link is what stands under `url`. -/
theorem link_without_link (entries : List (String × Json)) :
    (ofJson (.object (without "link" entries))).link = looseText? entries ["url"] := by
  have hlink : Catalog.find? "link" (without "link" entries) = none := by
    rw [find?_without, if_pos rfl]
  have hurl : Catalog.find? "url" (without "link" entries) = Catalog.find? "url" entries := by
    rw [find?_without, if_neg (by decide)]
  rw [link_ofJson, looseText?_two, hlink, hurl, Option.none_or, looseText?_one]

/-- With an absent value under `link` there is no link. -/
theorem link_of_absent {entries : List (String × Json)} {v : Json}
    (hfound : Catalog.find? "link" entries = some v) (habsent : v.IsAbsent) :
    (ofJson (.object entries)).link = none := by
  rw [link_ofJson, looseText?_two, hfound, Option.some_or]
  exact habsent.scalarText?_eq_none

/-- The link that a name with only the entry `url` would have. -/
def urlTarget? (entries : List (String × Json)) : Option String :=
  target? { link := looseText? entries ["url"] }

/-- **An absent value is as good as a missing one, except under `link`.**  Without its
entry the components are the same, and so is the link, unless the key is `link` and a
link stands under `url`: that one is not read before, and is afterwards. -/
theorem ofJson_without_absent {entries : List (String × Json)} {key : String} {v : Json}
    (hfound : Catalog.find? key entries = some v) (habsent : v.IsAbsent) :
    let whole := ofJson (.object entries)
    let rest := ofJson (.object (without key entries))
    (∀ kind, rest.part kind = whole.part kind) ∧
      (key = "link" → whole.target? = none ∧ rest.target? = urlTarget? entries) ∧
      (rest.target? = whole.target? ↔ ¬ (key = "link" ∧ (urlTarget? entries).isSome)) := by
  intro whole rest
  have hlink : key = "link" → whole.target? = none ∧ rest.target? = urlTarget? entries := by
    rintro rfl
    constructor
    · unfold target?
      rw [link_of_absent hfound habsent]
      rfl
    · unfold urlTarget? target?
      rw [link_without_link]
  refine ⟨part_without hfound habsent, hlink, ?_⟩
  by_cases hkey : key = "link"
  · obtain ⟨hwhole, hrest⟩ := hlink hkey
    rw [hwhole, hrest, and_iff_right hkey, Option.not_isSome_iff_eq_none]
  · have hsame : rest.target? = whole.target? := by
      unfold target?
      rw [link_without hfound habsent hkey]
    exact iff_of_true hsame fun h => hkey h.1

/-- A list under `url` is passed over where `link` has a text, and an object under a
component gives nothing. -/
theorem ofJson_without_absent_url :
    let entries : List (String × Json) := [("title", .object [("text", .text "Dr")]),
      ("url", .array [.text "https://b.example"]), ("link", .text " https://a.example")]
    Catalog.find? "url" entries = some (.array [.text "https://b.example"]) ∧
      IsAbsent (.array [.text "https://b.example"]) ∧
      (ofJson (.object (without "url" entries))).target? = some "https://a.example" ∧
      (ofJson (.object entries)).target? = some "https://a.example" := by
  intro entries
  have hfound : Catalog.find? "url" entries = some (.array [.text "https://b.example"]) := rfl
  have habsent : IsAbsent (.array [.text "https://b.example"]) := .array _
  have htarget : (ofJson (.object entries)).target? = some "https://a.example" := by decide
  have hkept := (ofJson_without_absent hfound habsent).2.2.2 fun h => absurd h.1 (by decide)
  exact ⟨hfound, habsent, hkept.trans htarget, htarget⟩

/-- A null under `link` hides the link under `url`. -/
theorem not_without_absent_link :
    let entries : List (String × Json) :=
      [("given", .text "Ann"), ("link", .null), ("url", .text "https://a.example")]
    Catalog.find? "link" entries = some .null ∧ IsAbsent .null ∧
      (ofJson (.object entries)).target? = none ∧
      (ofJson (.object (without "link" entries))).target? = some "https://a.example" := by
  intro entries
  exact ⟨rfl, .null, by decide, by decide⟩

end PersonName
end PersonalNames

import PersonalNames.PersonName
import PersonalNames.Proofs.Document.Records

/-! # The two readings of a name

A name is read strictly as a record of texts, or loosely from whatever an object
offers.  The loose reading asks for less and never answers differently: where the
strict one succeeds on an object, both give the same name (`ofJson_of_read?`).  The
strict one may pass over a key that it does not know and over a null, and takes the
link from either of its two names; the loose one looks up each key by itself.

Both undo writing (`read?_toJson`), with nothing tidied on the way: a blank part and
the link of a name without parts come back as they were given.
-/
namespace PersonalNames

open Document (present)

/-! ## The strict reading against the loose one -/

namespace Document

/-- An optional text of a JSON value is read strictly only as the loose reading has it. -/
theorem scalarText?_of_optional? {v : Json} {s : Option String}
    (h : optional? text? v.toDocument = some s) : v.scalarText? = s := by
  cases v with
  | null =>
    cases h
    rfl
  | text t =>
    cases h
    rfl
  | bool | number | array | object => cases h

end Document

namespace PersonName

open Document

/-- What the loose reading takes from the entries of an object under one of some keys. -/
def looseText? (entries : List (String × Json)) (keys : List String) : Option String :=
  (keys.findSome? fun key => Catalog.find? key entries).bind Json.scalarText?

/-- **One field**: what the strict reading finds in it, the loose one finds as well. -/
theorem looseText?_of_omissible? {entries : List (String × Json)} {r : Record}
    (h : record? .json fieldNames (Json.object entries).toDocument = some r) {i : Nat}
    {keys : List String} (hkeys : fieldNames[i]? = some keys) {s : Option String}
    (htext : r.omissible? i text? = some s) : looseText? entries keys = s := by
  have hnames : fieldNames.flatten.Nodup := by decide
  have hrecord : r.positional = false := by
    obtain ⟨_, -, rfl⟩ := Option.map_eq_some_iff.1 h
    rfl
  have hvalue := value?_of_record? hnames h hkeys
  unfold Record.omissible? at htext
  unfold looseText?
  cases hfound : keys.findSome? fun key => Catalog.find? key entries with
  | none =>
    rw [hvalue, hfound] at htext
    simpa [hrecord] using htext
  | some v =>
    rw [hvalue, hfound] at htext
    exact scalarText?_of_optional? htext

theorem looseText?_one (entries : List (String × Json)) (key : String) :
    looseText? entries [key] = (Catalog.find? key entries).bind Json.scalarText? := by
  unfold looseText?
  rw [List.findSome?_cons]
  cases Catalog.find? key entries <;> rfl

theorem looseText?_two (entries : List (String × Json)) (key other : String) :
    looseText? entries [key, other] =
      ((Catalog.find? key entries).or (Catalog.find? other entries)).bind Json.scalarText? := by
  unfold looseText?
  rw [List.findSome?_cons, List.findSome?_cons]
  cases Catalog.find? key entries <;> cases Catalog.find? other entries <;> rfl

/-- The loose reading of an object, field by field. -/
theorem ofJson_object (entries : List (String × Json)) :
    ofJson (.object entries) =
      { title := looseText? entries ["title"]
        given := looseText? entries ["given"]
        middle := looseText? entries ["middle"]
        family := looseText? entries ["family"]
        generational := looseText? entries ["generational"]
        credentials := looseText? entries ["credentials"]
        link := looseText? entries ["link", "url"] } := by
  simp only [looseText?_one, looseText?_two]
  rfl

/-- **Where the strict reading succeeds on an object, the loose one gives the same name.** -/
theorem ofJson_of_read? {entries : List (String × Json)} {n : PersonName}
    (h : read? (Json.object entries).toDocument = some n) : ofJson (.object entries) = n := by
  unfold read? at h
  simp only [Option.bind_eq_bind, Option.bind_eq_some_iff] at h
  obtain ⟨r, hrecord, title, htitle, given, hgiven, middle, hmiddle, family, hfamily,
    generational, hgenerational, credentials, hcredentials, link, hlink, hname⟩ := h
  have hfield {i : Nat} {keys : List String} (hkeys : fieldNames[i]? = some keys)
      {s : Option String} (htext : r.omissible? i text? = some s) : looseText? entries keys = s :=
    looseText?_of_omissible? hrecord hkeys htext
  cases hname
  rw [ofJson_object, PersonName.mk.injEq]
  exact ⟨hfield rfl htitle, hfield rfl hgiven, hfield rfl hmiddle, hfield rfl hfamily,
    hfield rfl hgenerational, hfield rfl hcredentials, hfield rfl hlink⟩

/-! ## What was written -/

/-- The fields of a name as they are written. -/
def written (n : PersonName) : List (String × Option Document) :=
  Component.all.map (fun kind => (kind.id, (n.part kind).map .text)) ++
    [("link", n.link.map .text)]

theorem toDocument_toJson (n : PersonName) : n.toJson.toDocument = .map (present n.written) := by
  rw [toJson, Json.toDocument, Json.entriesToDocuments_append, Json.entriesToDocuments_textEntries,
    Json.entriesToDocuments_textEntry, written, present_append]

theorem omissible?_written {values : List (Option Document)} {i : Nat} {s : Option String}
    (h : values[i]? = some (s.map .text)) : Record.omissible? ⟨false, values⟩ i text? = some s := by
  have hvalue : Record.value? ⟨false, values⟩ i = s.map .text := by
    simp [Record.value?, h]
  unfold Record.omissible?
  rw [hvalue]
  cases s <;> rfl

/-- **A name that was written is read strictly as it was.** -/
theorem read?_toJson (n : PersonName) : read? n.toJson.toDocument = some n := by
  have hplaces : n.written.map (fun field => place? fieldNames (text field.1)) =
      (List.range fieldNames.length).map fun index => some (some index) := rfl
  rw [toDocument_toJson, read?, record?_of_places hplaces .json]
  simp only [Option.bind_eq_bind, Option.bind_eq_some_iff]
  exact ⟨_, rfl, n.title, omissible?_written rfl, n.given, omissible?_written rfl,
    n.middle, omissible?_written rfl, n.family, omissible?_written rfl,
    n.generational, omissible?_written rfl, n.credentials, omissible?_written rfl,
    n.link, omissible?_written rfl, rfl⟩

/-- **The readings agree.**  A name that was written is read as it was, strictly and loosely;
and of every object that the strict reading accepts the loose one gives the same name. -/
theorem readings_agree :
    (∀ n : PersonName, read? n.toJson.toDocument = some n ∧ ofJson n.toJson = n) ∧
      ∀ (entries : List (String × Json)) (n : PersonName),
        read? (Json.object entries).toDocument = some n → ofJson (.object entries) = n := by
  refine ⟨fun n => ⟨read?_toJson n, ofJson_of_read? (read?_toJson n)⟩, fun entries n h => ?_⟩
  exact ofJson_of_read? h

/-- An unknown key and a null are passed over, and `url` gives the link. -/
theorem readings_agree_alias :
    let entries : List (String × Json) := [("url", .text "https://a.example"), ("given", .null),
      ("age", .array [.number (.int 3)]), ("family", .text " "), ("title", .text "Dr")]
    let n : PersonName := { title := "Dr", family := " ", link := "https://a.example" }
    read? (Json.object entries).toDocument = some n ∧ ofJson (.object entries) = n := by
  intro entries n
  have hread : read? (Json.object entries).toDocument = some n := rfl
  exact ⟨hread, readings_agree.2 entries n hread⟩

end PersonName
end PersonalNames

import PersonalNames.Document.Reading

/-! # Records and their fields

A record is written as a map with its fields in order, those without a value left
out (`present`).  Reading it as a record of the same fields gives each field the value
that was written (`record?_present`); this holds as well where a field may go by
further names (`record?_of_places`), and where the fields share the map with further
entries under other keys: `ownFields?_append` finds the fields and
`otherFields?_append` the further entries.

Of a map that came from elsewhere, `getElem?_placeAll` says what its record has in each
place: the value of an entry whose key is a name for that place.  For an object this is
what looking up the names of the place finds (`value?_of_record?`).
-/
namespace PersonalNames
namespace Document

/-- The entries of a map that has the given values under their keys; fields without a
value are left out. -/
def present (fields : List (String × Option Document)) : List (Document × Document) :=
  fields.filterMap fun field => field.2.map fun value => (text field.1, value)

/-- Entries under keys that are texts. -/
def named (entries : List (String × Document)) : List (Document × Document) :=
  entries.map fun entry => (text entry.1, entry.2)

@[simp] theorem present_nil : present [] = [] := rfl

@[simp] theorem present_none (key : String) (fields : List (String × Option Document)) :
    present ((key, none) :: fields) = present fields := rfl

@[simp] theorem present_some (key : String) (value : Document)
    (fields : List (String × Option Document)) :
    present ((key, some value) :: fields) = (text key, value) :: present fields := rfl

theorem present_append (fields others : List (String × Option Document)) :
    present (fields ++ others) = present fields ++ present others :=
  List.filterMap_append

/-! ## Fields in their places -/

theorem place?_append {before : List String} {key : String} (h : key ∉ before)
    (after : List String) :
    place? ((before ++ key :: after).map ([·])) (text key) = some (some before.length) := by
  show some (((before ++ key :: after).map ([·])).findIdx? (·.contains key)) = _
  congr 1
  induction before with
  | nil =>
    have hfirst : [key].contains key = true := by simp
    rw [List.nil_append, List.map_cons, List.findIdx?_cons, hfirst]
    rfl
  | cons first before ih =>
    rw [List.mem_cons, not_or] at h
    have hfirst : [first].contains key = false := by simpa using h.1
    rw [List.cons_append, List.map_cons, List.findIdx?_cons, hfirst, ih h.2]
    rfl

theorem place_append (before after : List (Option Document)) (value : Document) :
    place before.length value (before ++ none :: after) = some (before ++ some value :: after) := by
  induction before with
  | nil => rfl
  | cons slot before ih =>
    rw [List.length_cons, List.cons_append, place, ih]
    rfl

/-- Puts the value of an entry into the place of its field, if there is one. -/
def placeEntry (names : List (List String)) (slots : List (Option Document))
    (entry : Document × Document) : Option (List (Option Document)) := do
  match ← place? names entry.1 with
  | some index => place index entry.2 slots
  | none => some slots

theorem placeAll_eq_foldlM (names : List (List String)) (entries : List (Document × Document)) :
    placeAll names entries =
      entries.foldlM (placeEntry names) (List.replicate names.length none) := rfl

/-- Fields that are written in the order of their places come into them one by one. -/
theorem placeAll_of_places {names : List (List String)} {fields : List (String × Option Document)}
    (h : fields.map (fun field => place? names (text field.1)) =
      (List.range names.length).map fun index => some (some index)) :
    placeAll names (present fields) = some (fields.map Prod.snd) := by
  have hlength : fields.length = names.length := by
    simpa using congrArg List.length h
  -- `done` are the fields in front, whose places are taken; those of `rest` are vacant.
  suffices hfrom : ∀ done rest : List (String × Option Document), fields = done ++ rest →
      (present rest).foldlM (placeEntry names)
        (done.map Prod.snd ++ List.replicate rest.length none) = some (fields.map Prod.snd) by
    have hall := hfrom [] fields rfl
    rw [placeAll_eq_foldlM, ← hlength]
    exact hall
  intro done rest
  induction rest generalizing done with
  | nil =>
    rintro rfl
    simp
  | cons field rest ih =>
    intro hfields
    obtain ⟨key, value⟩ := field
    have hrest := ih (done ++ [(key, value)]) (by simpa using hfields)
    have hslots : (done ++ [(key, value)]).map Prod.snd ++ List.replicate rest.length none =
        done.map Prod.snd ++ value :: List.replicate rest.length none := by simp
    rw [hslots] at hrest
    rw [List.length_cons, List.replicate_succ]
    cases value with
    | none => exact hrest
    | some value =>
      have hindex : place? names (text key) = some (some (done.map Prod.snd).length) := by
        have hplace := congrArg (·[done.length]?) h
        have hless : done.length < names.length := by
          rw [← hlength, hfields, List.length_append, List.length_cons]
          omega
        simpa [hfields, List.getElem?_range hless] using hplace
      rw [present_some, List.foldlM_cons]
      simp only [placeEntry, hindex, Option.bind_eq_bind, Option.bind_some, place_append]
      exact hrest

/-- Of distinct names each has the place in which it stands. -/
theorem places_of_nodup {keys : List String} (h : keys.Nodup) :
    keys.map (fun key => place? (keys.map ([·])) (text key)) =
      (List.range keys.length).map fun index => some (some index) := by
  apply List.ext_getElem
  · simp
  · intro i hkey _
    rw [List.length_map] at hkey
    have hsplit : keys.take i ++ keys[i] :: keys.drop (i + 1) = keys := by
      rw [← List.drop_eq_getElem_cons hkey, List.take_append_drop]
    have hbefore : keys[i] ∉ keys.take i := by
      have hnodup : (keys.take i ++ keys[i] :: keys.drop (i + 1)).Nodup := by rwa [hsplit]
      exact fun hmem => (List.nodup_append.1 hnodup).2.2 _ hmem _ (.head _) rfl
    have hplace := place?_append hbefore (keys.drop (i + 1))
    rw [hsplit, List.length_take_of_le (Nat.le_of_lt hkey)] at hplace
    simpa using hplace

/-- Fields that are written in order come into their places one by one. -/
theorem placeAll_present {fields : List (String × Option Document)}
    (h : (fields.map Prod.fst).Nodup) :
    placeAll ((fields.map Prod.fst).map ([·])) (present fields) = some (fields.map Prod.snd) := by
  apply placeAll_of_places
  have hplaces := places_of_nodup h
  rw [List.map_map] at hplaces
  rw [List.length_map]
  exact hplaces

/-- **A record that was written is read with the same values.** -/
theorem record?_present (fields : List (String × Option Document))
    (h : (fields.map Prod.fst).Nodup) (r : Reading) :
    record? r ((fields.map Prod.fst).map ([·])) (map (present fields)) =
      some ⟨false, fields.map Prod.snd⟩ := by
  show (placeAll _ _).map _ = _
  rw [placeAll_present h]
  rfl

/-- **A record that was written is read with the same values**, where a field may go by
further names. -/
theorem record?_of_places {names : List (List String)} {fields : List (String × Option Document)}
    (h : fields.map (fun field => place? names (text field.1)) =
      (List.range names.length).map fun index => some (some index)) (r : Reading) :
    record? r names (map (present fields)) = some ⟨false, fields.map Prod.snd⟩ := by
  show (placeAll _ _).map _ = _
  rw [placeAll_of_places h]
  rfl

/-- An optional value that is there was read. -/
theorem eq_some_of_optional? {α : Type} {read : Document → Option α} {d : Document} {a : α}
    (h : optional? read d = some (some a)) : read d = some a := by
  have hread : (read d).map some = some (some a) → read d = some a := by
    cases read d <;> simp
  unfold optional? at h
  split at h
  · cases h
  · cases h
  · split at h
    · cases h
    · exact hread h
  · split at h
    · split at h <;> cases h
    · exact hread h
  · exact hread h

/-! ## What stands in a place -/

theorem place_eq_some {index : Nat} {value : Document} {slots next : List (Option Document)}
    (h : place index value slots = some next) :
    slots[index]? = some none ∧ next = slots.set index (some value) := by
  induction slots generalizing index next with
  | nil => simp [place] at h
  | cons slot slots ih =>
    cases index with
    | zero =>
      rw [place] at h
      cases slot with
      | some _ => cases h
      | none =>
        cases h
        exact ⟨rfl, rfl⟩
    | succ index =>
      obtain ⟨rest, hrest, rfl⟩ := Option.map_eq_some_iff.1 h
      obtain ⟨hvacant, rfl⟩ := ih hrest
      exact ⟨hvacant, rfl⟩

/-- **One entry**: its value stands in its place, if it has one, which was vacant. -/
theorem getElem?_placeEntry {names : List (List String)} {slots next : List (Option Document)}
    {entry : Document × Document} (h : placeEntry names slots entry = some next) {i : Nat}
    {value : Document} :
    next[i]? = some (some value) ↔
      slots[i]? = some (some value) ∨ place? names entry.1 = some (some i) ∧ entry.2 = value := by
  obtain ⟨index?, hindex, hnext⟩ := Option.bind_eq_some_iff.1 h
  cases index? with
  | none =>
    cases hnext
    simp [hindex]
  | some index =>
    obtain ⟨hvacant, rfl⟩ := place_eq_some hnext
    obtain ⟨hless, hnone⟩ := List.getElem?_eq_some_iff.1 hvacant
    by_cases hi : index = i
    · subst hi
      simp [hindex, hless, hnone]
    · simp [hindex, hi]

/-- **All entries**: a place holds a value exactly if an entry puts it there. -/
theorem getElem?_placeAll {names : List (List String)} {slots : List (Option Document)}
    {entries : List (Document × Document)} (h : placeAll names entries = some slots) {i : Nat}
    {value : Document} :
    slots[i]? = some (some value) ↔
      ∃ entry ∈ entries, place? names entry.1 = some (some i) ∧ entry.2 = value := by
  have hfrom {start next : List (Option Document)}
      (hnext : entries.foldlM (placeEntry names) start = some next) :
      next[i]? = some (some value) ↔ start[i]? = some (some value) ∨
        ∃ entry ∈ entries, place? names entry.1 = some (some i) ∧ entry.2 = value := by
    clear h
    induction entries generalizing start with
    | nil =>
      cases hnext
      simp
    | cons entry entries ih =>
      rw [List.foldlM_cons] at hnext
      obtain ⟨_, hentry, hrest⟩ := Option.bind_eq_some_iff.1 hnext
      rw [ih hrest, getElem?_placeEntry hentry, or_assoc]
      simp only [List.mem_cons, exists_eq_or_imp]
  have hvacant : (List.replicate names.length (none : Option Document))[i]? ≠
      some (some value) := by
    intro hsome
    have hmem := List.mem_of_getElem? hsome
    simp at hmem
  rw [hfrom (placeAll_eq_foldlM names entries ▸ h), or_iff_right hvacant]

/-- The place of a key is that of the names among which it stands. -/
theorem place?_text_eq_some_iff {names : List (List String)} (h : names.flatten.Nodup)
    {key : String} {i : Nat} :
    place? names (text key) = some (some i) ↔ ∃ keys, names[i]? = some keys ∧ key ∈ keys := by
  show some (names.findIdx? (·.contains key)) = some (some i) ↔ _
  rw [Option.some_inj]
  induction names generalizing i with
  | nil => simp
  | cons first names ih =>
    rw [List.flatten_cons, List.nodup_append] at h
    rw [List.findIdx?_cons]
    by_cases hfirst : key ∈ first
    · have hother (keys : List String) (hkeys : keys ∈ names) : key ∉ keys := fun hmem =>
        h.2.2 key hfirst key (List.mem_flatten_of_mem hkeys hmem) rfl
      cases i with
      | zero => simp [hfirst]
      | succ i =>
        simp only [hfirst, List.contains_eq_mem, decide_true, if_true, List.getElem?_cons_succ]
        constructor
        · intro hzero
          cases hzero
        · rintro ⟨keys, hkeys, hmem⟩
          exact absurd hmem (hother keys (List.mem_of_getElem? hkeys))
    · cases i with
      | zero => simp [hfirst]
      | succ i =>
        simpa [hfirst] using ih h.2.1

/-! ## Fields beside further entries -/

section
variable {keys : List String}

/-- The test by which entries are told to be fields. -/
theorem isOwn_text (key : String) (value : Document) :
    (((text key, value).1.text?).map keys.contains).getD false = keys.contains key := rfl

theorem filter_present {fields : List (String × Option Document)}
    (h : ∀ field ∈ fields, field.1 ∈ keys) :
    (present fields).filter (fun entry => (entry.1.text?.map keys.contains).getD false) =
      present fields := by
  rw [List.filter_eq_self]
  intro entry hentry
  obtain ⟨⟨key, value⟩, hfield, hvalue⟩ := List.mem_filterMap.mp hentry
  obtain ⟨value, _, rfl⟩ := Option.map_eq_some_iff.mp hvalue
  rw [isOwn_text]
  simpa using h _ hfield

theorem filter_named {others : List (String × Document)} (h : ∀ other ∈ others, other.1 ∉ keys) :
    (named others).filter (fun entry => (entry.1.text?.map keys.contains).getD false) = [] := by
  rw [List.filter_eq_nil_iff]
  intro entry hentry
  obtain ⟨other, hother, rfl⟩ := List.mem_map.mp hentry
  rw [isOwn_text]
  simpa using h other hother

/-- The fields are found among further entries. -/
theorem ownFields?_append (fields : List (String × Option Document))
    {others : List (String × Document)} (h : (fields.map Prod.fst).Nodup)
    (hothers : ∀ other ∈ others, other.1 ∉ fields.map Prod.fst) :
    ownFields? (fields.map Prod.fst) (present fields ++ named others) =
      some ⟨false, fields.map Prod.snd⟩ := by
  have hfields : ∀ field ∈ fields, field.1 ∈ fields.map Prod.fst :=
    fun field hfield => List.mem_map_of_mem hfield
  unfold ownFields?
  rw [List.filter_append, filter_present hfields, filter_named hothers, List.append_nil]
  show (placeAll _ _).map _ = _
  rw [placeAll_present h]
  rfl

/-- Further entries keep their order, and their values if these have their types
already. -/
theorem otherFields?_named {others : List (String × Document)} {r : Reading}
    (hothers : ∀ other ∈ others, other.1 ∉ keys)
    (hsettled : ∀ other ∈ others, other.2.settle? r.room = some other.2) :
    otherFields? r keys (named others) = some others := by
  unfold otherFields? named
  induction others with
  | nil => rfl
  | cons other others ih =>
    have hrest := ih (fun next hnext => hothers next (.tail _ hnext))
      fun next hnext => hsettled next (.tail _ hnext)
    rw [List.map_cons, List.foldrM_cons, hrest]
    simp [text?, hothers other (.head _), hsettled other (.head _)]

/-- The further entries are found behind the fields. -/
theorem otherFields?_append (fields : List (String × Option Document))
    {others : List (String × Document)} {r : Reading}
    (hfields : ∀ field ∈ fields, field.1 ∈ keys) (hothers : ∀ other ∈ others, other.1 ∉ keys)
    (hsettled : ∀ other ∈ others, other.2.settle? r.room = some other.2) :
    otherFields? r keys (present fields ++ named others) = some others := by
  unfold otherFields?
  rw [List.foldrM_append]
  show (otherFields? r keys (named others)).bind _ = _
  rw [otherFields?_named hothers hsettled, Option.bind_some]
  induction fields with
  | nil => rfl
  | cons field fields ih =>
    obtain ⟨key, value⟩ := field
    have hrest := ih fun next hnext => hfields next (.tail _ hnext)
    cases value with
    | none => exact hrest
    | some value =>
      have hkey : key ∈ keys := hfields _ (.head _)
      rw [present_some, List.foldrM_cons, hrest]
      simp [text?, hkey]

/-- None of the further entries of a map stands under a key of a field. -/
theorem not_mem_of_otherFields? {r : Reading} {entries : List (Document × Document)}
    {others : List (String × Document)} (h : otherFields? r keys entries = some others) :
    ∀ other ∈ others, other.1 ∉ keys := by
  unfold otherFields? at h
  induction entries generalizing others with
  | nil =>
    cases h
    simp
  | cons entry entries ih =>
    rw [List.foldrM_cons] at h
    obtain ⟨rest, hrest, hentry⟩ := Option.bind_eq_some_iff.mp h
    obtain ⟨key, _, hkey⟩ := Option.bind_eq_some_iff.mp hentry
    split at hkey
    · cases hkey
      exact ih hrest
    · next hnot =>
      obtain ⟨value, _, hvalue⟩ := Option.bind_eq_some_iff.mp hkey
      cases hvalue
      rintro other (_ | ⟨_, hother⟩)
      · simpa using hnot
      · exact ih hrest other hother

end

end Document

/-! ## Objects as records -/

namespace Json

open Document (present named)

theorem entriesToDocuments_eq_named (entries : List (String × Json)) :
    entriesToDocuments entries =
      named (entries.map fun entry => (entry.1, entry.2.toDocument)) := by
  induction entries with
  | nil => rfl
  | cons entry entries ih =>
    rw [entriesToDocuments, ih]
    rfl

theorem entriesToDocuments_append (entries others : List (String × Json)) :
    entriesToDocuments (entries ++ others) =
      entriesToDocuments entries ++ entriesToDocuments others := by
  simp [entriesToDocuments_eq_named, named]

theorem entriesToDocuments_textEntry (key : String) (value : Option String) :
    entriesToDocuments (textEntry key value) = present [(key, value.map .text)] := by
  cases value <;> rfl

/-- Texts under their keys are the fields of a record. -/
theorem entriesToDocuments_textEntries {α : Type} (key : α → String) (value : α → Option String)
    (fields : List α) :
    entriesToDocuments (fields.flatMap fun field => textEntry (key field) (value field)) =
      present (fields.map fun field => (key field, (value field).map .text)) := by
  induction fields with
  | nil => rfl
  | cons field fields ih =>
    rw [List.flatMap_cons, entriesToDocuments_append, ih, entriesToDocuments_textEntry,
      ← Document.present_append]
    rfl

end Json

namespace Document

/-- **A field of an object**: a record has under a place what the object has under the
first of the names for that place that it knows. -/
theorem value?_of_record? {names : List (List String)} (hnames : names.flatten.Nodup)
    {entries : List (String × Json)} {reading : Reading} {r : Record}
    (h : record? reading names (Json.object entries).toDocument = some r) {i : Nat}
    {keys : List String} (hkeys : names[i]? = some keys) :
    r.value? i = (keys.findSome? fun key => Catalog.find? key entries).map Json.toDocument := by
  obtain ⟨slots, hslots, rfl⟩ := Option.map_eq_some_iff.1 h
  have hvalue {d : Document} : Record.value? ⟨false, slots⟩ i = some d ↔
      ∃ key ∈ keys, ∃ v, (key, v) ∈ entries ∧ v.toDocument = d := by
    have hslot : Record.value? ⟨false, slots⟩ i = some d ↔ slots[i]? = some (some d) := by
      simp [Record.value?, Option.bind_eq_some_iff]
    rw [hslot, getElem?_placeAll hslots, Json.entriesToDocuments_eq_named]
    simp only [named, List.map_map, List.mem_map, Function.comp_apply]
    constructor
    · rintro ⟨_, ⟨⟨key, v⟩, hmem, rfl⟩, hplace, rfl⟩
      obtain ⟨others, hothers, hkey⟩ := (place?_text_eq_some_iff hnames).1 hplace
      cases hkeys.symm.trans hothers
      exact ⟨key, hkey, v, hmem, rfl⟩
    · rintro ⟨key, hkey, v, hmem, rfl⟩
      exact ⟨_, ⟨_, hmem, rfl⟩, (place?_text_eq_some_iff hnames).2 ⟨keys, hkeys, hkey⟩, rfl⟩
  cases hfound : keys.findSome? fun key => Catalog.find? key entries with
  | none =>
    -- No entry stands under one of the names.
    rw [List.findSome?_eq_none_iff] at hfound
    rw [Option.map_none, Option.eq_none_iff_forall_ne_some]
    intro d hsome
    obtain ⟨key, hkey, v, hmem, -⟩ := hvalue.1 hsome
    exact Catalog.find?_eq_none_iff.1 (hfound key hkey) (List.mem_map_of_mem hmem)
  | some v =>
    obtain ⟨key, hkey, hfind⟩ := List.exists_of_findSome?_eq_some hfound
    exact hvalue.2 ⟨key, hkey, v, Catalog.mem_of_find? hfind, rfl⟩

end Document
end PersonalNames

/-! # Catalogs

A catalog lists values under distinct text keys, in the order in which the keys
were first entered.  Entering a value under a known key replaces the value and
leaves the key in its place.  `keys_insert` and `get?_insert` say what entering
a value does to the keys and to the values. -/
namespace PersonalNames

/-- Values under distinct keys, in the order of the keys' first entry. -/
structure Catalog (α : Type) where
  entries : List (String × α)
  distinct : (entries.map Prod.fst).Nodup
deriving DecidableEq

namespace Catalog

variable {α : Type}

/-- The catalog without entries. -/
def empty : Catalog α :=
  ⟨[], List.nodup_nil⟩

instance : Inhabited (Catalog α) := ⟨empty⟩

/-- Whether there are no entries. -/
def isEmpty (c : Catalog α) : Bool :=
  c.entries.isEmpty

/-- The keys, in order. -/
def keys (c : Catalog α) : List String :=
  c.entries.map Prod.fst

/-- The value of the first entry under a key. -/
def find? (key : String) : List (String × α) → Option α
  | [] => none
  | (k, v) :: rest => if k = key then some v else find? key rest

/-- The value under a key. -/
def get? (c : Catalog α) (key : String) : Option α :=
  find? key c.entries

/-- A list of entries with a value put under a key. -/
def put (key : String) (value : α) : List (String × α) → List (String × α)
  | [] => [(key, value)]
  | (k, v) :: rest => if k = key then (k, value) :: rest else (k, v) :: put key value rest

theorem map_fst_put (key : String) (value : α) (entries : List (String × α)) :
    (put key value entries).map Prod.fst =
      if key ∈ entries.map Prod.fst then entries.map Prod.fst
      else entries.map Prod.fst ++ [key] := by
  induction entries with
  | nil => simp [put]
  | cons entry rest ih =>
    obtain ⟨k, v⟩ := entry
    by_cases hk : k = key
    · simp [put, hk]
    · have hne : ¬ key = k := fun h => hk h.symm
      simp only [put, hk, if_false, List.map_cons, ih, List.mem_cons, hne, false_or]
      split <;> simp

theorem nodup_put (key : String) (value : α) {entries : List (String × α)}
    (h : (entries.map Prod.fst).Nodup) : ((put key value entries).map Prod.fst).Nodup := by
  rw [map_fst_put]
  split
  · exact h
  · next hmem =>
    rw [List.nodup_append]
    refine ⟨h, by simp, ?_⟩
    intro a ha b hb hab
    rw [List.mem_singleton] at hb
    exact hmem (hb ▸ hab ▸ ha)

/-- The catalog with a value entered under a key. -/
def insert (c : Catalog α) (key : String) (value : α) : Catalog α :=
  ⟨put key value c.entries, nodup_put key value c.distinct⟩

/-- The catalog of a list of entries; of a repeated key the last value stays. -/
def ofList (entries : List (String × α)) : Catalog α :=
  entries.foldl (fun c entry => c.insert entry.1 entry.2) empty

/-- The catalog with all entries of another one entered in their order. -/
def overlay (c other : Catalog α) : Catalog α :=
  other.entries.foldl (fun c entry => c.insert entry.1 entry.2) c

/-- The entries whose value a function keeps, with the values it gives. -/
def filterMap {β : Type} (f : α → Option β) (c : Catalog α) : Catalog β :=
  ofList (c.entries.filterMap fun entry => (f entry.2).map (entry.1, ·))

theorem keys_insert (c : Catalog α) (key : String) (value : α) :
    (c.insert key value).keys = if key ∈ c.keys then c.keys else c.keys ++ [key] :=
  map_fst_put key value c.entries

theorem find?_put (key other : String) (value : α) (entries : List (String × α)) :
    find? other (put key value entries) =
      if key = other then some value else find? other entries := by
  induction entries with
  | nil => rfl
  | cons entry rest ih =>
    obtain ⟨k, v⟩ := entry
    by_cases hk : k = key
    · subst hk
      by_cases h : k = other <;> simp [put, find?, h]
    · by_cases ho : k = other
      · subst ho
        have hne : ¬ key = k := fun h => hk h.symm
        simp [put, find?, hk, hne]
      · simp [put, find?, hk, ho, ih]

theorem get?_insert (c : Catalog α) (key other : String) (value : α) :
    (c.insert key value).get? other = if key = other then some value else c.get? other :=
  find?_put key other value c.entries

/-- A value that is found stands in an entry. -/
theorem mem_of_find? {key : String} {value : α} {entries : List (String × α)}
    (h : find? key entries = some value) : (key, value) ∈ entries := by
  induction entries with
  | nil => cases h
  | cons entry entries ih =>
    rw [find?] at h
    split at h
    · next hkey =>
      cases h
      rw [← hkey]
      exact List.mem_cons_self
    · exact List.mem_cons_of_mem entry (ih h)

/-- No value is found under a key that no entry has. -/
theorem find?_eq_none_iff {key : String} {entries : List (String × α)} :
    find? key entries = none ↔ key ∉ entries.map Prod.fst := by
  induction entries with
  | nil => simp [find?]
  | cons entry entries ih =>
    rw [find?, List.map_cons, List.mem_cons, not_or, ← ih]
    split
    · next hkey => simp [hkey]
    · next hkey => exact ⟨fun h => ⟨Ne.symm hkey, h⟩, And.right⟩

/-- Only the entered value is new. -/
theorem mem_of_mem_put {key : String} {value : α} {entry : String × α}
    {entries : List (String × α)} (h : entry ∈ put key value entries) :
    entry = (key, value) ∨ entry ∈ entries := by
  induction entries with
  | nil => exact Or.inl (List.mem_singleton.mp h)
  | cons first entries ih =>
    rw [put] at h
    split at h
    · next hkey =>
      rcases List.mem_cons.mp h with rfl | h
      · exact Or.inl (by rw [hkey])
      · exact Or.inr (List.mem_cons_of_mem first h)
    · rcases List.mem_cons.mp h with rfl | h
      · exact Or.inr List.mem_cons_self
      · exact (ih h).imp id (List.mem_cons_of_mem first)

theorem eq_of_entries {c other : Catalog α} (h : c.entries = other.entries) : c = other := by
  obtain ⟨_, _⟩ := c
  obtain ⟨_, _⟩ := other
  cases h
  rfl

/-- A value under a new key stands at the end. -/
theorem put_of_not_mem {key : String} (value : α) {entries : List (String × α)}
    (h : key ∉ entries.map Prod.fst) : put key value entries = entries ++ [(key, value)] := by
  induction entries with
  | nil => rfl
  | cons entry entries ih =>
    rw [List.map_cons, List.mem_cons, not_or] at h
    rw [put, if_neg (Ne.symm h.1), ih h.2, List.cons_append]

/-- Entries under distinct keys make a catalog of just these. -/
theorem entries_ofList {entries : List (String × α)} (h : (entries.map Prod.fst).Nodup) :
    (ofList entries).entries = entries := by
  suffices hfrom : ∀ (c : Catalog α) (entries : List (String × α)),
      ((c.entries ++ entries).map Prod.fst).Nodup →
        (entries.foldl (fun c entry => c.insert entry.1 entry.2) c).entries = c.entries ++ entries by
    exact hfrom empty entries h
  intro c entries
  induction entries generalizing c with
  | nil => simp
  | cons entry entries ih =>
    intro hdistinct
    have hkey : entry.1 ∉ c.entries.map Prod.fst := by
      rw [List.map_append, List.nodup_append] at hdistinct
      exact fun hmem => hdistinct.2.2 _ hmem _ (by simp) rfl
    have hinsert : (c.insert entry.1 entry.2).entries = c.entries ++ [entry] :=
      put_of_not_mem entry.2 hkey
    rw [List.foldl_cons, ih (c.insert entry.1 entry.2) (by simpa [hinsert] using hdistinct),
      hinsert, List.append_assoc, List.singleton_append]

theorem ofList_entries (c : Catalog α) : ofList c.entries = c :=
  eq_of_entries (entries_ofList c.distinct)

/-- The keys of a catalog are those of its entries. -/
theorem mem_keys_ofList {key : String} {entries : List (String × α)}
    (h : key ∈ (ofList entries).keys) : key ∈ entries.map Prod.fst := by
  suffices hfrom : ∀ (c : Catalog α) (entries : List (String × α)),
      key ∈ (entries.foldl (fun c entry => c.insert entry.1 entry.2) c).keys →
        key ∈ c.keys ∨ key ∈ entries.map Prod.fst by
    exact (hfrom empty entries h).resolve_left List.not_mem_nil
  intro c entries
  induction entries generalizing c with
  | nil => exact Or.inl
  | cons entry entries ih =>
    intro hmem
    rw [List.map_cons, List.mem_cons]
    rcases ih _ hmem with hinsert | hentries
    · rw [keys_insert] at hinsert
      split at hinsert
      · exact Or.inl hinsert
      · rw [List.mem_append, List.mem_singleton] at hinsert
        exact hinsert.imp id Or.inl
    · exact Or.inr (Or.inr hentries)

end Catalog
end PersonalNames

import Mathlib.Data.List.Basic
import PersonalNames.Proofs.Configuration.Layers

/-! # Configurations laid over each other

Laying configurations over each other is associative; the empty configuration changes
nothing, above another one or below it, and neither does a configuration laid over
itself (`overlay_laws`).  Layers may therefore be put together in groups, as long as
they keep their order.

All this holds with the order of identifiers, in which a format that is replaced keeps
its place and a new one stands at the end.  A catalog is known by its keys in their
order and by the values under them (`Catalog.eq_of_keys_of_get?`), and a value entered
in the upper catalog might as well be entered in the result (`Catalog.overlay_insert`).
-/
namespace PersonalNames

/-! ## Catalogs -/

namespace Catalog

variable {α : Type}

/-- Every entry of a catalog is found under its key. -/
theorem find?_of_mem {key : String} {value : α} {entries : List (String × α)}
    (hdistinct : (entries.map Prod.fst).Nodup) (h : (key, value) ∈ entries) :
    find? key entries = some value := by
  induction entries with
  | nil => cases h
  | cons entry entries ih =>
    obtain ⟨hentry, hentries⟩ := List.nodup_cons.1 hdistinct
    rw [find?]
    rcases List.mem_cons.1 h with rfl | h
    · rw [if_pos rfl]
    · have hne : entry.1 ≠ key := fun heq => hentry (heq ▸ List.mem_map_of_mem h)
      rw [if_neg hne, ih hentries h]

/-- The entries are the keys with the values found under them. -/
theorem filterMap_keys (c : Catalog α) :
    c.keys.filterMap (fun key => (c.get? key).map (key, ·)) = c.entries := by
  have hfound : ∀ entry ∈ c.entries,
      ((c.get? entry.1).map (entry.1, ·)) = some entry := by
    intro entry hentry
    have hget : c.get? entry.1 = some entry.2 := find?_of_mem c.distinct hentry
    rw [hget, Option.map_some]
  rw [keys, List.filterMap_map]
  exact (List.filterMap_congr hfound).trans List.filterMap_some

/-- Catalogs with the same keys in the same order, and the same values under them, are
the same. -/
theorem eq_of_keys_of_get? {c other : Catalog α} (hkeys : c.keys = other.keys)
    (h : ∀ key, c.get? key = other.get? key) : c = other := by
  apply eq_of_entries
  rw [← filterMap_keys c, ← filterMap_keys other, hkeys, funext h]

theorem overlay_keys (c upper : Catalog α) :
    (c.overlay upper).keys = (c.keys ++ upper.keys).eraseDups :=
  keys_overlay (eraseDups_of_nodup c.distinct).symm upper

-- The entry that is replaced keeps its place.
example :
    (ofList [("a", "g"), ("b", "f")]).overlay (.ofList [("c", "m"), ("a", "t")]) =
      .ofList [("a", "t"), ("b", "f"), ("c", "m")] := by
  rfl

/-- **A value entered above is entered in the result.** -/
theorem overlay_insert (c upper : Catalog α) (key : String) (value : α) :
    c.overlay (upper.insert key value) = (c.overlay upper).insert key value := by
  apply eq_of_keys_of_get?
  · rw [keys_insert, overlay_keys, overlay_keys, keys_insert]
    by_cases hkey : key ∈ upper.keys
    · have hboth : key ∈ (c.keys ++ upper.keys).eraseDups := by simp [hkey]
      rw [if_pos hkey, if_pos hboth]
    · rw [if_neg hkey, ← List.append_assoc, eraseDups_concat]
  · intro other
    rw [get?_insert, get?_overlay, get?_overlay, get?_insert]
    split
    · rfl
    · rfl

theorem overlay_assoc (a b c : Catalog α) :
    (a.overlay b).overlay c = a.overlay (b.overlay c) := by
  unfold overlay
  exact List.foldl_hom (a.overlay ·) fun b entry => (overlay_insert a b entry.1 entry.2).symm

theorem empty_overlay (c : Catalog α) : empty.overlay c = c :=
  ofList_entries c

theorem overlay_self (c : Catalog α) : c.overlay c = c := by
  apply eq_of_keys_of_get?
  · have hnothing : c.keys.removeAll c.keys = [] := by simp [List.removeAll]
    rw [overlay_keys, List.eraseDups_append, hnothing, List.eraseDups_nil, List.append_nil]
    exact eraseDups_of_nodup c.distinct
  · intro key
    rw [get?_overlay, Option.or_self]

end Catalog

/-! ## Terms and configurations -/

namespace Terms

theorem overlay_assoc (a b c : Terms) : (a.overlay b).overlay c = a.overlay (b.overlay c) := by
  simp only [overlay, Option.or_assoc]

theorem empty_overlay (t : Terms) : overlay {} t = t := by
  simp only [overlay, Option.or_none]

theorem overlay_self (t : Terms) : t.overlay t = t := by
  simp only [overlay, Option.or_self]

end Terms

namespace Configuration

theorem overlay_assoc (a b c : Configuration) :
    (a.overlay b).overlay c = a.overlay (b.overlay c) := by
  simp only [overlay, Catalog.overlay_assoc, Terms.overlay_assoc, Option.or_assoc]

theorem empty_overlay (c : Configuration) : overlay {} c = c := by
  simp only [overlay, Catalog.empty_overlay, Terms.empty_overlay, Option.or_none]

theorem overlay_empty (c : Configuration) : c.overlay {} = c := rfl

theorem overlay_self (c : Configuration) : c.overlay c = c := by
  simp only [overlay, Catalog.overlay_self, Terms.overlay_self, Option.or_self]

/-- Layers may be put together in groups, each of which is laid over those before. -/
theorem stack_append (first next : Configuration) (lower upper : List Configuration) :
    stack first (lower ++ next :: upper) = (stack first lower).overlay (stack next upper) := by
  unfold stack
  rw [List.foldl_append, List.foldl_cons]
  exact List.foldl_hom ((lower.foldl overlay first).overlay ·) fun next upper =>
    overlay_assoc (lower.foldl overlay first) next upper

/-- **Configurations form a monoid under overlaying**, in which laying a configuration
over itself changes nothing.  Configurations are equal if they have the same formats
under the same identifiers in the same order, the same settings and the same terms.  So
layers may be grouped at will. -/
theorem overlay_laws :
    (∀ a b c : Configuration, (a.overlay b).overlay c = a.overlay (b.overlay c)) ∧
    (∀ c : Configuration, overlay {} c = c ∧ c.overlay {} = c) ∧
    (∀ c : Configuration, c.overlay c = c) ∧
    (∀ (first next : Configuration) (lower upper : List Configuration),
      stack first (lower ++ next :: upper) = (stack first lower).overlay (stack next upper)) ∧
    ∀ c d : Configuration, c = d ↔
      c.nameFormats.entries = d.nameFormats.entries ∧ c.listFormats.entries = d.listFormats.entries ∧
        c.settings = d.settings ∧ c.terms = d.terms := by
  refine ⟨overlay_assoc, fun c => ⟨empty_overlay c, overlay_empty c⟩, overlay_self, stack_append, ?_⟩
  intro c d
  constructor
  · rintro rfl
    exact ⟨rfl, rfl, rfl, rfl⟩
  · rintro ⟨hnames, hlists, hsettings, hterms⟩
    obtain ⟨_, _, _, _⟩ := c
    obtain ⟨_, _, _, _⟩ := d
    rw [mk.injEq]
    exact ⟨Catalog.eq_of_entries hnames, Catalog.eq_of_entries hlists, hsettings, hterms⟩

end Configuration
end PersonalNames

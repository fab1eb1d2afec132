import PersonalNames.Document.Basic

/-! # Outlines

An outline says which parts of a document will be read: all of it, or the values
under some keys of a map, or the value under every key of a map, each value again
by an outline.  What lies outside is passed over and need not have a value. -/
namespace PersonalNames

/-- The parts of a document that will be read. -/
inductive Outline where
  | whole
  /-- The values under the given keys. -/
  | fields (outlines : List (String × Outline))
  /-- The values under all keys. -/
  | each (outline : Outline)

namespace Outline

/-- The outline of a map of which the values under the given keys are read whole. -/
def keys (names : List String) : Outline :=
  .fields (names.map (·, .whole))

/-- The outline of the value under a key; none if the value is passed over.  The
key is none where it is no text. -/
def under? (o : Outline) (key : Option String) : Option Outline :=
  match o with
  | whole => some whole
  | fields outlines => key.bind fun name => outlines.lookup name
  | each outline => some outline

/-- Of a map that is read under some keys, the values under these keys are read. -/
theorem under?_keys (names : List String) (key : String) :
    (keys names).under? (some key) = if key ∈ names then some whole else none := by
  simp only [keys, under?, Option.bind_some]
  induction names with
  | nil => rfl
  | cons name rest ih =>
    by_cases h : key = name
    · simp [h]
    · have hne : (key == name) = false := by simp [h]
      simp only [List.map_cons, List.lookup_cons, hne, List.mem_cons, h, false_or]
      exact ih

end Outline
end PersonalNames

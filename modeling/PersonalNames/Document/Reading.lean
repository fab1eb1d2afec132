import PersonalNames.Document.Settled

/-! # Reading typed values

How texts, choices, records and maps are read from a document.  A record is
written as a map, whose unknown keys are passed over and whose known keys may
occur once, or outside YAML as a list of all its values in order.  `Reading` says
where the document comes from and how deep it may still go. -/
namespace PersonalNames

/-- Where a document comes from. -/
inductive Origin where
  | json
  | yaml
  /-- Read before and kept with settled types. -/
  | settled
deriving DecidableEq, Repr

/-- The circumstances of reading: the origin of the document and the number of
lists and maps that may still be entered. -/
structure Reading where
  origin : Origin
  room : Nat

namespace Reading

/-- Reading from the top of a JSON text. -/
def json : Reading := ⟨.json, 127⟩

/-- Reading from the top of a YAML text. -/
def yaml : Reading := ⟨.yaml, 128⟩

/-- Reading what was read before; its depth has been checked. -/
def settled : Reading := ⟨.settled, 0⟩

/-- Reading inside a list or map. -/
def enter? (r : Reading) : Option Reading :=
  match r.origin, r.room with
  | .settled, _ => some r
  | _, 0 => none
  | _, room + 1 => some { r with room }

end Reading

namespace Document

/-- Whether a document stands for an empty record or map: nothing at all, or an
unquoted scalar without characters. -/
def isBlankScalar : Document → Bool
  | absent => true
  | plain s => s.isEmpty
  | tagged _ (plain s) => s.isEmpty
  | _ => false

/-- The place that a key gives among names: the key is the name itself or, where
keys have types of their own, the number of the place. -/
def place? (names : List (List String)) (key : Document) : Option (Option Nat) :=
  match key with
  | number (.int n) =>
    if 0 ≤ n then some (if n.toNat < names.length then some n.toNat else none) else none
  | key => (text? key).map fun name => names.findIdx? (·.contains name)

/-- The values of a record, one for each field, and whether they stand in a list. -/
structure Record where
  positional : Bool
  values : List (Option Document)

/-- Puts the value of a field into its place, which must be vacant. -/
def place (index : Nat) (value : Document) :
    List (Option Document) → Option (List (Option Document))
  | [] => none
  | slot :: slots =>
    match index with
    | 0 => if slot.isSome then none else some (some value :: slots)
    | index + 1 => (place index value slots).map (slot :: ·)

/-- Sorts the entries of a map into the places of the fields. -/
def placeAll (names : List (List String)) (entries : List (Document × Document)) :
    Option (List (Option Document)) :=
  entries.foldlM
    (fun slots entry => do
      match ← place? names entry.1 with
      | some index => place index entry.2 slots
      | none => some slots)
    (List.replicate names.length none)

/-- The values of a record whose fields go by the given names, each field by one
or more. -/
def record? (r : Reading) (names : List (List String)) (d : Document) : Option Record :=
  match d with
  | tagged _ (map entries) => (placeAll names entries).map (⟨false, ·⟩)
  | map entries => (placeAll names entries).map (⟨false, ·⟩)
  | list items =>
    if r.origin ≠ .yaml && items.length ≤ names.length then some ⟨true, items.map some⟩ else none
  | d => if isBlankScalar d then some ⟨false, []⟩ else none

/-- The entries of a map. -/
def entries? (d : Document) : Option (List (Document × Document)) :=
  match d with
  | tagged _ (map entries) => some entries
  | map entries => some entries
  | d => if isBlankScalar d then some [] else none

/-- The record of the entries of a map whose keys are among the given ones. -/
def ownFields? (keys : List String) (entries : List (Document × Document)) : Option Record :=
  let own := entries.filter fun entry => (entry.1.text?.map keys.contains).getD false
  (placeAll (keys.map ([·])) own).map (⟨false, ·⟩)

/-- The entries of a map whose keys are not among the given ones.  Their values
get their types at once, whatever becomes of them. -/
def otherFields? (r : Reading) (keys : List String) (entries : List (Document × Document)) :
    Option (List (String × Document)) :=
  entries.foldrM
    (fun entry others => do
      let key ← entry.1.text?
      if keys.contains key then return others
      else return (key, ← entry.2.settle? r.room) :: others)
    []

/-- An optional value: nothing where the document is null or an unquoted scalar
that is empty or spells null. -/
def optional? {α : Type} (read : Document → Option α) (d : Document) : Option (Option α) :=
  match d with
  | absent | null => some none
  | plain s => if s.isEmpty || Scalar.isNull s then some none else (read d).map some
  | tagged tag (plain s) =>
    if tag = .core .null then
      if Scalar.isNull s then some none else none
    else (read d).map some
  | d => (read d).map some

/-- A whole number without sign, of 64 bits. -/
def natural? (d : Document) : Option Nat :=
  let whole : Document → Option Nat
    | number (.int n) => if 0 ≤ n then some n.toNat else none
    | _ => none
  match d with
  | plain s => whole (Scalar.meaning s)
  | d => whole d

/-- Whether a document may stand after the name of a choice. -/
def isUnit (r : Reading) : Document → Bool
  | null => true
  | absent => r.origin = .yaml
  | plain s => r.origin = .yaml && (s.isEmpty || Scalar.isNull s)
  | map [] => r.origin = .settled
  | _ => false

/-- The place of a choice among names.  A choice is written as its name; in YAML
also as a tag, and elsewhere as a map from the name to nothing. -/
def choice? (r : Reading) (names : List String) (d : Document) : Option Nat :=
  let find (name : String) : Option Nat := names.findIdx? (· == name)
  match d with
  | text s => find s
  | plain s => find s
  | tagged (.own name) content => if isUnit r content then find name else none
  | tagged _ content => (text? content).bind find
  | map [(key, value)] =>
    if r.origin = .yaml then none
    else if isUnit r value then ((place? (names.map ([·])) key).bind id) else none
  | _ => none

namespace Record

/-- The value of a field, if it is written. -/
def value? (r : Record) (index : Nat) : Option Document :=
  (r.values[index]?).bind id

/-- A field that must be written. -/
def required? {α : Type} (r : Record) (index : Nat) (read : Document → Option α) : Option α :=
  (r.value? index).bind read

/-- A field that takes a default where it is not written. -/
def withDefault? {α : Type} (r : Record) (index : Nat) (default : α)
    (read : Document → Option α) : Option α :=
  match r.value? index with
  | some d => read d
  | none => some default

/-- A field that may be left out of a map, but not out of a list. -/
def omissible? {α : Type} (r : Record) (index : Nat) (read : Document → Option α) :
    Option (Option α) :=
  match r.value? index with
  | some d => optional? read d
  | none => if r.positional then none else some none

end Record
end Document
end PersonalNames

import PersonalNames.Text.Utf8

/-! # Tags

A YAML node may carry a tag, which is a name in bytes.  Four tags of the common
vocabulary fix the type of a scalar, and a tag that starts with a mark is one of
the document's own; every other tag says no more than that a scalar is text. -/
namespace PersonalNames

/-- The tags of the common vocabulary that fix the type of a scalar. -/
inductive CoreTag where
  | bool
  | int
  | float
  | null
deriving DecidableEq, Repr

/-- What the tag of a node means. -/
inductive Tag where
  | core (tag : CoreTag)
  /-- A tag of the document's own, given by what stands behind its mark. -/
  | own (name : String)
  /-- A tag of the document's own whose name is no text. -/
  | garbled
  | other
deriving DecidableEq, Repr

namespace Tag

/-- The core tag that a name is. -/
def core? (name : String) : Option CoreTag :=
  if name == "tag:yaml.org,2002:bool" then some .bool
  else if name == "tag:yaml.org,2002:int" then some .int
  else if name == "tag:yaml.org,2002:float" then some .float
  else if name == "tag:yaml.org,2002:null" then some .null
  else none

/-- Whether a tag is one of the document's own, with a name that is text. -/
def isOwn : Tag → Bool
  | own _ => true
  | _ => false

/-- The meaning of a tag of given bytes. -/
def ofBytes (bytes : List UInt8) : Tag :=
  match bytes with
  | 0x21 :: name =>
    match Text.decode? name with
    | some name => .own name
    | none => .garbled
  | _ =>
    match (Text.decode? bytes).bind core? with
    | some tag => .core tag
    | none => .other

end Tag
end PersonalNames

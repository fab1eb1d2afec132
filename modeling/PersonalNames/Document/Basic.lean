import PersonalNames.Document.Tag
import PersonalNames.Json.Basic

/-! # Documents

A document is what a JSON or YAML text says before anyone asks for a type.  It
keeps every entry of a map, repeated keys included, and leaves the type of an
unquoted YAML scalar open: where text is wanted such a scalar is its own text,
and only elsewhere does its spelling decide what it is. -/
namespace PersonalNames

/-- A tree of scalars, lists and maps as written. -/
inductive Document where
  /-- An empty text. -/
  | absent
  | null
  | bool (b : Bool)
  | number (n : Number)
  /-- An infinity or a number that is none. -/
  | nonFinite
  | text (s : String)
  /-- An unquoted YAML scalar. -/
  | plain (s : String)
  /-- A YAML node with a tag. -/
  | tagged (tag : Tag) (content : Document)
  | list (items : List Document)
  | map (entries : List (Document × Document))
  /-- A well-formed piece of text without a value, such as a number beyond all
  doubles, or one that nobody asks for.  It may be passed over but not read. -/
  | unreadable
deriving Repr

end PersonalNames

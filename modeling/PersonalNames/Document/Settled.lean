import PersonalNames.Document.Scalar

/-! # Settling a document

`settle?` decides the type of every scalar of a document, and `toJson?` goes on
to a JSON value, in which each key occurs once.  Both refuse what has no value,
tags of the document's own, and nesting deeper than a given room. -/
namespace PersonalNames
namespace Document

/-- The value of a scalar under a core tag, which the spelling has to fit. -/
def cast? (tag : CoreTag) (s : String) : Option Document :=
  match tag with
  | .bool => (Scalar.bool? s).map .bool
  | .int => ((Scalar.int? s.toList).filter Scalar.fits64).map fun n => .number (.int n)
  | .float => Scalar.float? s
  | .null => if Scalar.isNull s then some .null else none

/-- The value of an unquoted scalar. -/
def plainValue? (s : String) : Option Document :=
  match Scalar.meaning s with
  | unreadable => none
  | d => some d

/-- The value of a scalar under a tag.  Under a tag of the document's own it has
no value, unless the name of the tag is no text: then the tag does not count. -/
def scalarUnder? (tag : Tag) (isPlain : Bool) (s : String) : Option Document :=
  match tag with
  | .core core => cast? core s
  | .own _ => none
  | .garbled => if isPlain then plainValue? s else some (.text s)
  | .other => some (.text s)

mutual

/-- A document in which every scalar has its type. -/
def settle? (room : Nat) : Document → Option Document
  | absent => some null
  | null => some null
  | bool b => some (bool b)
  | number n => some (number n)
  | nonFinite => some nonFinite
  | text s => some (text s)
  | plain s => plainValue? s
  | tagged tag content =>
    match content with
    | plain s => scalarUnder? tag true s
    | text s => scalarUnder? tag false s
    | d => if tag.isOwn then none else settle? room d
  | list items =>
    match room with
    | 0 => none
    | room + 1 => (settleItems? room items).map list
  | map entries =>
    match room with
    | 0 => none
    | room + 1 => (settleEntries? room entries).map map
  | unreadable => none

/-- Settles the items of a list. -/
def settleItems? (room : Nat) : List Document → Option (List Document)
  | [] => some []
  | item :: items => do return (← settle? room item) :: (← settleItems? room items)

/-- Settles the keys and values of a map. -/
def settleEntries? (room : Nat) : List (Document × Document) → Option (List (Document × Document))
  | [] => some []
  | (key, value) :: entries => do
    return (← settle? room key, ← settle? room value) :: (← settleEntries? room entries)

end

/-- The text of a document where text is wanted: quoted text, or the spelling of
an unquoted scalar.  Tags do not matter there. -/
def text? : Document → Option String
  | text s => some s
  | plain s => some s
  | tagged _ (text s) => some s
  | tagged _ (plain s) => some s
  | _ => none

mutual

/-- The JSON value of a document.  Of a repeated key the first place and the last
value stay, keys are texts, and numbers that are not finite become null. -/
def toJson? (room : Nat) : Document → Option Json
  | absent => some .null
  | null => some .null
  | bool b => some (.bool b)
  | number n => some (.number n)
  | nonFinite => some .null
  | text s => some (.text s)
  | plain s => leaf? (Scalar.meaning s)
  | tagged tag content =>
    match content with
    | plain s => (scalarUnder? tag true s).bind leaf?
    | text s => (scalarUnder? tag false s).bind leaf?
    | d => if tag.isOwn then none else toJson? room d
  | list items =>
    match room with
    | 0 => none
    | room + 1 => (itemsToJson? room items).map .array
  | map entries =>
    match room with
    | 0 => none
    | room + 1 => (entriesToJson? room entries).map fun es => .object (Catalog.ofList es).entries
  | unreadable => none
where
  /-- The JSON value of a scalar that has its type. -/
  leaf? : Document → Option Json
    | null => some .null
    | bool b => some (.bool b)
    | number n => some (.number n)
    | nonFinite => some .null
    | text s => some (.text s)
    | _ => none

/-- The JSON values of the items of a list. -/
def itemsToJson? (room : Nat) : List Document → Option (List Json)
  | [] => some []
  | item :: items => do return (← toJson? room item) :: (← itemsToJson? room items)

/-- The entries of an object. -/
def entriesToJson? (room : Nat) : List (Document × Document) → Option (List (String × Json))
  | [] => some []
  | (key, value) :: entries => do
    return (← text? key, ← toJson? room value) :: (← entriesToJson? room entries)

end

end Document

namespace Json

mutual

/-- A JSON value as a document. -/
def toDocument : Json → Document
  | null => .null
  | bool b => .bool b
  | number n => .number n
  | text s => .text s
  | array items => .list (itemsToDocuments items)
  | object entries => .map (entriesToDocuments entries)

/-- The items of an array as documents. -/
def itemsToDocuments : List Json → List Document
  | [] => []
  | item :: items => toDocument item :: itemsToDocuments items

/-- The entries of an object as entries of a document. -/
def entriesToDocuments : List (String × Json) → List (Document × Document)
  | [] => []
  | (key, value) :: entries => (.text key, toDocument value) :: entriesToDocuments entries

end

end Json
end PersonalNames

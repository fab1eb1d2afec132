import PersonalNames.Yaml.Scalar

/-! # YAML tokens

The tokens that a YAML text falls into: marks, scalars and names, and the starts
and ends of blocks, which stand in the text only as indentation.  This module
also reads the names behind the marks of anchors, aliases, tags and directives. -/
namespace PersonalNames
namespace Yaml

/-- A token of a YAML text. -/
inductive Token where
  | versionDirective (major minor : Nat)
  /-- The declaration of what a tag handle stands for. -/
  | tagDirective (handle : String) (expansion : List UInt8)
  | documentStart
  | documentEnd
  | sequenceBlock
  | mappingBlock
  | blockEnd
  | sequenceOpen
  | sequenceClose
  | mappingOpen
  | mappingClose
  /-- The dash of an item. -/
  | item
  | comma
  | key
  | value
  | alias (name : String)
  | anchor (name : String)
  /-- The handle of a tag and the bytes behind it. -/
  | tag (handle : String) (rest : List UInt8)
  | scalar (isPlain : Bool) (text : String)
deriving DecidableEq, Repr

/-- The characters of names. -/
def isWordChar (c : Char) : Bool :=
  c.isAlphanum || c = '_' || c = '-'

/-- Whether the name of an anchor or alias may end in front of a text. -/
def atNameEnd (s : List Char) : Bool :=
  atGap s || (s.head?.map ['?', ':', ',', ']', '\x7d', '%', '@', '\x60'].contains).getD false

/-- The name of an anchor or alias behind its mark. -/
def readAnchorName (c : Cursor) : Except Problem (String × Cursor) :=
  let name := c.rest.takeWhile isWordChar
  let c := c.advance name.length
  if name.isEmpty || !atNameEnd c.rest then .error "invalid name of an anchor or alias"
  else .ok (String.ofList name, c)

/-- The characters that may stand in a tag beside those of names. -/
def tagMarks : List Char :=
  [';', '/', '?', ':', '@', '&', '=', '+', '$', '.', '%', '!', '~', '*', '\'', '(', ')']

/-- Whether a character may stand in a tag; in a tag between angle brackets and
in a directive a few more may. -/
def isTagChar (wide : Bool) (c : Char) : Bool :=
  isWordChar c || tagMarks.contains c || (wide && (c = ',' || c = '[' || c = ']'))

/-- The byte that a percent sign and two hexadecimal digits write. -/
def escapedByte? : List Char → Option UInt8
  | '%' :: a :: b :: _ => (Text.number? 16 [a, b]).map UInt8.ofNat
  | _ => none

/-- The number of bytes of the character that a byte starts. -/
def byteCount? (b : UInt8) : Option Nat :=
  if b < 0x80 then some 1
  else if 0xC0 ≤ b && b < 0xE0 then some 2
  else if 0xE0 ≤ b && b < 0xF0 then some 3
  else if 0xF0 ≤ b && b < 0xF8 then some 4
  else none

/-- The bytes that escapes in front write for one character.  Of the encoding only
the number of bytes and the leading bits of each byte are checked. -/
def escapedBytes (s : List Char) : Except Problem (List UInt8) :=
  let bytes? (count : Nat) : Option (List UInt8) :=
    (List.range count).mapM fun i => escapedByte? (s.drop (3 * i))
  match ((escapedByte? s).bind byteCount?).bind bytes? with
  | none => .error "invalid escape in a tag"
  | some bytes =>
    if (bytes.drop 1).all Text.isContinuation then .ok bytes
    else .error "invalid escape in a tag"

/-- The bytes of characters of a tag, which take one byte each. -/
def tagBytes (s : List Char) : List UInt8 :=
  s.map fun c => UInt8.ofNat c.toNat

/-- Reads the characters of a tag behind those that have been read, which are given
backwards. -/
def readTagText (wide : Bool) (before : List UInt8) (c : Cursor) :
    Nat → Except Problem (List UInt8 × Cursor)
  | 0 => .ok (before.reverse, c)
  | fuel + 1 =>
    match c.rest with
    | [] => .ok (before.reverse, c)
    | ch :: _ =>
      if !isTagChar wide ch then .ok (before.reverse, c)
      else if ch = '%' then do
        let bytes ← escapedBytes c.rest
        readTagText wide (bytes.reverse ++ before) (c.advance (3 * bytes.length)) fuel
      else readTagText wide (tagBytes [ch] ++ before) (c.advance 1) fuel

/-- What counts of the bytes of a tag: those before the first zero byte. -/
def beforeZero (bytes : List UInt8) : List UInt8 :=
  bytes.takeWhile (· ≠ 0)

/-- Reads the characters of a tag, at least one. -/
def readTagPart (wide : Bool) (c : Cursor) : Except Problem (List UInt8 × Cursor) := do
  let (text, c) ← readTagText wide [] c (c.rest.length + 1)
  if text.isEmpty then throw "missing tag" else return (beforeZero text, c)

/-- Reads a tag handle: a mark, word characters and possibly a second mark. -/
def readTagHandle (c : Cursor) : Except Problem (List Char × Cursor) :=
  match c.rest with
  | '!' :: rest =>
    let word := rest.takeWhile isWordChar
    let c := c.advance (word.length + 1)
    match c.rest with
    | '!' :: _ => .ok ('!' :: word ++ ['!'], c.advance 1)
    | _ => .ok ('!' :: word, c)
  | _ => .error "missing mark of a tag handle"

/-- Whether a handle has marks at both ends. -/
def isFullHandle (handle : List Char) : Bool :=
  2 ≤ handle.length && handle.getLast? = some '!'

/-- Reads a tag.  A verbatim tag and the lone mark have no handle. -/
def readTag (inFlow : Bool) (c : Cursor) : Except Problem (Token × Cursor) := do
  let (handle, rest, c) ←
    match c.rest with
    | '!' :: '<' :: _ => do
      let (text, c) ← readTagPart true (c.advance 2)
      match c.rest with
      | '>' :: _ => pure ([], text, c.advance 1)
      | _ => throw "verbatim tag without end"
    | _ => do
      let (handle, c) ← readTagHandle c
      if isFullHandle handle then
        let (text, c) ← readTagPart false c
        pure (handle, text, c)
      else
        let (text, c) ← readTagText false (tagBytes (handle.drop 1)).reverse c (c.rest.length + 1)
        let text := beforeZero text
        if text.isEmpty then pure ([], tagBytes ['!'], c) else pure (['!'], text, c)
  if !atGap c.rest && !(inFlow && c.rest.head? = some ',') then throw "text behind a tag"
  return (.tag (String.ofList handle) rest, c)

/-- Reads a part of a version number. -/
def readVersionPart (c : Cursor) : Except Problem (Nat × Cursor) :=
  let digits := c.rest.takeWhile Char.isDigit
  if digits.isEmpty || 9 < digits.length then .error "invalid version number"
  else .ok (Text.decimal digits, c.advance digits.length)

/-- Reads a directive behind its mark, up to the end of its line. -/
def readDirective (c : Cursor) : Except Problem (Token × Cursor) := do
  let name := c.rest.takeWhile isWordChar
  let c := c.advance name.length
  if name.isEmpty || !atGap c.rest then throw "invalid name of a directive"
  let c := c.skipWhile isBlank
  let (token, c) ←
    if name = ['Y', 'A', 'M', 'L'] then do
      let (major, c) ← readVersionPart c
      match c.rest with
      | '.' :: _ =>
        let (minor, c) ← readVersionPart (c.advance 1)
        pure (Token.versionDirective major minor, c)
      | _ => throw "invalid version number"
    else if name = ['T', 'A', 'G'] then do
      let (handle, c) ← readTagHandle c
      if !(isFullHandle handle || handle = ['!']) then throw "tag handle without end"
      match c.rest with
      | ch :: _ => if !isBlank ch then throw "text behind a tag handle"
      | [] => throw "tag handle without meaning"
      let c := c.skipWhile isBlank
      let (text, c) ← readTagPart true c
      if !atGap c.rest then throw "text behind a tag directive"
      pure (Token.tagDirective (String.ofList handle) text, c)
    else throw "unknown directive"
  let c := c.skipWhile isBlank
  let c := if c.rest.head? = some '#' then c.skipToLineEnd else c
  if !atLineEnd c.rest then throw "text behind a directive"
  return (token, c.takeBreak.2)

end Yaml
end PersonalNames

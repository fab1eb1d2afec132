import PersonalNames.Yaml.Token

/-! # From text to tokens

The lexer reads a YAML text from left to right.  It keeps the indentation of the
open blocks, the depth of brackets, and for each depth the place where a key may
have started: whether something was a key shows only at the colon behind it, and
the tokens that announce it are then put in front of it. -/
namespace PersonalNames
namespace Yaml

/-- A place at which a key may have started. -/
structure KeyPlace where
  /-- The number of tokens in front of it. -/
  token : Nat
  /-- The number of bytes in front of it. -/
  bytes : Nat
  line : Nat
  column : Nat
  /-- Whether nothing but a key may stand there. -/
  required : Bool

/-- The state of the lexer. -/
structure Lexer where
  cursor : Cursor
  tokens : Array Token := #[]
  /-- The column of the innermost block; `-1` outside all blocks. -/
  indent : Int := -1
  /-- The columns of the blocks around it. -/
  outer : List Int := []
  /-- Whether a key may start here. -/
  keyAllowed : Bool := true
  /-- Where a key may have started, for the innermost brackets first and at last
  for the text outside all brackets. -/
  places : List (Option KeyPlace) := [none]

namespace Lexer

/-- Whether the lexer stands inside brackets. -/
def inFlow (l : Lexer) : Bool :=
  1 < l.places.length

/-- The lexer with a token added. -/
def emit (l : Lexer) (t : Token) : Lexer :=
  { l with tokens := l.tokens.push t }

/-- The lexer with a token put in front of those from a place on. -/
def emitAt (l : Lexer) (place : Nat) (t : Token) : Lexer :=
  { l with tokens := (l.tokens.extract 0 place).push t ++ l.tokens.extract place l.tokens.size }

/-- The lexer behind `n` characters of the same line. -/
def advance (l : Lexer) (n : Nat) : Lexer :=
  { l with cursor := l.cursor.advance n }

/-- Passes over blanks, comments and line breaks.  Tabs count as blanks inside
brackets and where no key may start. -/
def skipGap (l : Lexer) : Nat → Lexer
  | 0 => l
  | fuel + 1 =>
    let c := l.cursor
    let c := if c.column = 0 && c.rest.head? = some '\ufeff' then c.advance 1 else c
    let c := c.skipWhile fun ch => ch = ' ' || (ch = '\t' && (l.inFlow || !l.keyAllowed))
    let c := if c.rest.head? = some '#' then c.skipToLineEnd else c
    match c.rest with
    | ch :: _ =>
      if isBreak ch then
        skipGap { l with cursor := c.takeBreak.2, keyAllowed := l.keyAllowed || !l.inFlow } fuel
      else { l with cursor := c }
    | [] => { l with cursor := c }

/-- Gives up the places too far back: a key stands on one line, and its colon
follows within 1024 bytes. -/
def dropStale (l : Lexer) : Except Problem Lexer := do
  let fresh (place : Option KeyPlace) : Except Problem (Option KeyPlace) :=
    match place with
    | none => .ok none
    | some p =>
      if p.line < l.cursor.line || p.bytes + 1024 < l.cursor.bytes then
        if p.required then .error "missing colon behind a key" else .ok none
      else .ok (some p)
  return { l with places := ← l.places.mapM fresh }

/-- Gives up the place of the innermost brackets. -/
def dropPlace (l : Lexer) : Except Problem Lexer :=
  match l.places with
  | some p :: places =>
    if p.required then .error "missing colon behind a key"
    else .ok { l with places := none :: places }
  | _ => .ok l

/-- Notes that a key may start here. -/
def notePlace (l : Lexer) : Except Problem Lexer := do
  if !l.keyAllowed then return l
  let required := !l.inFlow && l.indent = (l.cursor.column : Int)
  let place : KeyPlace :=
    ⟨l.tokens.size, l.cursor.bytes, l.cursor.line, l.cursor.column, required⟩
  let l ← l.dropPlace
  return { l with places := some place :: l.places.drop 1 }

/-- Starts a block at a column, unless the innermost block has it. -/
def openBlock (l : Lexer) (column : Nat) (place : Nat) (t : Token) : Lexer :=
  if l.inFlow || (column : Int) ≤ l.indent then l
  else { l.emitAt place t with indent := column, outer := l.indent :: l.outer }

/-- Ends the blocks that lie behind a column. -/
def closeBlocks (l : Lexer) (column : Int) : Lexer :=
  if l.inFlow then l else close l.indent l.outer l
where
  /-- Ends blocks, the innermost of which has the column `indent`. -/
  close (indent : Int) (outer : List Int) (l : Lexer) : Lexer :=
    if column < indent then
      match outer with
      | next :: outer => close next outer (l.emit .blockEnd)
      | [] => { l.emit .blockEnd with indent := -1, outer := [] }
    else { l with indent, outer }

/-- Reads a mark at the start of a line that belongs to the document as a whole. -/
def documentMark (l : Lexer) (t : Token) : Except Problem Lexer := do
  let l ← (l.closeBlocks (-1)).dropPlace
  return ({ l with keyAllowed := false }.advance 3).emit t

/-- Reads an opening bracket or brace. -/
def openFlow (l : Lexer) (t : Token) : Except Problem Lexer := do
  let l ← l.notePlace
  return ({ l with places := none :: l.places, keyAllowed := true }.advance 1).emit t

/-- Reads a closing bracket or brace. -/
def closeFlow (l : Lexer) (t : Token) : Except Problem Lexer := do
  let l ← l.dropPlace
  let places := if l.inFlow then l.places.drop 1 else l.places
  return ({ l with places, keyAllowed := false }.advance 1).emit t

/-- Reads a comma. -/
def comma (l : Lexer) : Except Problem Lexer := do
  let l ← l.dropPlace
  return ({ l with keyAllowed := true }.advance 1).emit .comma

/-- Reads the dash of an item. -/
def item (l : Lexer) : Except Problem Lexer := do
  if !l.inFlow && !l.keyAllowed then throw "an item cannot stand here"
  let l ← (l.openBlock l.cursor.column l.tokens.size .sequenceBlock).dropPlace
  return ({ l with keyAllowed := true }.advance 1).emit .item

/-- Reads the question mark of a key. -/
def key (l : Lexer) : Except Problem Lexer := do
  if !l.inFlow && !l.keyAllowed then throw "a key cannot stand here"
  let l ← (l.openBlock l.cursor.column l.tokens.size .mappingBlock).dropPlace
  return ({ l with keyAllowed := !l.inFlow }.advance 1).emit .key

/-- Reads the colon of a value. -/
def value (l : Lexer) : Except Problem Lexer :=
  match l.places with
  | some p :: places =>
    let l := (l.emitAt p.token .key).openBlock p.column p.token .mappingBlock
    .ok (({ l with places := none :: places, keyAllowed := false }.advance 1).emit .value)
  | _ =>
    if !l.inFlow && !l.keyAllowed then .error "a value cannot stand here"
    else
      let l := l.openBlock l.cursor.column l.tokens.size .mappingBlock
      .ok (({ l with keyAllowed := !l.inFlow }.advance 1).emit .value)

/-- Reads what may start a key: an anchor, an alias, a tag or a scalar. -/
def content (l : Lexer) (read : Lexer → Except Problem (Token × Cursor × Bool)) :
    Except Problem Lexer := do
  let l ← l.notePlace
  let (token, cursor, keyAllowed) ← read l
  return { l.emit token with cursor, keyAllowed }

/-- Reads an anchor or an alias. -/
def name (l : Lexer) (token : String → Token) : Except Problem Lexer :=
  l.content fun l => do
    let (text, cursor) ← readAnchorName (l.cursor.advance 1)
    return (token text, cursor, false)

/-- Reads a tag. -/
def tag (l : Lexer) : Except Problem Lexer :=
  l.content fun l => do
    let (token, cursor) ← readTag l.inFlow l.cursor
    return (token, cursor, false)

/-- Reads a scalar in quotes. -/
def quoted (l : Lexer) (single : Bool) : Except Problem Lexer :=
  l.content fun l => do
    let start := l.cursor.advance 1
    let s ← readQuoted single [] start (start.rest.length + 1)
    return (.scalar false (String.ofList s.text), s.cursor, false)

/-- Reads a plain scalar. -/
def plain (l : Lexer) : Except Problem Lexer :=
  l.content fun l => do
    let (s, broken) ←
      readPlain l.inFlow (l.indent + 1) [] {} l.cursor (l.cursor.rest.length + 1)
    return (.scalar true (String.ofList s.text), s.cursor, broken)

/-- Reads a block of lines. -/
def block (l : Lexer) (folded : Bool) : Except Problem Lexer := do
  let l ← l.dropPlace
  let s ← readBlock folded l.indent (l.cursor.advance 1)
  let l := l.emit (.scalar false (String.ofList s.text))
  return { l with cursor := s.cursor, keyAllowed := true }

/-- Reads a directive. -/
def directive (l : Lexer) : Except Problem Lexer := do
  let l ← (l.closeBlocks (-1)).dropPlace
  let (token, cursor) ← readDirective (l.cursor.advance 1)
  return { l.emit token with cursor, keyAllowed := false }

/-- The characters that have a meaning of their own at the start of a token. -/
def indicators : List Char :=
  [',', '[', ']', '\x7b', '\x7d', '#', '&', '*', '!', '|', '>', '\'', '"', '%', '@', '\x60']

/-- Whether a plain scalar may start in front of the rest of a text. -/
def startsPlain (inFlow : Bool) (c : Char) (rest : List Char) : Bool :=
  if c = '-' then !(rest.head?.map isBlank).getD false
  else if c = '?' || c = ':' then !inFlow && !atGap rest
  else if isBlank c then false
  else
    !indicators.contains c

/-- Reads the next token, or the end of the text. -/
def next (l : Lexer) : Except Problem (Lexer × Bool) := do
  let l ← (l.skipGap (l.cursor.rest.length + 1)).dropStale
  let l := l.closeBlocks l.cursor.column
  match l.cursor.rest with
  | [] =>
    let l ← (l.closeBlocks (-1)).dropPlace
    return (l, true)
  | c :: rest =>
    let atStart := l.cursor.column = 0
    let l ←
      if atStart && c = '%' then l.directive
      else if atStart && c = '-' && atDocumentMark l.cursor.rest then l.documentMark .documentStart
      else if atStart && c = '.' && atDocumentMark l.cursor.rest then l.documentMark .documentEnd
      else if c = '[' then l.openFlow .sequenceOpen
      else if c = '\x7b' then l.openFlow .mappingOpen
      else if c = ']' then l.closeFlow .sequenceClose
      else if c = '\x7d' then l.closeFlow .mappingClose
      else if c = ',' then l.comma
      else if c = '-' && atGap rest then l.item
      else if c = '?' && (l.inFlow || atGap rest) then l.key
      else if c = ':' && (l.inFlow || atGap rest) then l.value
      else if c = '*' then l.name .alias
      else if c = '&' then l.name .anchor
      else if c = '!' then l.tag
      else if c = '|' && !l.inFlow then l.block false
      else if c = '>' && !l.inFlow then l.block true
      else if c = '\'' then l.quoted true
      else if c = '"' then l.quoted false
      else if startsPlain l.inFlow c rest then l.plain
      else throw "character that cannot start a token"
    return (l, false)

/-- Reads all tokens.  Each takes at least one character of the text. -/
def run (l : Lexer) : Nat → Except Problem Lexer
  | 0 => .error "document too large"
  | fuel + 1 => do
    let (l, done) ← l.next
    if done then return l else run l fuel

end Lexer

/-- Whether a character may stand in a YAML text. -/
def isAllowed (c : Char) : Bool :=
  let n := c.toNat
  n = 0x9 || n = 0xA || n = 0xD || (0x20 ≤ n && n ≤ 0x7E) || n = 0x85 ||
    (0xA0 ≤ n && n ≤ 0xFFFD) || 0x10000 ≤ n

/-- The tokens of a YAML text. -/
def tokenize (s : String) : Except Problem (List Token) := do
  if !s.toList.all isAllowed then throw "control character"
  let l ← Lexer.run { cursor := .start s.toList } (s.length + 2)
  return l.tokens.toList

end Yaml
end PersonalNames

import PersonalNames.Text.Utf8

/-! # Reading positions in a YAML text

A cursor is a place in a text: the characters still to come and the line and
column reached.  Columns count characters, and the length of a text read so far
counts bytes.  The gaps between the lines of a scalar are read here too,
since all scalars of several lines fold their gaps alike. -/
namespace PersonalNames
namespace Yaml

/-- What is wrong with a text. -/
abbrev Problem := String

/-- Whether a character breaks a line. -/
def isBreak (c : Char) : Bool :=
  c = '\n' || c = '\r' || c = '\u0085' || c = '\u2028' || c = '\u2029'

/-- Whether a character is a blank within a line. -/
def isBlank (c : Char) : Bool :=
  c = ' ' || c = '\t'

/-- Whether a text ends, breaks or has a blank in front. -/
def atGap : List Char → Bool
  | [] => true
  | c :: _ => isBlank c || isBreak c

/-- Whether a text ends or has a line break in front. -/
def atLineEnd : List Char → Bool
  | [] => true
  | c :: _ => isBreak c

/-- Whether a text starts with the mark of a document's start or end. -/
def atDocumentMark : List Char → Bool
  | '-' :: '-' :: '-' :: rest => atGap rest
  | '.' :: '.' :: '.' :: rest => atGap rest
  | _ => false

/-- A place in a text. -/
structure Cursor where
  rest : List Char
  /-- The number of bytes in front. -/
  bytes : Nat
  line : Nat
  column : Nat

namespace Cursor

/-- The start of a text. -/
def start (s : List Char) : Cursor :=
  ⟨s, 0, 0, 0⟩

/-- The cursor behind `n` characters of the same line. -/
def advance (c : Cursor) (n : Nat) : Cursor :=
  { c with
    rest := c.rest.drop n
    bytes := c.bytes + Text.byteCount (c.rest.take n)
    column := c.column + n }

/-- The cursor behind all characters of a kind, none of which breaks the line. -/
def skipWhile (c : Cursor) (p : Char → Bool) : Cursor :=
  c.advance (c.rest.takeWhile p).length

/-- The cursor behind the rest of the line. -/
def skipToLineEnd (c : Cursor) : Cursor :=
  c.skipWhile (!isBreak ·)

/-- The line break in front, as it counts in a text, and the cursor behind it.
Only the two separators of Unicode keep their form. -/
def takeBreak (c : Cursor) : List Char × Cursor :=
  let next (n : Nat) : Cursor := { c.advance n with line := c.line + 1, column := 0 }
  match c.rest with
  | '\r' :: '\n' :: _ => (['\n'], next 2)
  | ch :: _ =>
    if ch = '\u2028' || ch = '\u2029' then ([ch], next 1)
    else if isBreak ch then (['\n'], next 1)
    else ([], c)
  | [] => ([], c)

/-- Whether the cursor stands before the mark of a document's start or end. -/
def atDocumentMark (c : Cursor) : Bool :=
  c.column = 0 && Yaml.atDocumentMark c.rest

end Cursor

/-- The blanks and line breaks between two stretches of a scalar. -/
structure Gap where
  /-- The blanks, if the line was not broken. -/
  blanks : List Char := []
  /-- Whether the line was broken. -/
  broken : Bool := false
  /-- The first line break; none if it was escaped. -/
  first : List Char := []
  /-- The line breaks after the first. -/
  more : List Char := []

namespace Gap

/-- What a gap stands for: a single line break for a space, further ones for
themselves, and blanks for themselves where no line was broken. -/
def fold (g : Gap) : List Char :=
  if !g.broken then g.blanks
  else if g.first = ['\n'] then
    if g.more.isEmpty then [' '] else g.more
  else g.first ++ g.more

/-- Reads the blanks and line breaks in front.  A tab that comes before column
`margin` of a new line is refused. -/
def read (margin : Int) (g : Gap) (c : Cursor) : Nat → Except Problem (Gap × Cursor)
  | 0 => .ok (g, c)
  | fuel + 1 =>
    match c.rest with
    | [] => .ok (g, c)
    | ch :: _ =>
      if isBlank ch then
        if g.broken && (c.column : Int) < margin && ch = '\t' then
          .error "tab character in the indentation"
        else if g.broken then read margin g (c.advance 1) fuel
        else read margin { g with blanks := g.blanks ++ [ch] } (c.advance 1) fuel
      else if isBreak ch then
        let (text, c) := c.takeBreak
        if g.broken then read margin { g with more := g.more ++ text } c fuel
        else read margin { g with blanks := [], broken := true, first := text } c fuel
      else .ok (g, c)

end Gap
end Yaml
end PersonalNames

import PersonalNames.Text.Digit
import PersonalNames.Yaml.Cursor

/-! # YAML scalars

The three ways to write a scalar: plain, in single or double quotes, and as a
block of lines.  While a scalar is read, the text so far is kept backwards. -/
namespace PersonalNames
namespace Yaml

/-- What the reading of a scalar gives: its text and the cursor behind it. -/
structure ScalarText where
  text : List Char
  cursor : Cursor

/-- Whether a character ends a plain scalar inside brackets. -/
def isFlowMark (c : Char) : Bool :=
  c = ',' || c = '[' || c = ']' || c = '\x7b' || c = '\x7d'

/-- A stretch of a plain scalar without blanks. -/
def plainStretch (inFlow : Bool) : List Char → Except Problem (List Char)
  | [] => .ok []
  | c :: rest =>
    if isBlank c || isBreak c then .ok []
    else
      let colonBefore (p : Char → Bool) : Bool := c = ':' && (rest.head?.map p).getD false
      if inFlow && colonBefore (fun d => isFlowMark d || d = '?') then
        .error "unexpected colon in a plain scalar"
      else if (c = ':' && atGap rest) || (inFlow && isFlowMark c) then .ok []
      else (plainStretch inFlow rest).map (c :: ·)

/-- Reads a plain scalar whose lines are indented at least to `margin`, behind
what has been read of it.  The answer says whether a line break stands behind the
scalar. -/
def readPlain (inFlow : Bool) (margin : Int) (before : List Char) (gap : Gap) (c : Cursor) :
    Nat → Except Problem (ScalarText × Bool)
  | 0 => .ok (⟨before.reverse, c⟩, gap.broken)
  | fuel + 1 => do
    if c.atDocumentMark || c.rest.head? = some '#' then
      return (⟨before.reverse, c⟩, gap.broken)
    let stretch ← plainStretch inFlow c.rest
    let before :=
      if stretch.isEmpty then before else stretch.reverse ++ gap.fold.reverse ++ before
    let gap : Gap := if stretch.isEmpty then gap else {}
    let c := c.advance stretch.length
    if c.rest.isEmpty || !atGap c.rest then return (⟨before.reverse, c⟩, gap.broken)
    let (gap, c) ← gap.read margin c (c.rest.length + 1)
    if !inFlow && (c.column : Int) < margin then return (⟨before.reverse, c⟩, gap.broken)
    readPlain inFlow margin before gap c fuel

/-- The character with a number, unless the number is that of half a pair of
surrogates or too large. -/
def character? (n : Nat) : Option Char :=
  if (0xD800 ≤ n && n ≤ 0xDFFF) || 0x10FFFF < n then none else some (Char.ofNat n)

/-- The character that an escape in double quotes writes by one letter. -/
def letterEscape? : Char → Option Char
  | '0' => some '\x00'
  | 'a' => some '\x07'
  | 'b' => some '\x08'
  | 't' | '\t' => some '\t'
  | 'n' => some '\n'
  | 'v' => some '\x0b'
  | 'f' => some '\x0c'
  | 'r' => some '\r'
  | 'e' => some '\x1b'
  | ' ' => some ' '
  | '"' => some '"'
  | '/' => some '/'
  | '\\' => some '\\'
  | 'N' => some '\u0085'
  | '_' => some '\u00a0'
  | 'L' => some '\u2028'
  | 'P' => some '\u2029'
  | _ => none

/-- The number of digits behind an escape by number. -/
def escapeDigits? : Char → Option Nat
  | 'x' => some 2
  | 'u' => some 4
  | 'U' => some 8
  | _ => none

/-- The escape behind a backslash: its character and the number of characters
that it takes, the backslash left out. -/
def escape (rest : List Char) : Except Problem (Char × Nat) :=
  match rest with
  | [] => .error "unknown escape"
  | e :: digits =>
    match letterEscape? e, escapeDigits? e with
    | some c, _ => .ok (c, 1)
    | none, some count =>
      let ds := digits.take count
      if ds.length < count then .error "too few digits in an escape"
      else
        match (Text.number? 16 ds).bind character? with
        | some c => .ok (c, count + 1)
        | none => .error "invalid digits in an escape"
    | none, none => .error "unknown escape"

/-- Reads a stretch of a quoted scalar without blanks.  The answer is the text with
the stretch, the cursor behind it and whether it ends with an escaped line break. -/
def quotedStretch (single : Bool) (before : List Char) (c : Cursor) :
    Nat → Except Problem (List Char × Cursor × Bool)
  | 0 => .ok (before, c, false)
  | fuel + 1 =>
    match c.rest with
    | [] => .ok (before, c, false)
    | ch :: rest =>
      if isBlank ch || isBreak ch then .ok (before, c, false)
      else if single then
        if ch = '\'' then
          if rest.head? = some '\'' then quotedStretch single ('\'' :: before) (c.advance 2) fuel
          else .ok (before, c, false)
        else quotedStretch single (ch :: before) (c.advance 1) fuel
      else if ch = '"' then .ok (before, c, false)
      else if ch = '\\' then
        if !rest.isEmpty && atLineEnd rest then .ok (before, (c.advance 1).takeBreak.2, true)
        else do
          let (value, count) ← escape rest
          quotedStretch single (value :: before) (c.advance (count + 1)) fuel
      else quotedStretch single (ch :: before) (c.advance 1) fuel

/-- Reads a quoted scalar behind its opening quote and what has been read of it. -/
def readQuoted (single : Bool) (before : List Char) (c : Cursor) : Nat → Except Problem ScalarText
  | 0 => .error "quoted scalar without end"
  | fuel + 1 => do
    if c.atDocumentMark then throw "document mark in a quoted scalar"
    if c.rest.isEmpty then throw "quoted scalar without end"
    let (before, c, escaped) ← quotedStretch single before c (c.rest.length + 1)
    if c.rest.head? = some (if single then '\'' else '"') then
      return ⟨before.reverse, c.advance 1⟩
    let (gap, c) ← Gap.read 0 { broken := escaped } c (c.rest.length + 1)
    readQuoted single (gap.fold.reverse ++ before) c fuel

/-- What becomes of the line breaks at the end of a block. -/
inductive Chomping where
  | strip
  | clip
  | keep
deriving DecidableEq

/-- The header of a block: the chomping and the indentation, if they are given. -/
def blockHeader (c : Cursor) : Except Problem (Chomping × Option Nat × Cursor) :=
  let chomping? : List Char → Option Chomping
    | '+' :: _ => some .keep
    | '-' :: _ => some .strip
    | _ => none
  let indent? : List Char → Option Nat
    | d :: _ => Text.digit? 10 d
    | [] => none
  let finish (chomping : Chomping) (indent : Option Nat) (c : Cursor) :
      Except Problem (Chomping × Option Nat × Cursor) :=
    if indent = some 0 then .error "block indentation of zero" else .ok (chomping, indent, c)
  match chomping? c.rest with
  | some chomping =>
    let c := c.advance 1
    match indent? c.rest with
    | some n => finish chomping (some n) (c.advance 1)
    | none => finish chomping none c
  | none =>
    match indent? c.rest with
    | some n =>
      let c := c.advance 1
      match chomping? c.rest with
      | some chomping => finish chomping (some n) (c.advance 1)
      | none => finish .clip (some n) c
    | none => finish .clip none c

/-- Reads the empty lines and the indentation in front of the next line of a
block.  Without a known indentation the answer has the greatest column seen. -/
def blockMargin (indent : Option Nat) (breaks : List Char) (widest : Nat) (c : Cursor) :
    Nat → Except Problem (List Char × Nat × Cursor)
  | 0 => .ok (breaks, widest, c)
  | fuel + 1 =>
    let spaces := (c.rest.takeWhile (· = ' ')).length
    let c :=
      match indent with
      | some n => c.advance (min spaces (n - c.column))
      | none => c.advance spaces
    let widest := max widest c.column
    let within : Bool :=
      match indent with
      | some n => c.column < n
      | none => true
    match c.rest with
    | '\t' :: _ =>
      if within then .error "tab character in the indentation of a block"
      else .ok (breaks, widest, c)
    | ch :: _ =>
      if isBreak ch then
        let (text, c) := c.takeBreak
        blockMargin indent (breaks ++ text) widest c fuel
      else .ok (breaks, widest, c)
    | [] => .ok (breaks, widest, c)

/-- Reads the lines of a block that are indented to `indent`, behind those that
have been read.  `lineBreak` and `breaks` are the line break and the empty lines in
front of the next line, and `blankBefore` says whether the line before it starts
with a blank. -/
def blockLines (folded : Bool) (indent : Nat) (before lineBreak breaks : List Char)
    (blankBefore : Bool) (c : Cursor) :
    Nat → Except Problem (List Char × List Char × List Char × Cursor)
  | 0 => .ok (before.reverse, lineBreak, breaks, c)
  | fuel + 1 => do
    if c.column ≠ indent || c.rest.isEmpty then return (before.reverse, lineBreak, breaks, c)
    let blank := (c.rest.head?.map isBlank).getD false
    let joint :=
      if folded && lineBreak = ['\n'] && !blankBefore && !blank then
        (if breaks.isEmpty then [' '] else []) ++ breaks
      else lineBreak ++ breaks
    let line := c.rest.takeWhile (!isBreak ·)
    let (lineBreak, c) := (c.advance line.length).takeBreak
    let (breaks, _, c) ← blockMargin (some indent) [] 0 c (c.rest.length + 1)
    blockLines folded indent (line.reverse ++ joint.reverse ++ before) lineBreak breaks blank c fuel

/-- Reads a block behind its mark.  `parent` is the indentation around it. -/
def readBlock (folded : Bool) (parent : Int) (c : Cursor) : Except Problem ScalarText := do
  let (chomping, given, c) ← blockHeader c
  let c := c.skipWhile isBlank
  let c := if c.rest.head? = some '#' then c.skipToLineEnd else c
  if !atLineEnd c.rest then throw "text behind the header of a block"
  let c := c.takeBreak.2
  let known := given.map fun n => if 0 ≤ parent then parent.toNat + n else n
  let (breaks, widest, c) ← blockMargin known [] 0 c (c.rest.length + 1)
  let indent := known.getD (max (max widest (parent + 1).toNat) 1)
  let (text, lineBreak, breaks, c) ←
    blockLines folded indent [] [] breaks false c (c.rest.length + 1)
  let ending :=
    match chomping with
    | .strip => []
    | .clip => lineBreak
    | .keep => lineBreak ++ breaks
  return ⟨text ++ ending, c⟩

end Yaml
end PersonalNames

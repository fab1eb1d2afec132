import PersonalNames.Json.Numeral

/-! # Reading JSON

JSON texts as documents.  Strings and numbers that follow the grammar but have
no value, such as half a pair of surrogates, become unreadable pieces, so that a
reader who does not want them may pass them over. -/
namespace PersonalNames
namespace Json

/-- Whether a character may stand between lexemes. -/
def isSpace (c : Char) : Bool :=
  c = ' ' || c = '\n' || c = '\t' || c = '\r'

/-- The text behind blanks. -/
def skip (s : List Char) : List Char :=
  s.dropWhile isSpace

/-- The text behind a fixed beginning. -/
def after? : List Char → List Char → Option (List Char)
  | [], s => some s
  | c :: cs, d :: ds => if c = d then after? cs ds else none
  | _ :: _, [] => none

/-- The character of an escape with one letter. -/
def escape? : Char → Option Char
  | '"' => some '"'
  | '\\' => some '\\'
  | '/' => some '/'
  | 'b' => some '\x08'
  | 'f' => some '\x0c'
  | 'n' => some '\n'
  | 'r' => some '\r'
  | 't' => some '\t'
  | _ => none

/-- A character of a string read so far; `none` stands for a unit without value. -/
abbrev Chars := List (Option Char)

/-- Adds a code unit behind the units read so far, given backwards.  `half` is
the first half of a pair of surrogates that waits for the second. -/
def pushUnit (unit : Nat) (half : Option Nat) (read : Chars) : Option Nat × Chars :=
  match half with
  | some high =>
    if 0xDC00 ≤ unit && unit ≤ 0xDFFF then
      (none, some (Char.ofNat (0x10000 + (high - 0xD800) * 0x400 + (unit - 0xDC00))) :: read)
    else (none, none :: read)
  | none =>
    if 0xD800 ≤ unit && unit ≤ 0xDBFF then (some unit, read)
    else if 0xDC00 ≤ unit && unit ≤ 0xDFFF then (none, none :: read)
    else (none, some (Char.ofNat unit) :: read)

/-- Gives up a waiting half. -/
def settleHalf (half : Option Nat) (read : Chars) : Chars :=
  if half.isSome then none :: read else read

/-- Reads a string behind its opening quote.  The answer is its characters
backwards and the text behind its closing quote. -/
def string? (half : Option Nat) (read : Chars) : List Char → Option (Chars × List Char)
  | [] => none
  | '"' :: rest => some (settleHalf half read, rest)
  | '\\' :: 'u' :: a :: b :: c :: d :: rest =>
    match Text.number? 16 [a, b, c, d] with
    | some unit =>
      let (half, read) := pushUnit unit half read
      string? half read rest
    | none => none
  | '\\' :: e :: rest =>
    match escape? e with
    | some c => string? none (some c :: settleHalf half read) rest
    | none => none
  | c :: rest => if c.toNat < 0x20 then none else string? none (some c :: settleHalf half read) rest

/-- The document of a string. -/
def stringDocument (read : Chars) : Document :=
  match read.reverse.mapM id with
  | some cs => .text (String.ofList cs)
  | none => .unreadable

/-- Reads digits, at least one. -/
def digits? (s : List Char) : Option (List Char × List Char) :=
  match s.takeWhile Char.isDigit with
  | [] => none
  | ds => some (ds, s.dropWhile Char.isDigit)

/-- Reads the exponent of a numeral, if there is one. -/
def exponentPart? (s : List Char) : Option (Option (Bool × List Char) × List Char) :=
  match s with
  | c :: rest =>
    if c = 'e' || c = 'E' then
      match rest with
      | '-' :: rest => (digits? rest).map fun (ds, rest) => (some (true, ds), rest)
      | '+' :: rest => (digits? rest).map fun (ds, rest) => (some (false, ds), rest)
      | rest => (digits? rest).map fun (ds, rest) => (some (false, ds), rest)
    else some (none, s)
  | [] => some (none, s)

/-- Reads a numeral.  Only zero itself may start with the digit zero. -/
def numeral? (s : List Char) : Option (Numeral × List Char) := do
  let (negative, s) :=
    match s with
    | '-' :: rest => (true, rest)
    | _ => (false, s)
  let (whole, s) ← digits? s
  if whole.head? = some '0' && 1 < whole.length then none
  match s with
  | '.' :: rest =>
    let (fraction, rest) ← digits? rest
    let (exponent, rest) ← exponentPart? rest
    return (⟨negative, whole, fraction, true, exponent⟩, rest)
  | _ =>
    let (exponent, rest) ← exponentPart? s
    return (⟨negative, whole, [], false, exponent⟩, rest)

mutual

/-- Reads a value behind blanks.  The answer is the value and the text behind it.
The fuel bounds the number of steps; the length of the text is enough. -/
def value? : Nat → List Char → Option (Document × List Char)
  | 0, _ => none
  | fuel + 1, s =>
    match skip s with
    | '"' :: rest => (string? none [] rest).map fun (read, rest) => (stringDocument read, rest)
    | '[' :: rest =>
      match skip rest with
      | ']' :: rest => some (.list [], rest)
      | rest => (items? fuel rest).map fun (items, rest) => (.list items, rest)
    | '\x7b' :: rest =>
      match skip rest with
      | '\x7d' :: rest => some (.map [], rest)
      | rest => (entries? fuel rest).map fun (entries, rest) => (.map entries, rest)
    | 'n' :: rest => (after? ['u', 'l', 'l'] rest).map (.null, ·)
    | 't' :: rest => (after? ['r', 'u', 'e'] rest).map (.bool true, ·)
    | 'f' :: rest => (after? ['a', 'l', 's', 'e'] rest).map (.bool false, ·)
    | rest => (numeral? rest).map fun (n, rest) => (n.toDocument, rest)

/-- Reads the items of a list and its closing bracket. -/
def items? : Nat → List Char → Option (List Document × List Char)
  | 0, _ => none
  | fuel + 1, s => do
    let (item, rest) ← value? fuel s
    match skip rest with
    | ']' :: rest => return ([item], rest)
    | ',' :: rest =>
      let (items, rest) ← items? fuel rest
      return (item :: items, rest)
    | _ => none

/-- Reads the entries of a map and its closing brace. -/
def entries? : Nat → List Char → Option (List (Document × Document) × List Char)
  | 0, _ => none
  | fuel + 1, s => do
    let '"' :: rest := skip s | none
    let (read, rest) ← string? none [] rest
    let ':' :: rest := skip rest | none
    let (value, rest) ← value? fuel rest
    match skip rest with
    | '\x7d' :: rest => return ([(stringDocument read, value)], rest)
    | ',' :: rest =>
      let (entries, rest) ← entries? fuel rest
      return ((stringDocument read, value) :: entries, rest)
    | _ => none

end

/-- The document of a JSON text, which holds one value and nothing else. -/
def read? (s : String) : Option Document := do
  let (value, rest) ← value? (2 * s.length + 2) s.toList
  if (skip rest).isEmpty then return value else none

end Json
end PersonalNames

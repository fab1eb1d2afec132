import PersonalNames.Json.Basic

/-! # Writing JSON

Two layouts of a JSON value: `compact` without any blanks and `pretty` with one
entry per line, indented by two spaces. -/
namespace PersonalNames
namespace Json

/-- A character as it stands in a JSON string.  Controls are escaped; all other
characters, ASCII or not, stand for themselves. -/
def escapeChar (c : Char) : List Char :=
  match c with
  | '"' => ['\\', '"']
  | '\\' => ['\\', '\\']
  | '\x08' => ['\\', 'b']
  | '\x0c' => ['\\', 'f']
  | '\n' => ['\\', 'n']
  | '\r' => ['\\', 'r']
  | '\t' => ['\\', 't']
  | c =>
    if c.toNat < 0x20 then
      ['\\', 'u', '0', '0', Nat.digitChar (c.toNat / 16), Nat.digitChar (c.toNat % 16)]
    else [c]

/-- A JSON string. -/
def quote (s : String) : String :=
  String.ofList ('"' :: s.toList.flatMap escapeChar ++ ['"'])

mutual

/-- A value without blanks. -/
def compact : Json → String
  | null => "null"
  | bool true => "true"
  | bool false => "false"
  | number n => n.text
  | text s => quote s
  | array items => "[" ++ String.intercalate "," (compactItems items) ++ "]"
  | object entries => "\x7b" ++ String.intercalate "," (compactEntries entries) ++ "\x7d"

/-- The items of an array, each without blanks. -/
def compactItems : List Json → List String
  | [] => []
  | item :: items => compact item :: compactItems items

/-- The entries of an object, each without blanks. -/
def compactEntries : List (String × Json) → List String
  | [] => []
  | (key, value) :: entries => (quote key ++ ":" ++ compact value) :: compactEntries entries

end

/-- The start of a line at a depth. -/
def newLine (depth : Nat) : String :=
  "\n" ++ String.ofList (List.replicate (2 * depth) ' ')

/-- Lines between brackets; nothing between them if there are none. -/
def bracketed (opening closing : String) (depth : Nat) : List String → String
  | [] => opening ++ closing
  | lines =>
    opening ++ newLine (depth + 1) ++ String.intercalate ("," ++ newLine (depth + 1)) lines ++
      newLine depth ++ closing

mutual

/-- A value that starts at a depth, with one entry per line. -/
def prettyAt (depth : Nat) : Json → String
  | array items => bracketed "[" "]" depth (prettyItems (depth + 1) items)
  | object entries => bracketed "\x7b" "\x7d" depth (prettyEntries (depth + 1) entries)
  | null => "null"
  | bool true => "true"
  | bool false => "false"
  | number n => n.text
  | text s => quote s

/-- The items of an array at a depth. -/
def prettyItems (depth : Nat) : List Json → List String
  | [] => []
  | item :: items => prettyAt depth item :: prettyItems depth items

/-- The entries of an object at a depth. -/
def prettyEntries (depth : Nat) : List (String × Json) → List String
  | [] => []
  | (key, value) :: entries =>
    (quote key ++ ": " ++ prettyAt depth value) :: prettyEntries depth entries

end

/-- A value with one entry per line. -/
def pretty (v : Json) : String :=
  prettyAt 0 v

end Json
end PersonalNames

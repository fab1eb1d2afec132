import PersonalNames.Text.Range
import PersonalNames.Text.CaseTable
import PersonalNames.Text.CasedTable

/-! # Case mapping

Upper and lower case of whole texts, by the full mappings: one character may
become several.  The only mapping that looks at its surroundings is that of the
capital sigma, whose lower case at the end of a word is the final sigma. -/
namespace PersonalNames
namespace Text

/-- The image of a character under a table of runs and a table of expansions;
a character in neither is its own image. -/
def mapCase (runs : List CaseRun) (expansions : List (Nat × List Nat)) (c : Char) : List Char :=
  match CaseRun.image? runs c.toNat with
  | some code => [Char.ofNat code]
  | none =>
    match expansions.lookup c.toNat with
    | some codes => codes.map Char.ofNat
    | none => [c]

/-- The upper-case image of a character. -/
def upperChar (c : Char) : List Char :=
  mapCase upperRuns upperExpansions c

/-- The lower-case image of a character, taken by itself. -/
def lowerChar (c : Char) : List Char :=
  mapCase lowerRuns lowerExpansions c

/-- The upper case of a text. -/
def upper (s : List Char) : List Char :=
  s.flatMap upperChar

/-- Whether a character has a case. -/
def isCased (c : Char) : Bool :=
  inRanges casedRanges c.toNat

/-- Whether a character is looked through when a cased neighbour is sought. -/
def isCaseIgnorable (c : Char) : Bool :=
  inRanges caseIgnorableRanges c.toNat

/-- Whether the first character that is not looked through is cased. -/
def reachesCased (s : List Char) : Bool :=
  match s.dropWhile isCaseIgnorable with
  | [] => false
  | c :: _ => isCased c

/-- The lower-case image of a character between two texts; `before` is read
backwards.  A capital sigma that ends a word becomes a final sigma. -/
def lowerBetween (before : List Char) (c : Char) (after : List Char) : List Char :=
  if c = 'Σ' then
    if reachesCased before && !reachesCased after then ['ς'] else ['σ']
  else lowerChar c

/-- The lower case of a text that stands behind `before`, read backwards. -/
def lowerAfter (before : List Char) : List Char → List Char
  | [] => []
  | c :: rest => lowerBetween before c rest ++ lowerAfter (c :: before) rest

/-- The lower case of a text. -/
def lower (s : List Char) : List Char :=
  lowerAfter [] s

/-- A text with its first character in upper case. -/
def capitalize : List Char → List Char
  | [] => []
  | c :: rest => upperChar c ++ rest

/-- A text with an upper-case character at its start and after each space. -/
def capitalizeAfterSpaces (s : List Char) : List Char :=
  go true s
where
  /-- `fresh` says that the text so far is empty or ends with a space. -/
  go (fresh : Bool) : List Char → List Char
    | [] => []
    | c :: rest => (if fresh then upperChar c else [c]) ++ go (c == ' ') rest

end Text
end PersonalNames

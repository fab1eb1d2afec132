import PersonalNames.ListStyle
import PersonalNames.Pattern.Evaluation
import PersonalNames.Terms

/-! # Lists of names

Several names formatted by one pattern and joined in a list style.  A list of
enough names is cut: its first names are shown, and a mark stands for the
others.  Names that give no text keep their place in the list. -/
namespace PersonalNames
namespace NameList

/-- The number of names that a list of `count` names shows. -/
def shownCount (style : ListStyle) (count : Nat) : Nat :=
  match style.cut with
  | some cut => if cut.least ≤ count ∧ max cut.shown 1 < count then max cut.shown 1 else count
  | none => count

/-- Entries with a boundary between any two of them. -/
def between (boundary : Markup) : List Markup → List Markup
  | [] => []
  | [entry] => [entry]
  | entry :: entries => entry :: boundary :: between boundary entries

/-- The text before the last of `count` names. -/
def lastBoundary (style : ListStyle) (terms : Terms) (count : Nat) : String :=
  let joined (term : String) : String :=
    if style.delimiterBeforeLast.applies count 3 then style.delimiter ++ term ++ " "
    else " " ++ term ++ " "
  match style.conjunction with
  | .inherit => style.delimiter
  | .text => joined (terms.conjunction false)
  | .symbol => joined (terms.conjunction true)

/-- The mark of a list that is cut. -/
def cutMark (terms : Terms) (mode : MarkupMode) : Markup :=
  match mode with
  | .none => .plain terms.others
  | _ => .emphasis (.plain terms.others)

/-- The parts of a list that is cut after the given entries. -/
def cutParts (style : ListStyle) (terms : Terms) (mode : MarkupMode) (entries : List Markup) :
    List Markup :=
  let boundary := if style.delimiterBeforeCut.applies entries.length 2 then style.delimiter else " "
  between (.plain style.delimiter) entries ++ [.plain boundary, cutMark terms mode]

/-- The parts of a list that is shown as a whole. -/
def wholeParts (style : ListStyle) (terms : Terms) (entries : List Markup) : List Markup :=
  match entries.getLast? with
  | none => []
  | some last =>
    between (.plain style.delimiter) entries.dropLast ++
      [.plain (lastBoundary style terms entries.length), last]

/-- The names of a list formatted by the tokens of a pattern and joined. -/
def formatTokens (tokens : List Token) (names : List PersonName) (style : ListStyle)
    (settings : Settings) (terms : Terms) : Markup :=
  let shown := shownCount style names.length
  let entries := (names.take shown).map fun name => Pattern.formatTokens tokens name settings
  if shown < names.length then
    .concatAll (cutParts style terms settings.markup entries)
  else
    match entries with
    | [] => .empty
    | [entry] => entry
    | entries => .concatAll (wholeParts style terms entries)

/-- The names of a list formatted by a pattern and joined. -/
def format (pattern : Pattern) (names : List PersonName) (style : ListStyle)
    (settings : Settings) (terms : Terms) : Markup :=
  formatTokens pattern.tokens names style settings terms

end NameList
end PersonalNames

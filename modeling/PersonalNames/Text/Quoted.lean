import PersonalNames.Text.Range
import PersonalNames.Text.ExtendTable
import PersonalNames.Text.VisibleTable

/-! # Quoted text

Text in double quotes, as messages and listings show it.  Quotes, backslashes
and the common controls are escaped by a backslash and a letter; characters
without a visible form of their own are written by number. -/
namespace PersonalNames
namespace Text

/-- The two halfwidth sound marks, which attach to the character before them and
yet stand in a cell of their own. -/
def isHalfwidthMark (c : Char) : Bool :=
  c = '\uff9e' || c = '\uff9f'

/-- The letters of the Korean script that only fill the place of another letter. -/
def isFiller (c : Char) : Bool :=
  c = '\u115f' || c = '\u1160' || c = '\u3164' || c = '\uffa0'

/-- Whether a character is shown as it is: it is visible and does not attach to
the character before it. -/
def isPlainlyVisible (c : Char) : Bool :=
  isHalfwidthMark c ||
    !(inRanges extendRanges c.toNat || inRanges invisibleRanges c.toNat || isFiller c)

/-- A character as it stands between quotes. -/
def quoteChar (c : Char) : List Char :=
  match c with
  | '\x00' => ['\\', '0']
  | '\t' => ['\\', 't']
  | '\n' => ['\\', 'n']
  | '\r' => ['\\', 'r']
  | '"' => ['\\', '"']
  | '\\' => ['\\', '\\']
  | c =>
    if isPlainlyVisible c then [c]
    else ['\\', 'u', '\x7b'] ++ Nat.toDigits 16 c.toNat ++ ['\x7d']

/-- A text in double quotes. -/
def quoted (s : String) : String :=
  String.ofList ('"' :: s.toList.flatMap quoteChar ++ ['"'])

end Text
end PersonalNames

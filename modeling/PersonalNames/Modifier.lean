import PersonalNames.Text.Blank
import PersonalNames.Text.Casing
import PersonalNames.Text.Cluster

/-! # Modifiers

A modifier changes the text of a token: its case, the blanks around it, or
which of its words are shown.  `initial` reduces a text to its first letter. -/
namespace PersonalNames

/-- A change to the text of a token. -/
inductive Modifier where
  | lowercase
  | uppercase
  | capitalize
  | capitalizeWords
  | trim
  | firstWord
  | lastWord
deriving DecidableEq, Repr

namespace Modifier

/-- The code of a modifier in a pattern. -/
def code : Modifier → Char
  | lowercase => 'L'
  | uppercase => 'U'
  | capitalize => 'F'
  | capitalizeWords => 'G'
  | trim => 'T'
  | firstWord => 'B'
  | lastWord => 'b'

/-- The modifier with a code. -/
def ofCode? : Char → Option Modifier
  | 'L' => some lowercase
  | 'U' => some uppercase
  | 'F' => some capitalize
  | 'G' => some capitalizeWords
  | 'T' => some trim
  | 'B' => some firstWord
  | 'b' => some lastWord
  | _ => none

theorem ofCode?_code (m : Modifier) : ofCode? m.code = some m := by
  cases m <;> rfl

theorem code_of_ofCode? {c : Char} {m : Modifier} (h : ofCode? c = some m) : m.code = c := by
  unfold ofCode? at h
  split at h <;> simp_all [code] <;> subst h <;> rfl

/-- The name of a modifier in listings. -/
def name : Modifier → String
  | lowercase => "Lowercase"
  | uppercase => "Uppercase"
  | capitalize => "Capitalize"
  | capitalizeWords => "CapitalizeWords"
  | trim => "Trim"
  | firstWord => "FirstWord"
  | lastWord => "LastWord"

/-- All modifiers. -/
def all : List Modifier :=
  [lowercase, uppercase, capitalize, capitalizeWords, trim, firstWord, lastWord]

/-- The modifier with a name. -/
def ofName? (s : String) : Option Modifier :=
  all.find? (·.name == s)

/-- The effect of a modifier on the characters of a text. -/
def change : Modifier → List Char → List Char
  | lowercase, s => Text.lower s
  | uppercase, s => Text.upper s
  | capitalize, s => Text.capitalize s
  | capitalizeWords, s => Text.capitalizeAfterSpaces s
  | trim, s => Text.trim s
  | firstWord, s => (Text.words s).head?.getD []
  | lastWord, s => (Text.words s).getLast?.getD []

/-- The effect of a modifier on a text. -/
def apply (m : Modifier) (s : String) : String :=
  String.ofList (m.change s.toList)

/-- The effect of several modifiers, one after the other. -/
def applyAll (ms : List Modifier) (s : String) : String :=
  ms.foldl (fun s m => m.apply s) s

theorem applyAll_cons (m : Modifier) (ms : List Modifier) (s : String) :
    applyAll (m :: ms) s = applyAll ms (m.apply s) :=
  rfl

theorem applyAll_append (ms ms' : List Modifier) (s : String) :
    applyAll (ms ++ ms') s = applyAll ms' (applyAll ms s) :=
  List.foldl_append

end Modifier

/-- The initial of a text: its first grapheme cluster behind leading blanks, in
upper case and with a full stop.  A blank text has none. -/
def initial (s : String) : String :=
  match Text.firstCluster (Text.trimStart s.toList) with
  | [] => ""
  | cluster => String.ofList (Text.upper cluster ++ ['.'])

end PersonalNames

import PersonalNames.Component
import PersonalNames.Text.Blank
import PersonalNames.Document.Reading

/-! # Personal names

A personal name holds a text for each kind of component, or none, and possibly a
link.  A component counts as absent if its text is blank or the word `_none`; a
link counts if it is not blank, and then without the blanks at its ends.

There are two ways to read a name.  The strict one reads a record and refuses
what does not fit; the loose one takes from any JSON value what it can use. -/
namespace PersonalNames

/-- The parts of a personal name as they were given. -/
structure PersonName where
  title : Option String := none
  given : Option String := none
  middle : Option String := none
  family : Option String := none
  generational : Option String := none
  credentials : Option String := none
  link : Option String := none
deriving DecidableEq, Repr

namespace PersonName

/-- The text of a component as it was given. -/
def part (n : PersonName) : Component → Option String
  | .title => n.title
  | .given => n.given
  | .middle => n.middle
  | .family => n.family
  | .generational => n.generational
  | .credentials => n.credentials

/-- The name with a component replaced. -/
def withPart (n : PersonName) (kind : Component) (value : Option String) : PersonName :=
  match kind with
  | .title => { n with title := value }
  | .given => { n with given := value }
  | .middle => { n with middle := value }
  | .family => { n with family := value }
  | .generational => { n with generational := value }
  | .credentials => { n with credentials := value }

/-- A name of a given and a family name. -/
def ofGivenFamily (given family : String) : PersonName :=
  { given := some given, family := some family }

/-- Whether a text counts as a component: it is not blank and not the word that
marks an absent value. -/
def isUsable (s : String) : Bool :=
  !(Text.trim s.toList).isEmpty && s != "_none"

/-- The text of a component, if it counts. -/
def get? (n : PersonName) (kind : Component) : Option String :=
  (n.part kind).filter isUsable

/-- The link without the blanks at its ends, if anything is left of it. -/
def target? (n : PersonName) : Option String :=
  (n.link.map fun s => String.ofList (Text.trim s.toList)).filter (· != "")

/-- Whether no component counts.  A link alone makes no name. -/
def isEmpty (n : PersonName) : Bool :=
  Component.all.all fun kind => (n.get? kind).isNone

/-- The six components under their identifiers, absent ones as empty texts. -/
def toMap (n : PersonName) : List (String × String) :=
  Component.all.map fun kind => (kind.id, (n.get? kind).getD "")

/-- The JSON value of a name: its parts as they were given. -/
def toJson (n : PersonName) : Json :=
  .object
    (Component.all.flatMap (fun kind => Json.textEntry kind.id (n.part kind)) ++
      Json.textEntry "link" n.link)

/-- The names of the fields of a name.  The link has two. -/
def fieldNames : List (List String) :=
  Component.all.map (fun kind => [kind.id]) ++ [["link", "url"]]

/-- Reads a name strictly: a record of texts. -/
def read? (d : Document) : Option PersonName := do
  let r ← d.record? .json fieldNames
  return {
    title := ← r.omissible? 0 Document.text?
    given := ← r.omissible? 1 Document.text?
    middle := ← r.omissible? 2 Document.text?
    family := ← r.omissible? 3 Document.text?
    generational := ← r.omissible? 4 Document.text?
    credentials := ← r.omissible? 5 Document.text?
    link := ← r.omissible? 6 Document.text? }

/-- Reads a name loosely: the scalars among the entries of an object.  A key
`link`, whatever its value, puts `url` out of use. -/
def ofJson (v : Json) : PersonName :=
  let scalar (key : String) : Option String := (v.get? key).bind Json.scalarText?
  { title := scalar "title"
    given := scalar "given"
    middle := scalar "middle"
    family := scalar "family"
    generational := scalar "generational"
    credentials := scalar "credentials"
    link := ((v.get? "link").or (v.get? "url")).bind Json.scalarText? }

end PersonName
end PersonalNames

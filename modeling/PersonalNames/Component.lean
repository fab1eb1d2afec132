/-! # Name components

The six kinds of parts that a personal name is made of. -/
namespace PersonalNames

/-- A kind of part of a personal name. -/
inductive Component where
  | title
  | given
  | middle
  | family
  | generational
  | credentials
deriving DecidableEq, Repr

namespace Component

/-- All kinds, in the order in which names are listed. -/
def all : List Component :=
  [title, given, middle, family, generational, credentials]

/-- The identifier of a kind. -/
def id : Component → String
  | title => "title"
  | given => "given"
  | middle => "middle"
  | family => "family"
  | generational => "generational"
  | credentials => "credentials"

/-- The kind with an identifier. -/
def ofId? (s : String) : Option Component :=
  all.find? (·.id == s)

theorem ofId?_id (kind : Component) : ofId? kind.id = some kind := by
  cases kind <;> decide

end Component
end PersonalNames

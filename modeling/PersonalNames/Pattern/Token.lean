import PersonalNames.Component
import PersonalNames.Modifier

/-! # Pattern tokens

A compiled pattern is a sequence of tokens.  A token stands for a component of
the name, for literal text, for one of three separators or for a group of
tokens; modifiers may change it, and a condition may make it depend on its
neighbours. -/
namespace PersonalNames

/-- Where the value of a component token comes from. -/
inductive Source where
  | single (kind : Component)
  /-- The first kind, or the second where the first is absent. -/
  | either (first second : Component)
deriving DecidableEq, Repr

/-- A reference to a component of the name. -/
structure Reference where
  source : Source
  /-- Whether only the initial is shown. -/
  isInitial : Bool
deriving DecidableEq, Repr

/-- What a token's neighbours must be like for the token to be shown. -/
inductive Condition where
  | both
  | afterContent
  | afterNothing
  | beforeContent
  | beforeNothing
  | alternative
deriving DecidableEq, Repr

namespace Condition

/-- All conditions. -/
def all : List Condition :=
  [both, afterContent, afterNothing, beforeContent, beforeNothing, alternative]

/-- The code of a condition in a pattern. -/
def code : Condition → Char
  | both => '+'
  | afterContent => '-'
  | afterNothing => '~'
  | beforeContent => '='
  | beforeNothing => '^'
  | alternative => '|'

/-- The condition with a code. -/
def ofCode? : Char → Option Condition
  | '+' => some both
  | '-' => some afterContent
  | '~' => some afterNothing
  | '=' => some beforeContent
  | '^' => some beforeNothing
  | '|' => some alternative
  | _ => none

theorem ofCode?_code (c : Condition) : ofCode? c.code = some c := by
  cases c <;> rfl

theorem code_of_ofCode? {c : Char} {k : Condition} (h : ofCode? c = some k) : k.code = c := by
  unfold ofCode? at h
  split at h <;> simp_all [code] <;> subst h <;> rfl

/-- The name of a condition in listings. -/
def name : Condition → String
  | both => "Both"
  | afterContent => "AfterContent"
  | afterNothing => "AfterNothing"
  | beforeContent => "BeforeContent"
  | beforeNothing => "BeforeNothing"
  | alternative => "Alternative"

/-- The condition with a name. -/
def ofName? (s : String) : Option Condition :=
  all.find? (·.name == s)

/-- Whether the token is shown: `before` says that its sequence has shown
something so far, `previousEmpty` that the token before it showed nothing, and
`after` that the token behind it has content. -/
def holds (c : Condition) (before previousEmpty after : Bool) : Bool :=
  match c with
  | both => before && after
  | afterContent => before
  | afterNothing => !before
  | beforeContent => after
  | beforeNothing => !after
  | alternative => previousEmpty

end Condition

/-- An element of a pattern. -/
inductive Token where
  | component (reference : Reference)
  | literal (text : String)
  /-- One of the separators, counted from one. -/
  | separator (index : Nat)
  | group (tokens : List Token)
  | modified (modifiers : List Modifier) (token : Token)
  | conditional (condition : Condition) (token : Token)
deriving Repr

/-- The condition in front of a token, if there is one. -/
def Token.condition? : Token → Option Condition
  | .conditional c _ => some c
  | _ => none

/-- A token is a component or something else. -/
theorem Token.component_or_other (token : Token) :
    (∃ reference, token = .component reference) ∨ ∀ reference, token ≠ .component reference := by
  rw [← not_exists]
  exact Classical.em _

/-- A compiled pattern and the text it was compiled from. -/
structure Pattern where
  source : String
  tokens : List Token
deriving Repr

end PersonalNames

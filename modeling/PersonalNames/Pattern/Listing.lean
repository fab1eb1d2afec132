import PersonalNames.Pattern.Token
import PersonalNames.Text.Quoted

/-! # Listing a compiled pattern

A listing shows the tree of tokens with one line for each token, indented by two
spaces for each step of depth. -/
namespace PersonalNames

/-- The words for a source. -/
def Source.words : Source → String
  | .single kind => kind.id
  | .either first second => first.id ++ " or " ++ second.id

namespace Token

/-- What the line of a token says. -/
def label : Token → String
  | .component reference =>
    "component " ++ reference.source.words ++ (if reference.isInitial then " (initial)" else "")
  | .literal text => "literal " ++ Text.quoted text
  | .separator index => "separator sep" ++ toString index
  | .group _ => "group"
  | .modified modifiers _ =>
    "modified [" ++ String.intercalate ", " (modifiers.map Modifier.name) ++ "]"
  | .conditional condition _ => "if " ++ condition.name

mutual

/-- A token and the tokens inside it, each with its depth, from the top down. -/
def nodes (depth : Nat) : Token → List (Nat × Token)
  | .group tokens => (depth, .group tokens) :: nodesOfAll (depth + 1) tokens
  | .modified modifiers token => (depth, .modified modifiers token) :: nodes (depth + 1) token
  | .conditional condition token =>
    (depth, .conditional condition token) :: nodes (depth + 1) token
  | .component reference => [(depth, .component reference)]
  | .literal text => [(depth, .literal text)]
  | .separator index => [(depth, .separator index)]

/-- The nodes of several tokens, one after the other. -/
def nodesOfAll (depth : Nat) : List Token → List (Nat × Token)
  | [] => []
  | token :: tokens => nodes depth token ++ nodesOfAll depth tokens

end

/-- The lines of a listing of tokens that stand at a depth. -/
def listing (depth : Nat) (tokens : List Token) : List String :=
  (nodesOfAll depth tokens).map fun (depth, token) =>
    String.ofList (List.replicate (2 * depth) ' ') ++ token.label

end Token
end PersonalNames

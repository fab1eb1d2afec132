import PersonalNames.Markup.Basic
import PersonalNames.Pattern.Token
import PersonalNames.PersonName
import PersonalNames.Settings

/-! # Evaluating patterns

A token of a pattern has a value for a name: a piece, which is a plain text and
the same text in an output format.  The pieces of a sequence are first found for
all its tokens, as if none had a condition; then the sequence is put together
from the left, and each condition looks at what has been put together, at the
token before it and at the piece behind it. -/
namespace PersonalNames

/-- The value of a token: its text, on which modifiers work, and its output. -/
structure Piece where
  text : String
  output : String
deriving DecidableEq, Repr

namespace Piece

/-- The piece of an absent value. -/
def empty : Piece :=
  ⟨"", ""⟩

/-- A piece counts as empty if its output is. -/
def isEmpty (p : Piece) : Bool :=
  p.output = ""

/-- One piece behind another. -/
def append (p q : Piece) : Piece :=
  ⟨p.text ++ q.text, p.output ++ q.output⟩

theorem append_empty (p : Piece) : p.append empty = p := by
  simp [append, empty]

theorem empty_append (p : Piece) : empty.append p = p := by
  simp [append, empty]

theorem append_assoc (p q r : Piece) : (p.append q).append r = p.append (q.append r) := by
  simp [append, String.append_assoc]

/-- Whether the first of some pieces has content. -/
def headHasContent : List (Option Condition × Piece) → Bool
  | [] => false
  | (_, p) :: _ => !p.isEmpty

/-- Whether a piece under a condition is shown between what has been put together
so far and the pieces behind it.  `previousEmpty` says that the token before it
showed nothing. -/
def isShown (condition : Option Condition) (soFar : Piece) (previousEmpty : Bool)
    (rest : List (Option Condition × Piece)) : Bool :=
  match condition with
  | some c => c.holds (!soFar.isEmpty) previousEmpty (headHasContent rest)
  | none => true

/-- Puts a sequence together behind what has been put together so far. -/
def assembleFrom (soFar : Piece) (previousEmpty : Bool) :
    List (Option Condition × Piece) → Piece
  | [] => soFar
  | (condition, p) :: rest =>
    if isShown condition soFar previousEmpty rest then
      assembleFrom (soFar.append p) p.isEmpty rest
    else assembleFrom soFar true rest

/-- Puts a sequence together. -/
def assemble (pieces : List (Option Condition × Piece)) : Piece :=
  assembleFrom empty true pieces

end Piece

/-- What the value of a token depends on besides the token. -/
structure Scene where
  format : OutputFormat
  name : PersonName
  settings : Settings

namespace Scene

variable (scene : Scene)

/-- The piece of a text. -/
def textPiece (s : String) : Piece :=
  ⟨s, scene.format.text s⟩

/-- The component that a source gives, with its kind. -/
def resolve? : Source → Option (Component × String)
  | .single kind => (scene.name.get? kind).map (kind, ·)
  | .either first second =>
    ((scene.name.get? first).map (first, ·)).or ((scene.name.get? second).map (second, ·))

/-- The class of a component in the output. -/
def className (kind : Component) : String :=
  "name-" ++ kind.id

/-- The piece of a component under modifiers. -/
def componentPiece (reference : Reference) (modifiers : List Modifier) : Piece :=
  match scene.resolve? reference.source with
  | none => .empty
  | some (kind, value) =>
    let changed := Modifier.applyAll modifiers value
    let text := if reference.isInitial then initial changed else changed
    ⟨text, scene.format.semantic (className kind) (scene.format.text text)⟩

mutual

/-- The piece of a token, whatever its condition. -/
def piece : Token → Piece
  | .component reference => scene.componentPiece reference []
  | .literal text => scene.textPiece text
  | .separator index => scene.textPiece (scene.settings.separator index)
  | .group tokens => Piece.assemble (pieces tokens)
  | .modified modifiers (.component reference) => scene.componentPiece reference modifiers
  | .modified modifiers token => scene.textPiece (Modifier.applyAll modifiers (piece token).text)
  | .conditional _ token => piece token

/-- The pieces of the tokens of a sequence, with their conditions. -/
def pieces : List Token → List (Option Condition × Piece)
  | [] => []
  | token :: tokens => (token.condition?, piece token) :: pieces tokens

end

/-- Of a token that is no component, modifiers see the text only. -/
theorem piece_modified {token : Token} (h : ∀ reference, token ≠ .component reference)
    (modifiers : List Modifier) : scene.piece (.modified modifiers token) =
      scene.textPiece (Modifier.applyAll modifiers (scene.piece token).text) := by
  cases token with
  | component reference => exact absurd rfl (h reference)
  | _ => rfl

/-- The piece of a sequence of tokens. -/
def sequence (tokens : List Token) : Piece :=
  Piece.assemble (scene.pieces tokens)

end Scene

namespace Pattern

/-- The tokens of a pattern for a name, in an output format. -/
def output (format : OutputFormat) (tokens : List Token) (name : PersonName)
    (settings : Settings) : String :=
  (Scene.sequence ⟨format, name, settings⟩ tokens).output

/-- The content of a formatted name: the markup mode chooses the output format. -/
def content (tokens : List Token) (name : PersonName) (settings : Settings) : Markup :=
  match settings.markup with
  | .none => .plain (output .plain tokens name settings)
  | .simple => .escaped (output .html tokens name settings)
  | .html => .escaped (output .semanticHtml tokens name settings)
  | .raw => .escaped (output .plain tokens name settings)

/-- A name formatted by the tokens of a pattern.  An empty name gives no text,
and a link is put only around content. -/
def formatTokens (tokens : List Token) (name : PersonName) (settings : Settings) : Markup :=
  if name.isEmpty then .empty
  else
    let shown := content tokens name settings
    match name.target? with
    | some url => if shown.isEmpty then shown else .hyperlink url shown
    | none => shown

/-- A formatted name is empty text, its content, or a link around that. -/
theorem formatTokens_cases {P : Markup → Prop} {tokens : List Token} {name : PersonName}
    {settings : Settings} (hempty : P .empty) (hcontent : P (content tokens name settings))
    (hlink : ∀ url, P (.hyperlink url (content tokens name settings))) :
    P (formatTokens tokens name settings) := by
  unfold formatTokens
  split
  · exact hempty
  · dsimp only
    split
    · split
      · exact hcontent
      · exact hlink _
    · exact hcontent

/-- A name formatted by a pattern. -/
def format (pattern : Pattern) (name : PersonName) (settings : Settings) : Markup :=
  formatTokens pattern.tokens name settings

end Pattern
end PersonalNames

import PersonalNames.Pattern.Lexeme
import PersonalNames.Text.Quoted

/-! # Compiling patterns

A pattern is compiled in one pass over its lexemes.  The state of the pass is
the sequence that is being read, with the marks in front of its next token, and
the sequences around it that wait for a closing parenthesis.  A fault is
reported at the byte where the text stops being the beginning of any pattern. -/
namespace PersonalNames

/-- What makes a text no pattern. -/
inductive Fault where
  | unknownComponent (c : Char)
  | unclosedGroup
  | unexpectedClose
  /-- A condition or modifier without a token behind it. -/
  | danglingMark
  | danglingEscape
deriving DecidableEq, Repr

/-- The wording of a fault. -/
def Fault.message : Fault → String
  | unknownComponent c => "unknown component code '" ++ String.ofList [c] ++ "'"
  | unclosedGroup => "unclosed group"
  | unexpectedClose => "')' without matching '('"
  | danglingMark => "condition or modifier is not followed by a token"
  | danglingEscape => "escape at end of pattern"

/-- Why a text does not compile, and at which byte. -/
structure PatternError where
  pattern : String
  offset : Nat
  fault : Fault
deriving DecidableEq, Repr

/-- The message of a pattern error. -/
def PatternError.message (e : PatternError) : String :=
  "invalid name pattern " ++ Text.quoted e.pattern ++ " at offset " ++ toString e.offset ++ ": " ++
    e.fault.message

/-- The condition and the modifiers read in front of a token. -/
structure Marks where
  condition : Option Condition := none
  modifiers : List Modifier := []
deriving DecidableEq, Repr

namespace Marks

/-- Whether there are no marks. -/
def isEmpty (m : Marks) : Bool :=
  m.condition.isNone && m.modifiers.isEmpty

/-- A token under its marks: the modifiers apply to the token, and the condition
to the whole. -/
def wrap (m : Marks) (t : Token) : Token :=
  let changed := if m.modifiers.isEmpty then t else .modified m.modifiers t
  match m.condition with
  | some c => .conditional c changed
  | none => changed

end Marks

/-- A sequence that is being read: its tokens so far and the marks in front of
the next one. -/
structure OpenSequence where
  tokens : List Token := []
  marks : Marks := {}

namespace OpenSequence

/-- A sequence with one more token; literal text joins literal text before it. -/
def append (tokens : List Token) (t : Token) : List Token :=
  match tokens.getLast?, t with
  | some (.literal before), .literal text => tokens.dropLast ++ [.literal (before ++ text)]
  | _, _ => tokens ++ [t]

/-- The sequence after its next token has been read. -/
def push (s : OpenSequence) (t : Token) : OpenSequence :=
  { tokens := append s.tokens (s.marks.wrap t) }

end OpenSequence

namespace Pattern

/-- The state of the pass: the innermost sequence and those around it, the
nearest first. -/
structure State where
  inner : OpenSequence := {}
  outer : List OpenSequence := []

/-- Whether a mark stands in front of the next token or of a group around it. -/
def State.isMarked (s : State) : Bool :=
  (s.inner :: s.outer).any fun level => !level.marks.isEmpty

/-- The state with one more token in the innermost sequence. -/
def State.push (s : State) (t : Token) : State :=
  { s with inner := s.inner.push t }

/-- The state with other marks in front of the next token. -/
def State.mark (s : State) (marks : Marks) : State :=
  { s with inner := { s.inner with marks } }

/-- The token of a component code. -/
def componentToken (code : Char) (starred : Bool) : Option Token :=
  (Lexeme.source? code).map fun source =>
    .component ⟨source, starred || Lexeme.isInitialCode code⟩

/-- Reads one lexeme. -/
def State.read (s : State) : Lexeme → Except Fault State
  | .condition c =>
    if s.inner.marks.isEmpty then .ok (s.mark { condition := some c }) else .error .danglingMark
  | .modifier m =>
    let marks := s.inner.marks
    .ok (s.mark { marks with modifiers := marks.modifiers ++ [m] })
  | .opening => .ok { inner := {}, outer := s.inner :: s.outer }
  | .closing =>
    if !s.inner.marks.isEmpty then .error .danglingMark
    else
      match s.outer with
      | [] => .error .unexpectedClose
      | level :: outer => .ok { inner := level.push (.group s.inner.tokens), outer }
  | .separator index => .ok (s.push (.separator index))
  | .component code starred =>
    match componentToken code starred with
    | some t => .ok (s.push t)
    | none => .error (.unknownComponent code)
  | .escaped c => .ok (s.push (.literal (String.ofList [c])))
  | .run text => .ok (s.push (.literal (String.ofList text)))
  | .unknown c => .error (if s.isMarked then .danglingMark else .unknownComponent c)
  | .danglingEscape => .error .danglingEscape

/-- Ends the pass: nothing may be left open. -/
def State.finish (s : State) : Except Fault (List Token) :=
  if !s.inner.marks.isEmpty then .error .danglingMark
  else if s.outer.isEmpty then .ok s.inner.tokens
  else .error .unclosedGroup

/-- Reads the lexemes from a byte offset on. -/
def readFrom (offset : Nat) (s : State) : List Lexeme → Except (Nat × Fault) (List Token)
  | [] => s.finish.mapError (offset, ·)
  | lexeme :: lexemes =>
    match s.read lexeme with
    | .ok s => readFrom (offset + lexeme.size) s lexemes
    | .error .danglingEscape => .error (offset + lexeme.size, .danglingEscape)
    | .error fault => .error (offset, fault)

/-- Compiles the text of a pattern. -/
def compile (source : String) : Except PatternError Pattern :=
  match readFrom 0 {} (Lexeme.scan source.toList) with
  | .ok tokens => .ok { source, tokens }
  | .error (offset, fault) => .error { pattern := source, offset, fault }

end Pattern
end PersonalNames

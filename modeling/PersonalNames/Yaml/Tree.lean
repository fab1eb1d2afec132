import PersonalNames.Yaml.Lexer

/-! # From tokens to nodes

A YAML text holds one document, whose nodes are scalars, sequences, mappings and
aliases of nodes with an anchor.  The nodes are read by recursive descent over
the tokens. -/
namespace PersonalNames
namespace Yaml

/-- A node of a document. -/
inductive Node where
  | alias (anchor : Nat)
  | scalar (tag : Option (List UInt8)) (isPlain : Bool) (text : String)
  | sequence (tag : Option (List UInt8)) (items : List Node)
  | mapping (tag : Option (List UInt8)) (entries : List (Node × Node))

/-- An empty plain scalar, which stands where a node is missing. -/
def Node.missing : Node :=
  .scalar none true ""

/-- A node with an anchor: the number of the anchor, the place of the node among
all nodes with anchors, and the node. -/
structure Target where
  anchor : Nat
  place : Nat
  node : Node

/-- The state of reading nodes: the tokens to come and the anchors so far. -/
structure NodeReader where
  tokens : List Token
  /-- What the tag handles stand for. -/
  handles : List (String × List UInt8) :=
    [("!", tagBytes ['!']), ("!!", tagBytes "tag:yaml.org,2002:".toList)]
  /-- The names of the anchors with their numbers, the newest first. -/
  anchors : List (String × Nat) := []
  /-- How many nodes with anchors were started. -/
  started : Nat := 0
  targets : List Target := []

/-- A step of reading nodes. -/
abbrev Step := StateT NodeReader (Except Problem)

namespace Step

/-- The next token. -/
def peek? : Step (Option Token) := do
  return (← get).tokens.head?

/-- Whether the next token is a given one. -/
def sees (t : Token) : Step Bool := do
  return (← peek?) == some t

/-- Passes over the next token. -/
def skip : Step Unit :=
  modify fun s => { s with tokens := s.tokens.drop 1 }

/-- Whether the next token is one of the given ones. -/
def seesOneOf (ts : List Token) : Step Bool := do
  return ((← peek?).map ts.contains).getD true

end Step

/-- The tag of a handle and a rest, a lone mark included. -/
def resolveTag (handle : String) (rest : List UInt8) : Step (List UInt8) := do
  if handle = "" then return rest
  match (← get).handles.lookup handle with
  | some expansion => return expansion ++ rest
  | none => throw "undefined tag handle"

/-- Registers an anchor.  The number of a new anchor is how many names are known;
a name that is used again counts once. -/
def registerAnchor (name : String) : Step (Nat × Nat) := do
  let s ← get
  let number := s.anchors.length
  let others := s.anchors.filter (·.1 != name)
  set { s with anchors := (name, number) :: others, started := s.started + 1 }
  return (number, s.started)

/-- Reads the anchor and the tag in front of a node, in either order. -/
def readProperties : Step (Option String × Option (List UInt8)) := do
  match ← Step.peek? with
  | some (.anchor name) =>
    Step.skip
    match ← Step.peek? with
    | some (.tag handle rest) =>
      Step.skip
      return (some name, some (← resolveTag handle rest))
    | _ => return (some name, none)
  | some (.tag handle rest) =>
    Step.skip
    match ← Step.peek? with
    | some (.anchor name) =>
      Step.skip
      return (some name, some (← resolveTag handle rest))
    | _ => return (none, some (← resolveTag handle rest))
  | _ => return (none, none)

/-- Notes the node of an anchor. -/
def note (anchor : Option (Nat × Nat)) (node : Node) : Step Node := do
  match anchor with
  | some (number, place) =>
    modify fun s => { s with targets := ⟨number, place, node⟩ :: s.targets }
    return node
  | none => return node

mutual

/-- Reads a node.  `inBlock` says that blocks may stand here, and `dashes` that
items may stand here without a block of their own. -/
def readNode (inBlock dashes : Bool) : Nat → Step Node
  | 0 => throw "document too large"
  | fuel + 1 => do
    match ← Step.peek? with
    | some (.alias name) =>
      Step.skip
      match (← get).anchors.lookup name with
      | some number => return .alias number
      | none => throw "unknown anchor"
    | _ =>
      let (name, tag) ← readProperties
      let anchor ← name.mapM registerAnchor
      match ← Step.peek? with
      | some .item =>
        if dashes then note anchor (.sequence tag (← readDashes fuel))
        else if anchor.isSome || tag.isSome then note anchor (.scalar tag true "")
        else throw "missing node"
      | some (.scalar isPlain text) =>
        Step.skip
        note anchor (.scalar tag isPlain text)
      | some .sequenceOpen =>
        Step.skip
        note anchor (.sequence tag (← readFlowItems true fuel))
      | some .mappingOpen =>
        Step.skip
        note anchor (.mapping tag (← readFlowEntries true fuel))
      | some .sequenceBlock =>
        if inBlock then
          Step.skip
          note anchor (.sequence tag (← readItems fuel))
        else if anchor.isSome || tag.isSome then note anchor (.scalar tag true "")
        else throw "missing node"
      | some .mappingBlock =>
        if inBlock then
          Step.skip
          note anchor (.mapping tag (← readEntries fuel))
        else if anchor.isSome || tag.isSome then note anchor (.scalar tag true "")
        else throw "missing node"
      | _ =>
        if anchor.isSome || tag.isSome then note anchor (.scalar tag true "")
        else throw "missing node"

/-- Reads a node unless one of the given tokens or the end stands in front. -/
def readNodeUnless (ends : List Token) (inBlock dashes : Bool) : Nat → Step Node
  | 0 => throw "document too large"
  | fuel + 1 => do
    if ← Step.seesOneOf ends then return .missing else readNode inBlock dashes fuel

/-- Reads the items of a block and its end. -/
def readItems : Nat → Step (List Node)
  | 0 => throw "document too large"
  | fuel + 1 => do
    match ← Step.peek? with
    | some .item =>
      Step.skip
      let item ← readNodeUnless [.item, .blockEnd] true false fuel
      return item :: (← readItems fuel)
    | some .blockEnd =>
      Step.skip
      return []
    | _ => throw "missing dash of an item"

/-- Reads items that have no block of their own. -/
def readDashes : Nat → Step (List Node)
  | 0 => throw "document too large"
  | fuel + 1 => do
    if ← Step.sees .item then
      Step.skip
      let item ← readNodeUnless [.item, .key, .value, .blockEnd] true false fuel
      return item :: (← readDashes fuel)
    else return []

/-- Reads the entries of a block and its end. -/
def readEntries : Nat → Step (List (Node × Node))
  | 0 => throw "document too large"
  | fuel + 1 => do
    match ← Step.peek? with
    | some .key =>
      Step.skip
      let key ← readNodeUnless [.key, .value, .blockEnd] true true fuel
      let value ←
        if ← Step.sees .value then
          Step.skip
          readNodeUnless [.key, .value, .blockEnd] true true fuel
        else pure .missing
      return (key, value) :: (← readEntries fuel)
    | some .blockEnd =>
      Step.skip
      return []
    | _ => throw "missing key"

/-- Reads the items between brackets and the closing bracket. -/
def readFlowItems (first : Bool) : Nat → Step (List Node)
  | 0 => throw "document too large"
  | fuel + 1 => do
    if ← Step.sees .sequenceClose then
      Step.skip
      return []
    if !first then
      if ← Step.sees .comma then Step.skip else throw "missing comma or bracket"
    match ← Step.peek? with
    | some .sequenceClose =>
      Step.skip
      return []
    | some .key =>
      Step.skip
      let entry ← readFlowPair fuel
      return .mapping none [entry] :: (← readFlowItems false fuel)
    | _ =>
      let item ← readNode false false fuel
      return item :: (← readFlowItems false fuel)

/-- Reads the only entry of a mapping that is an item between brackets.  A key
that is left out takes the token behind its mark with it. -/
def readFlowPair : Nat → Step (Node × Node)
  | 0 => throw "document too large"
  | fuel + 1 => do
    let key ←
      if ← Step.seesOneOf [.value, .comma, .sequenceClose] then
        Step.skip
        pure .missing
      else readNode false false fuel
    if ← Step.sees .value then
      Step.skip
      return (key, ← readNodeUnless [.comma, .sequenceClose] false false fuel)
    else return (key, .missing)

/-- Reads the entries between braces and the closing brace. -/
def readFlowEntries (first : Bool) : Nat → Step (List (Node × Node))
  | 0 => throw "document too large"
  | fuel + 1 => do
    if ← Step.sees .mappingClose then
      Step.skip
      return []
    if !first then
      if ← Step.sees .comma then Step.skip else throw "missing comma or brace"
    match ← Step.peek? with
    | some .mappingClose =>
      Step.skip
      return []
    | some .key =>
      Step.skip
      let key ← readNodeUnless [.value, .comma, .mappingClose] false false fuel
      let value ←
        if ← Step.sees .value then
          Step.skip
          readNodeUnless [.comma, .mappingClose] false false fuel
        else pure .missing
      return (key, value) :: (← readFlowEntries false fuel)
    | _ =>
      let key ← readNode false false fuel
      return (key, .missing) :: (← readFlowEntries false fuel)

end

/-- Reads the directives in front of a document: at most one version, which has
to be 1.1 or 1.2, and at most one meaning for each handle. -/
def readDirectives (versions : Nat) (declared : List String) : Nat → Step Unit
  | 0 => throw "document too large"
  | fuel + 1 => do
    match ← Step.peek? with
    | some (.versionDirective major minor) =>
      if versions ≠ 0 then throw "repeated version directive"
      if major ≠ 1 || (minor ≠ 1 && minor ≠ 2) then throw "unknown version"
      Step.skip
      readDirectives 1 declared fuel
    | some (.tagDirective handle expansion) =>
      if declared.contains handle then throw "repeated tag directive"
      modify fun s => { s with handles := (handle, expansion) :: s.handles }
      Step.skip
      readDirectives versions (handle :: declared) fuel
    | _ => return ()

/-- Reads the only document of a text; none if the text is empty. -/
def readDocument (fuel : Nat) : Step (Option Node) := do
  match ← Step.peek? with
  | none => return none
  | some first =>
    let explicit :=
      match first with
      | .versionDirective _ _ | .tagDirective _ _ | .documentStart => true
      | _ => false
    let node ←
      if explicit then do
        readDirectives 0 [] fuel
        if ← Step.sees .documentStart then Step.skip else throw "missing document start"
        match ← Step.peek? with
        | none | some (.versionDirective _ _) | some (.tagDirective _ _) | some .documentStart
        | some .documentEnd => pure .missing
        | _ => readNode true false fuel
      else readNode true false fuel
    modify fun s => { s with tokens := s.tokens.dropWhile (· == .documentEnd) }
    if (← Step.peek?).isSome then throw "more than one document"
    return some node

end Yaml
end PersonalNames

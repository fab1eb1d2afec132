import PersonalNames.Document.Outline
import PersonalNames.Document.Reading
import PersonalNames.Yaml.Tree

/-! # From nodes to documents

A YAML text is read as a document by replacing the aliases of its nodes by what
they stand for.  Only where somebody will read, as an outline says, aliases are
replaced, so an alias that is passed over may even stand for what contains it.
The size of the text limits how often aliases are replaced, and lists and maps
may lie in each other only to a fixed depth. -/
namespace PersonalNames
namespace Yaml

mutual

/-- The size of a node: a scalar and an alias count once, and a collection counts
for its start, its end and its contents. -/
def Node.size : Node → Nat
  | .alias _ => 1
  | .scalar _ _ _ => 1
  | .sequence _ items => 2 + itemsSize items
  | .mapping _ entries => 2 + entriesSize entries

/-- The size of the items of a sequence. -/
def itemsSize : List Node → Nat
  | [] => 0
  | item :: items => item.size + itemsSize items

/-- The size of the keys and values of a mapping. -/
def entriesSize : List (Node × Node) → Nat
  | [] => 0
  | (key, value) :: entries => key.size + value.size + entriesSize entries

end

/-- The target of an anchor: of nodes that share a number, the one started last. -/
def target? (targets : List Target) (anchor : Nat) : Option Node :=
  let candidates := targets.filter (·.anchor = anchor)
  let latest := candidates.foldl (fun n t => max n t.place) 0
  (candidates.find? (·.place = latest)).map (·.node)

/-- A step of replacing aliases, which knows how many may still be replaced. -/
abbrev Replacing := StateT Nat (Except Problem)

/-- What a node stands for: for an alias its target, at the cost of one of the
replacements that are left, and otherwise the node itself. -/
def follow (targets : List Target) (node : Node) : Replacing Node := do
  match node with
  | .alias anchor =>
    match ← get, target? targets anchor with
    | left + 1, some target =>
      set left
      return target
    | _, _ => throw "too many aliases"
  | node => return node

/-- A document under a tag, if there is one. -/
def withTag (tag : Option (List UInt8)) (d : Document) : Document :=
  match tag with
  | some bytes => .tagged (.ofBytes bytes) d
  | none => d

/-- The document of a node.  `room` is the number of lists and maps that may still
be entered.  Values outside the outline become unreadable. -/
def expand (targets : List Target) (room : Nat) (outline : Outline) (node : Node) :
    Replacing Document := do
  match ← follow targets node, room with
  | .scalar tag isPlain text, _ =>
    return withTag tag (if isPlain then .plain text else .text text)
  | .sequence tag items, room + 1 =>
    return withTag tag (.list (← items.mapM (expand targets room .whole)))
  | .mapping tag entries, room + 1 =>
    let entries ← entries.mapM fun (key, value) => do
      let key ← expand targets room .whole key
      match outline.under? key.text? with
      | some outline => return (key, ← expand targets room outline value)
      | none => return (key, .unreadable)
    return withTag tag (.map entries)
  | _, _ => throw "nested too deep"

/-- The document of a YAML text, as far as an outline goes. -/
def read (outline : Outline) (s : String) : Except Problem Document := do
  let tokens ← tokenize s
  let (root, state) ← (readDocument (4 * tokens.length + 4)).run { tokens }
  match root with
  | none => return .absent
  | some node => (expand state.targets Reading.yaml.room outline node).run' (100 * node.size)

end Yaml
end PersonalNames

import SearchFilter.Yaml.Node.Basic
import SearchFilter.Yaml.Token.Basic

/-!
# Reading nodes

Nodes are read from tokens. Each kind of collection has its own rules for what may
be missing: an element, a key or a value that is not there is null. Anchors name
nodes for references after them.
-/

namespace SearchFilter
namespace Yaml

/-- What a reader of nodes knows. -/
structure Reading where
  /-- The tokens that are left. -/
  tokens : List Token
  /-- The last directive in front of the document. -/
  directive : Option Directive
  /-- The nodes that have a name, the latest first. One that is still being read is
  missing. -/
  anchors : List (Text × Option Node)

/-- A reader of nodes, which may fail. -/
abbrev Reader := StateT Reading Option

namespace Reader

/-- The next token. -/
def peek : Reader (Option Token) := do
  return (← get).tokens.head?

/-- Drop the next token. -/
def skip : Reader Unit :=
  modify fun reading => { reading with tokens := reading.tokens.tail }

/-- Whether the next token is one of those given. -/
def isAt (tokens : List Token) : Reader Bool := do
  return (← peek).any tokens.contains

/-! ## Properties -/

/-- Read a tag, if there is one, down to what its handle means and its suffix. -/
def tag : Reader (Option (Text × Text)) := do
  match ← peek with
  | some (.tag tag) =>
      skip
      return some (← tag.meaning? (← get).directive, tag.suffix)
  | _ => return none

/-- Read an anchor, if there is one. Its number is the one of anchors before it. -/
def anchor : Reader (Option Nat) := do
  match ← peek with
  | some (.anchor name) =>
      skip
      let reading ← get
      set { reading with anchors := (name, none) :: reading.anchors }
      return some reading.anchors.length
  | _ => return none

/-- Read the anchor and the tag of a node, in any order. -/
def properties : Reader (Option Nat × Option (Text × Text)) := do
  match ← anchor with
  | some number => return (some number, ← tag)
  | none =>
      let tag ← tag
      return (← if tag.isSome then anchor else pure none, tag)

/-- Give the anchor with a number its node. -/
def setAnchor (number : Nat) (node : Node) : Reader Unit :=
  modify fun reading =>
    let place := reading.anchors.length - 1 - number
    { reading with anchors := reading.anchors.modify place fun entry => (entry.1, some node) }

/-- The node that a reference means. It is void while that node is being read. -/
def referred (name : Text) : Reader Node := do
  let node ← (← get).anchors.lookup name
  return node.getD .void

/-! ## Nodes -/

/-- The node of a scalar. -/
def resolve (plain : Bool) (tag : Option (Text × Text)) (text : Text) : Node :=
  if plain then
    match tag with
    | none => Node.ofPlain text
    | some (meaning, name) =>
        if meaning = commonTypes then Node.ofType name text else Node.string text
  else
    Node.string text

mutual

/-- Read a node. Where blocks are allowed a sequence may do without an indentation of
its own. -/
def node (block indentless : Bool) : Nat → Reader Node
  | 0 => failure
  | limit + 1 => do
      match ← peek with
      | some (.reference name) =>
          skip
          referred name
      | _ =>
          let (number, tag) ← properties
          let node ←
            match ← content block indentless tag limit with
            | some node => pure node
            | none => if number.isSome ∨ tag.isSome then pure (resolve true tag []) else failure
          match number with
          | some number => setAnchor number node
          | none => pure ()
          return node

/-- Read what is left of a node after its properties, if there is anything. -/
def content (block indentless : Bool) (tag : Option (Text × Text)) : Nat → Reader (Option Node)
  | 0 => failure
  | limit + 1 => do
      match block, indentless, ← peek with
      | _, _, some (.scalar plain text) =>
          skip
          return some (resolve plain tag text)
      | _, _, some .flowSequence =>
          skip
          return some (.sequence (← flowElements limit))
      | _, _, some .flowMapping =>
          skip
          return some (← Node.mapping? (← flowMembers limit))
      | true, _, some .blockSequence =>
          skip
          return some (.sequence (← blockElements limit))
      | true, _, some .blockMapping =>
          skip
          return some (← Node.mapping? (← blockMembers limit))
      | _, true, some .element => return some (.sequence (← indentlessElements limit))
      | _, _, _ => return none

/-- Read a node, which is null in front of certain tokens. -/
def nodeBefore (ends : List Token) (block indentless : Bool) : Nat → Reader Node
  | 0 => failure
  | limit + 1 => do
      if ← isAt ends then return .null else node block indentless limit

/-- Read a colon and the value after it. The value is null without a colon. -/
def valueBefore (ends : List Token) (block : Bool) : Nat → Reader Node
  | 0 => failure
  | limit + 1 => do
      if ← isAt [.value] then
        skip
        nodeBefore ends block block limit
      else
        return .null

/-- Read the elements of a flow sequence and its end. -/
def flowElements : Nat → Reader (List Node)
  | 0 => failure
  | limit + 1 => do
      if ← isAt [.flowSequenceEnd] then
        skip
        return []
      let element ← flowElement limit
      match ← peek with
      | some .comma =>
          skip
          return element :: (← flowElements limit)
      | some .flowSequenceEnd =>
          skip
          return [element]
      | _ => failure

/-- Read an element of a flow sequence. A key begins a mapping of one member. -/
def flowElement : Nat → Reader Node
  | 0 => failure
  | limit + 1 => do
      if ← isAt [.key] then
        skip
        let key ← nodeBefore [.value, .comma, .flowSequenceEnd] false false limit
        let value ← valueBefore [.comma, .flowSequenceEnd] false limit
        Node.mapping? [key, value]
      else
        node false false limit

/-- Read the members of a flow mapping and its end, as nodes in turn. -/
def flowMembers : Nat → Reader (List Node)
  | 0 => failure
  | limit + 1 => do
      if ← isAt [.flowMappingEnd] then
        skip
        return []
      let (key, value) ← flowMember limit
      match ← peek with
      | some .comma =>
          skip
          return key :: value :: (← flowMembers limit)
      | some .flowMappingEnd =>
          skip
          return [key, value]
      | _ => failure

/-- Read a member of a flow mapping. -/
def flowMember : Nat → Reader (Node × Node)
  | 0 => failure
  | limit + 1 => do
      match ← peek with
      | some .key =>
          skip
          let key ← nodeBefore [.value, .comma, .flowMappingEnd] false false limit
          return (key, ← valueBefore [.comma, .flowMappingEnd] false limit)
      | some .value => return (.null, ← valueBefore [.comma, .flowMappingEnd] false limit)
      | _ => return (← node false false limit, .null)

/-- Read the elements of a block sequence and its end. -/
def blockElements : Nat → Reader (List Node)
  | 0 => failure
  | limit + 1 => do
      match ← peek with
      | some .element =>
          skip
          let element ← nodeBefore [.element, .blockEnd] true false limit
          return element :: (← blockElements limit)
      | some .blockEnd =>
          skip
          return []
      | _ => failure

/-- Read the elements of a sequence without an indentation of its own. -/
def indentlessElements : Nat → Reader (List Node)
  | 0 => failure
  | limit + 1 => do
      if ← isAt [.element] then
        skip
        let element ← nodeBefore [.element, .key, .value, .blockEnd] true false limit
        return element :: (← indentlessElements limit)
      else
        return []

/-- Read the members of a block mapping and its end, as nodes in turn. -/
def blockMembers : Nat → Reader (List Node)
  | 0 => failure
  | limit + 1 => do
      if ← isAt [.blockEnd] then
        skip
        return []
      let key ←
        match ← peek with
        | some .key =>
            skip
            nodeBefore [.key, .value, .blockEnd] true true limit
        | some .value => pure .null
        | _ => failure
      let value ← valueBefore [.key, .value, .blockEnd] true limit
      return key :: value :: (← blockMembers limit)

end

end Reader

end Yaml
end SearchFilter

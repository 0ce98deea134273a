import CallPolicy.Yaml.Tag
import CallPolicy.Yaml.Tokens

/-!
# CallPolicy.Yaml.Graph

A YAML document as a graph: scalars, sequences and mappings by number, so that an alias is the
number of its node, also where that node is still under way.
-/

namespace CallPolicy
namespace Yaml

inductive Node where
  | scalar (tag : Tag) (text : List Char)
  | sequence (tag : Tag) (items : List Nat)
  | mapping (tag : Tag) (entries : List (Nat × Nat))

def Node.tag : Node → Tag
  | scalar tag _ | sequence tag _ | mapping tag _ => tag

structure Graph where
  nodes : Array Node
  root : Nat

namespace Graph

/-- Why drawing a graph ends early. -/
inductive Stop where
  | malformed
  /-- There are no more tokens. -/
  | exhausted

/-- A graph under way. -/
structure Draft where
  tokens : List Token
  nodes : Array Node := #[]
  anchors : List (List Char × Nat) := []
  handles : List (List Char × List Char) := []

abbrev Drafting := StateT Draft (Except Stop)

namespace Drafting

def peek : Drafting Token := do
  match (← get).tokens with
  | [] => throw .exhausted
  | t :: _ => return t

def drop : Drafting Unit := modify fun d => { d with tokens := d.tokens.tail }

/-- Takes the next token if it is the given one. -/
def take? (t : Token) : Drafting Bool := do
  if (← peek) = t then
    drop
    return true
  else return false

def expect (t : Token) : Drafting Unit := do
  if !(← take? t) then throw .malformed

/-- Whether the next token is one of some. -/
def isAt (ts : List Token) : Drafting Bool := return ts.contains (← peek)

def push (n : Node) : Drafting Nat := do
  let id := (← get).nodes.size
  modify fun d => { d with nodes := d.nodes.push n }
  return id

def set (id : Nat) (n : Node) : Drafting Unit :=
  modify fun d => { d with nodes := d.nodes.setIfInBounds id n }

/-- A scalar that is not written at all. -/
def empty : Drafting Nat := push (.scalar .null [])

/-- Names a node. A name may come only once. -/
def name (anchor : Option (List Char)) (id : Nat) : Drafting Unit := do
  match anchor with
  | none => return
  | some a =>
    if ((← get).anchors.lookup a).isSome then throw .malformed
    modify fun d => { d with anchors := (a, id) :: d.anchors }

def anchor? : Drafting (Option (List Char)) := do
  match ← peek with
  | .anchor a =>
    drop
    return some a
  | _ => return none

def tag? : Drafting (Option WrittenTag) := do
  match ← peek with
  | .tag t =>
    drop
    return some t
  | _ => return none

/-- The full name of a written tag. -/
def fullTag (t : WrittenTag) : Drafting (List Char) := do
  match t.handle with
  | none => return t.suffix
  | some h =>
    match (← get).handles.lookup h with
    | some start => return start ++ t.suffix
    | none => throw .malformed

/-- Anchor and tag before a node, in either order. -/
def properties : Drafting (Option (List Char) × Option (List Char)) := do
  let first ← anchor?
  let tag ← tag?
  let anchor ← if first.isNone && tag.isSome then anchor? else pure first
  match tag with
  | some t => return (anchor, some (← fullTag t))
  | none => return (anchor, none)

/-- The type of a scalar. An exclamation mark alone asks for the type by the way it is written. -/
def scalarTag (tag : Option (List Char)) (isPlain : Bool) (text : List Char) : Tag :=
  match tag with
  | none => if isPlain then Plain.tag text else .text
  | some ['!'] => Plain.tag text
  | some t => .ofName t

def collectionTag (tag : Option (List Char)) (own : Tag) : Tag :=
  match tag with
  | none | some ['!'] => own
  | some t => .ofName t

/-- A sequence, whose items may refer back to it. -/
def sequence (anchor tag : Option (List Char)) (items : Drafting (List Nat)) : Drafting Nat := do
  let tag := collectionTag tag .sequence
  let id ← push (.sequence tag [])
  name anchor id
  set id (.sequence tag (← items))
  return id

/-- A mapping, whose entries may refer back to it. -/
def mapping (anchor tag : Option (List Char)) (entries : Drafting (List (Nat × Nat))) :
    Drafting Nat := do
  let tag := collectionTag tag .mapping
  let id ← push (.mapping tag [])
  name anchor id
  set id (.mapping tag (← entries))
  return id

mutual

/-- A node. Collections written in blocks are allowed where `isBlock` is set, and sequences without
an indentation of their own where `isIndentless` is. -/
def node : Nat → Bool → Bool → Drafting Nat
  | 0, _, _ => throw .malformed
  | fuel + 1, isBlock, isIndentless => do
    match ← peek with
    | .alias a =>
      drop
      match (← get).anchors.lookup a with
      | some id => return id
      | none => throw .malformed
    | _ =>
      let (anchor, tag) ← properties
      match ← peek with
      | .scalar text isPlain =>
        drop
        let id ← push (.scalar (scalarTag tag isPlain text) text)
        name anchor id
        return id
      | .flowSequenceStart =>
        drop
        sequence anchor tag (flowItems fuel true)
      | .flowMappingStart =>
        drop
        mapping anchor tag (flowEntries fuel true)
      | t =>
        if t = .blockEntry && isIndentless then sequence anchor tag (indentlessItems fuel)
        else if t = .blockSequenceStart && isBlock then
          drop
          sequence anchor tag (blockItems fuel)
        else if t = .blockMappingStart && isBlock then
          drop
          mapping anchor tag (blockEntries fuel)
        else if anchor.isSome || tag.isSome then
          let id ← push (.scalar (scalarTag tag true []) [])
          name anchor id
          return id
        else throw .malformed

/-- The items of a block sequence, up to its end. -/
def blockItems : Nat → Drafting (List Nat)
  | 0 => throw .malformed
  | fuel + 1 => do
    if ← take? .blockEntry then
      let id ← if ← isAt [.blockEntry, .blockEnd] then empty else node fuel true false
      return id :: (← blockItems fuel)
    else
      expect .blockEnd
      return []

/-- The items of a sequence without an indentation of its own. -/
def indentlessItems : Nat → Drafting (List Nat)
  | 0 => throw .malformed
  | fuel + 1 => do
    if ← take? .blockEntry then
      let id ←
        if ← isAt [.blockEntry, .key, .value, .blockEnd] then empty else node fuel true false
      return id :: (← indentlessItems fuel)
    else return []

/-- The entries of a block mapping, up to its end. -/
def blockEntries : Nat → Drafting (List (Nat × Nat))
  | 0 => throw .malformed
  | fuel + 1 => do
    if ← take? .key then
      let key ← if ← isAt [.key, .value, .blockEnd] then empty else node fuel true true
      let value ←
        if ← take? .value then
          if ← isAt [.key, .value, .blockEnd] then empty else node fuel true true
        else empty
      return (key, value) :: (← blockEntries fuel)
    else
      expect .blockEnd
      return []

/-- The items of a flow sequence, up to its end. A key makes a mapping of one entry. -/
def flowItems : Nat → Bool → Drafting (List Nat)
  | 0, _ => throw .malformed
  | fuel + 1, isFirst => do
    if ← take? .flowSequenceEnd then return []
    if !isFirst then expect .flowEntry
    if ← take? .flowSequenceEnd then return []
    let id ←
      if ← take? .key then
        mapping none none do
          let key ←
            if ← isAt [.value, .flowEntry, .flowSequenceEnd] then empty else node fuel false false
          let value ←
            if ← take? .value then
              if ← isAt [.flowEntry, .flowSequenceEnd] then empty else node fuel false false
            else empty
          return [(key, value)]
      else node fuel false false
    return id :: (← flowItems fuel false)

/-- The entries of a flow mapping, up to its end. -/
def flowEntries : Nat → Bool → Drafting (List (Nat × Nat))
  | 0, _ => throw .malformed
  | fuel + 1, isFirst => do
    if ← take? .flowMappingEnd then return []
    if !isFirst then expect .flowEntry
    if ← take? .flowMappingEnd then return []
    let entry ←
      if ← take? .key then do
        let key ←
          if ← isAt [.value, .flowEntry, .flowMappingEnd] then empty else node fuel false false
        let value ←
          if ← take? .value then
            if ← isAt [.flowEntry, .flowMappingEnd] then empty else node fuel false false
          else empty
        pure (key, value)
      else do
        let key ← node fuel false false
        pure (key, ← empty)
    return entry :: (← flowEntries fuel false)

end

/-- The handles that every document has. -/
def ownHandles : List (List Char × List Char) :=
  [(['!'], ['!']), (['!', '!'], Tag.root.toList)]

/-- The directives before a document. -/
def directives : Nat → Bool → List (List Char × List Char) → Drafting Unit
  | 0, _, _ => throw .malformed
  | fuel + 1, hasVersion, handles => do
    match ← peek with
    | .directive d =>
      drop
      match d with
      | .version major =>
        if hasVersion || major != 1 then throw .malformed
        directives fuel true handles
      | .tag handle expansion =>
        if (handles.lookup handle).isSome then throw .malformed
        directives fuel hasVersion ((handle, expansion) :: handles)
      | .other => directives fuel hasVersion handles
    | _ => modify fun d => { d with handles := handles ++ ownHandles }

/-- Past the marks of documents' ends. -/
def documentEnds : Nat → Drafting Unit
  | 0 => return
  | fuel + 1 => do
    if ← take? .documentEnd then documentEnds fuel

def isDirective : Token → Bool
  | .directive _ => true
  | _ => false

/-- The only document of a text, none where there is none. -/
def document (fuel : Nat) : Drafting (Option Nat) := do
  let t ← peek
  if !isDirective t && t != .documentStart && t != .streamEnd then
    modify fun d => { d with handles := ownHandles }
    return some (← node fuel true false)
  else if t = .streamEnd then return none
  else
    directives fuel false []
    expect .documentStart
    let t ← peek
    if isDirective t || [Token.documentStart, .documentEnd, .streamEnd].contains t then
      return some (← empty)
    else return some (← node fuel true false)

/-- A text with at most one document. -/
def stream (fuel : Nat) : Drafting (Option Nat) := do
  let root ← document fuel
  documentEnds fuel
  if (← peek) != .streamEnd then throw .malformed
  return root

end Drafting

/-- The graph of a text, none where it has no document. -/
def ofText (text : List Char) : Except Failure (Option Graph) :=
  let (ts, failure) := tokens text
  match (Drafting.stream (4 * ts.length + 8)).run { tokens := ts } with
  | .ok (root, d) => .ok (root.map fun id => ⟨d.nodes, id⟩)
  | .error .malformed => .error .malformed
  | .error .exhausted => .error (failure.getD .malformed)

end Graph

end Yaml
end CallPolicy

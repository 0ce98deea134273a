import CallPolicy.Yaml.Graph
import CallPolicy.Yaml.Scalars

/-!
# CallPolicy.Yaml.Value

The value of a graph. First every node is looked at once, level by level, which finds out the first
failure; then the value is put together. A collection that holds itself stands at that place as
such.
-/

namespace CallPolicy
namespace Yaml
namespace Graph

def node? (g : Graph) (id : Nat) : Option Node := g.nodes[id]?

def tagOf (g : Graph) (id : Nat) : Tag := ((g.node? id).map Node.tag).getD .unknown

/-- The text that a node of a scalar's type has: its own, or that of the entry of a mapping that is
marked as its value. -/
def textOf (g : Graph) : Nat → Nat → Except Failure (List Char)
  | 0, _ => .error .malformed
  | fuel + 1, id =>
    match g.node? id with
    | some (.scalar _ text) => .ok text
    | some (.mapping _ entries) =>
      match entries.find? fun (key, _) => g.tagOf key = .value with
      | some (_, value) => textOf g fuel value
      | none => .error .malformed
    | _ => .error .malformed

/-- The value of a node, none for collections. -/
def scalar? (g : Graph) (id : Nat) : Except Failure (Option Datum) :=
  let tag := g.tagOf id
  if tag.isCollection then .ok none
  else if tag.isBare then .error .malformed
  else do
    let text ← textOf g (g.nodes.size + 1) id
    return some (← scalarValue tag text)

/-- The value of a key. The sign of a value is text there. -/
def key (g : Graph) (id : Nat) : Except Failure Datum :=
  match g.tagOf id with
  | .value => (textOf g (g.nodes.size + 1) id).map fun cs => .text (String.ofList cs)
  | _ => do
    match ← g.scalar? id with
    | some d => return d
    | none => throw .malformed

/-- The entries of a mapping, those of the mappings merged into it before its own. A mapping merged
into itself adds nothing. -/
def entries (g : Graph) : Nat → List Nat → Nat → Except Failure (List (Nat × Nat))
  | 0, _, _ => .ok []
  | fuel + 1, path, id =>
    match g.node? id with
    | some (.mapping _ all) => do
      let own := all.filter fun (k, _) => g.tagOf k != .merge
      if path.contains id then return own
      let path := id :: path
      let merged ← (all.filter fun (k, _) => g.tagOf k == .merge).mapM fun (_, value) =>
        match g.node? value with
        | some (.mapping ..) => entries g fuel path value
        | some (.sequence _ items) => do
          let parts ← items.mapM fun item =>
            match g.node? item with
            | some (.mapping ..) => entries g fuel path item
            | _ => .error .malformed
          return parts.reverse.flatten
        | _ => .error .malformed
      return merged.flatten ++ own
    | _ => .error .malformed

/-- The entries of a mapping with all that is merged into it. -/
def mappingEntries (g : Graph) (id : Nat) : Except Failure (List (Nat × Nat)) :=
  entries g (g.nodes.size + 1) [] id

/-- The only entry of a mapping. -/
def singleEntry (g : Graph) (id : Nat) : Except Failure (Nat × Nat) :=
  match g.node? id with
  | some (.mapping _ [entry]) => .ok entry
  | _ => .error .malformed

def items (g : Graph) (id : Nat) : Except Failure (List Nat) :=
  match g.node? id with
  | some (.sequence _ items) => .ok items
  | _ => .error .malformed

/-- Looks at a node inside a collection, and gives it back if it is a collection itself. -/
def visit (g : Graph) (id : Nat) : Except Failure (List Nat) := do
  match ← g.scalar? id with
  | some _ => return []
  | none => return [id]

/-- Looks at the entries of a mapping in order, each key before its value. -/
def visitEntries (g : Graph) : List (Nat × Nat) → Except Failure (List Nat)
  | [] => .ok []
  | (k, v) :: rest => do
    let _ ← g.key k
    let inner ← g.visit v
    return inner ++ (← visitEntries g rest)

/-- Looks at what a collection holds, and gives the collections among it. -/
def open_ (g : Graph) (id : Nat) : Except Failure (List Nat) := do
  match g.tagOf id with
  | .sequence => return (← (← g.items id).mapM g.visit).flatten
  | .orderedMapping | .pairs =>
    let inner ← (← g.items id).mapM fun item => do
      let (k, v) ← g.singleEntry item
      return (← g.visit k) ++ (← g.visit v)
    return inner.flatten
  | _ => g.visitEntries (← g.mappingEntries id)

/-- Looks at collections in turn, each once. -/
def checkFrom (g : Graph) : Nat → List Nat → List Nat → Except Failure Unit
  | 0, _, _ | _ + 1, _, [] => .ok ()
  | fuel + 1, seen, id :: queue => do
    if seen.contains id then checkFrom g fuel seen queue
    else
      let inner ← g.open_ id
      checkFrom g fuel (id :: seen) (queue ++ inner)

/-- How many places of nodes there are in a graph. -/
def size (g : Graph) : Nat :=
  (g.nodes.toList.map fun n =>
    match n with
    | .scalar .. => 1
    | .sequence _ items => 1 + items.length
    | .mapping _ entries => 1 + 2 * entries.length).foldl (· + ·) 1

/-- What a collection shows as inside itself. -/
def enclosing (tag : Tag) : Datum :=
  match tag with
  | .sequence | .orderedMapping | .pairs => .enclosingList
  | _ => .enclosingMapping

/-- Puts a mapping together; a later value of a key takes the place of an earlier one. -/
def mappingOf (entries : List (Datum × Datum)) : List (Datum × Datum) :=
  entries.foldl (fun d (k, v) => Datum.put k v d) []

/-- The value of a node. `path` holds the collections around it. -/
def build (g : Graph) : Nat → List Nat → Nat → Except Failure Datum
  | 0, _, _ => .error .malformed
  | fuel + 1, path, id => do
    match ← g.scalar? id with
    | some d => return d
    | none =>
      let tag := g.tagOf id
      if path.contains id then return enclosing tag
      let path := id :: path
      match tag with
      | .sequence => return .list (← (← g.items id).mapM (build g fuel path))
      | .orderedMapping | .pairs =>
        return .list (← (← g.items id).mapM fun item => do
          let (k, v) ← g.singleEntry item
          return .pair (← build g fuel path k) (← build g fuel path v))
      | .set =>
        let keys ← (← g.mappingEntries id).mapM fun (k, _) => g.key k
        return .set ((mappingOf (keys.map fun k => (k, .null))).map (·.1))
      | _ =>
        let es ← (← g.mappingEntries id).mapM fun (k, v) => do
          return (← g.key k, ← build g fuel path v)
        return .mapping (mappingOf es)

/-- The value of a whole graph. The values in a mapping at its root are put together one by one, so
that each shows the root in full where it holds it. -/
def value (g : Graph) : Except Failure Datum := do
  let fuel := g.nodes.size + 2
  match ← g.scalar? g.root with
  | some d => return d
  | none =>
    checkFrom g (g.size * (g.size + 1)) [] [g.root]
    match g.tagOf g.root with
    | .mapping =>
      let es ← (← g.mappingEntries g.root).mapM fun (k, v) => do
        return (← g.key k, ← build g fuel [] v)
      return .mapping (mappingOf es)
    | _ => build g fuel [] g.root

end Graph
end Yaml
end CallPolicy

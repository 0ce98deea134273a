import CallPolicy.Path
import CallPolicy.Tree

/-!
# CallPolicy.Walk

The part of a syntax tree that belongs to one source file, laid out as nodes in source order. Nodes
that lie in another file are left out with all below them. A node knows those above and below it by
where they are kept; `Walk.places` reads the places back from these links. A walk remembers the
paths it has resolved.
-/

namespace CallPolicy
namespace Walk

/-- Where a node is kept. -/
abbrev Link := Nat

/-- A node of a walked tree. -/
structure Node where
  facts : Facts
  parent : Option Link
  children : List Link := []

/-- Files whose paths have been resolved. -/
abbrev Memory := List (String × String)

/-- What a walk adds to: the nodes there are, the list of nodes to go over, and its memory. -/
structure Store where
  nodes : List Node := []
  listed : List Link := []
  memory : Memory := []

/-- The path of a file, resolved unless it is remembered. -/
def recallPath (realpath : String → String) (file : String) : StateM Store String := do
  match (← get).memory.lookup file with
  | some path => return path
  | none =>
    let path := realpath file
    modify fun s => { s with memory := (file, path) :: s.memory }
    return path

/-- The file a text names, if it is not empty. -/
def named? : Option String → Option String
  | some s => if s = "" then none else some s
  | none => none

/-- Whether a node in `file` belongs to `target`. Without a target, and without a file, it does. -/
def belongs (realpath : String → String) (target file : Option String) : Bool :=
  match named? target, named? file with
  | some t, some f => realpath f == t
  | _, _ => true

/-- The same, with paths as `resolve` gives them. -/
def belongsM (resolve : String → StateM Store String) (target file : Option String) :
    StateM Store Bool :=
  match named? target, named? file with
  | some t, some f => return (← resolve f) == t
  | _, _ => return true

/-- Keeps a new node and lists it. -/
def add (n : Node) : StateM Store Link := do
  let here := (← get).nodes.length
  modify fun s => { s with nodes := s.nodes ++ [n], listed := s.listed ++ [here] }
  return here

/-- Puts a node after the other children of its parent. -/
def adopt (parent child : Link) : StateM Store Unit :=
  modify fun s =>
    { s with nodes := s.nodes.modify parent fun n => { n with children := n.children ++ [child] } }

mutual

/-- Lays out what belongs to the target, and tells where the root is kept, if it is. -/
def visit (resolve : String → StateM Store String) (target : Option String)
    (parent : Option Link) : Tree → StateM Store (Option Link)
  | .node facts children => do
    if ← belongsM resolve target facts.file then
      let here ← add { facts := facts.attached, parent }
      visitAll resolve target here children
      return some here
    else return none

def visitAll (resolve : String → StateM Store String) (target : Option String) (here : Link) :
    List Tree → StateM Store Unit
  | [] => return ()
  | t :: rest => do
    match ← visit resolve target (some here) t with
    | some child => adopt here child
    | none => pure ()
    visitAll resolve target here rest

end

/-- The trees below the nodes that are kept from `first` on. A node is kept before its children, so
they are read from the back. -/
def treesFrom (first : Link) : List Node → List Tree
  | [] => []
  | n :: rest =>
    let later := treesFrom (first + 1) rest
    .node n.facts (n.children.filterMap fun c => later[c - (first + 1)]?) :: later

/-- What is above the node that is kept next after those read. -/
def aboveNext (nodes : List Node) (read : List Place) (n : Node) : List (Tree × Nat) :=
  match n.parent with
  | none => []
  | some q =>
    match nodes[q]?, read[q]? with
    | some m, some p => (p.tree, m.children.idxOf read.length) :: p.above
    | _, _ => []

/-- The places of nodes, in the order they are kept in. -/
def places (nodes : List Node) : List Place :=
  (nodes.zip (treesFrom 0 nodes)).foldl
    (fun read (n, t) => read ++ [⟨t, aboveNext nodes read n⟩]) []

end Walk

/-- The places of a tree that belong to the target, parents before children. -/
def walkBy (realpath : String → String) (target : Option String) (t : Tree) : List Place :=
  let s := ((Walk.visit (Walk.recallPath realpath) target none t).run {}).2
  let places := Walk.places s.nodes
  s.listed.filterMap fun link => places[link]?

/-- The same where paths have no symbolic links. -/
def walk (target : Option String) (t : Tree) : List Place := walkBy Path.resolved target t

end CallPolicy

import CallPolicy.Coordinate

/-!
# CallPolicy.Tree

Syntax trees of C++ sources, as a parser hands them over. A `Place` is one node of a tree together
with the way down to it, so that it knows its parent as well as its children.
-/

namespace CallPolicy

/-- The kinds of nodes that calls are recognised by; any other kind keeps its name. -/
inductive NodeKind where
  | call
  | newExpr
  | unexposed
  | paren
  | declRef
  | memberRef
  | overloadedRef
  | variableDecl
  | fieldDecl
  | constructor
  | other (name : String)
  deriving DecidableEq

namespace NodeKind

def name : NodeKind → String
  | call => "CALL_EXPR"
  | newExpr => "CXX_NEW_EXPR"
  | unexposed => "UNEXPOSED_EXPR"
  | paren => "PAREN_EXPR"
  | declRef => "DECL_REF_EXPR"
  | memberRef => "MEMBER_REF_EXPR"
  | overloadedRef => "OVERLOADED_DECL_REF"
  | variableDecl => "VAR_DECL"
  | fieldDecl => "FIELD_DECL"
  | constructor => "CONSTRUCTOR"
  | other name => name

def known : List NodeKind :=
  [call, newExpr, unexposed, paren, declRef, memberRef, overloadedRef, variableDecl, fieldDecl,
    constructor]

def ofName (s : String) : NodeKind := (known.find? (·.name == s)).getD (other s)

/-- Kinds that only wrap an expression. -/
def isWrapper (k : NodeKind) : Bool := k == unexposed || k == paren

/-- Kinds that name what is called. -/
def isCallee (k : NodeKind) : Bool := k == declRef || k == memberRef || k == overloadedRef

/-- Declarations whose initializer is written after their name. -/
def isDeclaration (k : NodeKind) : Bool := k == variableDecl || k == fieldDecl

end NodeKind

/-- An argument of a call: missing from the tree, or with the file and line its text starts at. -/
inductive Argument where
  | missing
  | starting (file : Option String) (line : Int)
  deriving DecidableEq

/-- Default arguments are filled in by the parser and start nowhere. -/
def Argument.isWritten : Argument → Bool
  | missing => false
  | starting file line => file.isSome && 0 < line

/-- What a node says about itself. -/
structure Facts where
  kind : Option NodeKind := none
  name : Option String := none
  line : Coordinate := .absent
  column : Coordinate := .absent
  file : Option String := none
  tokens : List String := []
  arguments : List Argument := []
  /-- The kind of what the node refers to. -/
  referenced : Option NodeKind := none
  /-- Set when the node's parent is not known to it. -/
  detached : Bool := false

/-- The same of a node that knows its parent. -/
def Facts.attached (f : Facts) : Facts := { f with detached := false }

inductive Tree where
  | node (facts : Facts) (children : List Tree)

namespace Tree

def facts : Tree → Facts
  | node facts _ => facts

def children : Tree → List Tree
  | node _ children => children

def isWrapper (t : Tree) : Bool := t.facts.kind.any NodeKind.isWrapper

end Tree

/-- A node with the nodes above it, nearest first, each with the index of the child on the way
down. -/
structure Place where
  tree : Tree
  above : List (Tree × Nat)

namespace Place

def facts (p : Place) : Facts := p.tree.facts

def hasKind (p : Place) (k : NodeKind) : Bool := p.facts.kind == some k

/-- The indices of the children on the way down, from the root. -/
def path (p : Place) : List Nat := (p.above.map (·.2)).reverse

def parent? (p : Place) : Option Place :=
  match p.above with
  | [] => none
  | (t, _) :: above => if p.facts.detached then none else some ⟨t, above⟩

def children (p : Place) : List Place :=
  p.tree.children.zipIdx.map fun (t, i) => ⟨t, (p.tree, i) :: p.above⟩

end Place

mutual

/-- The places of a tree, each before those below it. -/
def Tree.places (above : List (Tree × Nat)) : Tree → List Place
  | .node facts children =>
    let here := Tree.node facts children
    ⟨here, above⟩ :: placesOfChildren here above 0 children

/-- The places of the children of `parent` from the one with the given index on. -/
def placesOfChildren (parent : Tree) (above : List (Tree × Nat)) (index : Nat) :
    List Tree → List Place
  | [] => []
  | child :: rest =>
    child.places ((parent, index) :: above) ++ placesOfChildren parent above (index + 1) rest

end

end CallPolicy

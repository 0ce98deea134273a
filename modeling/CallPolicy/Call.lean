import CallPolicy.Call.Callee
import CallPolicy.Call.Creation
import CallPolicy.Tree

/-!
# CallPolicy.Call

Recognising calls in a syntax tree. `describe` tells the shape of what stands at a place, the name
called and the number of arguments written; `site?` keeps the calls that rules are checked against.
-/

namespace CallPolicy
namespace Call

inductive Shape where
  | plain
  | qualified
  | construction
  /-- A constructor reached without an argument list of its own. -/
  | constructorReference
  /-- An array: a size, but no constructor arguments. -/
  | arrayCreation
  | notACall
  deriving DecidableEq

namespace Shape

def text : Shape → String
  | plain => "plain call"
  | qualified => "qualified call"
  | construction => "constructor call"
  | constructorReference => "constructor reference"
  | arrayCreation => "array creation"
  | notACall => "not a call"

/-- Shapes with arguments to count. -/
def isCheckable (s : Shape) : Bool := s == plain || s == qualified || s == construction

end Shape

/-- What stands at a place. -/
structure Description where
  shape : Shape
  name : Option String
  argumentCount : Nat
  deriving DecidableEq

def notACall : Description := ⟨.notACall, none, 0⟩

/-- A text that is there and not empty. -/
def nonEmpty? : Option String → Option String
  | some s => if s = "" then none else some s
  | none => none

/-- Goes down through wrappers that hold one expression. -/
def unwrapFrom (above : List (Tree × Nat)) : Tree → Place
  | .node facts [child] =>
    if facts.kind.any NodeKind.isWrapper then
      unwrapFrom ((.node facts [child], 0) :: above) child
    else ⟨.node facts [child], above⟩
  | t => ⟨t, above⟩

def unwrap (p : Place) : Place := unwrapFrom p.above p.tree

/-- Goes up through wrappers. `detached` tells whether the node below knows its parent. -/
def ownerAbove (detached : Bool) : List (Tree × Nat) → Option Place
  | [] => none
  | (t, _) :: above =>
    if detached then none
    else if t.isWrapper then ownerAbove t.facts.detached above
    else some ⟨t, above⟩

/-- The nearest node above that is no wrapper. -/
def owner? (p : Place) : Option Place := ownerAbove p.facts.detached p.above

def writtenArguments (f : Facts) : Nat := f.arguments.countP Argument.isWritten

def isConstruct (p : Place) : Bool := p.hasKind .call && p.facts.referenced == some .constructor

/-- The constructor call inside a new-expression: the first child that is one, wrappers aside. -/
def constructorChild? (p : Place) : Option Place :=
  (p.children.map unwrap).find? isConstruct

/-- A new-expression. The arguments are those of its constructor call where the tree has one, and
otherwise the items of the written initializer. -/
def describeNew (p : Place) : Description :=
  let creation := Creation.ofTokens p.facts.tokens
  match nonEmpty? creation.typeName with
  | none => notACall
  | some name =>
    match creation.opener with
    | some "[" => ⟨.arrayCreation, some name, 0⟩
    | some "(" | some "\x7b" =>
      match constructorChild? p with
      | some child => ⟨.construction, some name, writtenArguments child.facts⟩
      | none => ⟨.construction, some name, countItems creation.initializer⟩
    | _ => ⟨.constructorReference, some name, 0⟩

/-- Whether a constructor call has an argument list of its own: after the name of its type, after
the name of the variable or field it initializes, after a member in a constructor's initializer
list, or in braces on a variable or field. -/
def hasWrittenArguments (p : Place) : Bool :=
  let owner := owner? p
  let ownerKind := owner.bind (·.facts.kind)
  let isDeclared := ownerKind.any NodeKind.isDeclaration
  match p.facts.tokens with
  | [] => false
  | "\x7b" :: _ => isDeclared
  | first :: second :: _ =>
    if second = "(" ∨ second = "\x7b" then
      some first == p.facts.name || ownerKind == some .constructor ||
        (isDeclared && some first == owner.bind (·.facts.name))
    else false
  | _ => false

/-- A constructor call. One that belongs to a new-expression is told by that. -/
def describeConstruct (p : Place) : Description :=
  if (owner? p).any (·.hasKind .newExpr) then notACall
  else
    match nonEmpty? p.facts.name with
    | none => notACall
    | some name =>
      if hasWrittenArguments p then ⟨.construction, some name, writtenArguments p.facts⟩
      else ⟨.constructorReference, some name, 0⟩

/-- The node that names what a call calls. -/
def callee? (p : Place) : Option Place :=
  match p.children with
  | [] => none
  | first :: _ =>
    let callee := unwrap first
    if callee.facts.kind.any NodeKind.isCallee then some callee else none

def callShape (qualified : Bool) : Shape := if qualified then .qualified else .plain

/-- Any other call. One that depends on a template parameter has no resolved name, and is named as
it is written. -/
def describeOther (p : Place) : Description :=
  let callee := callee? p
  let resolved := (nonEmpty? p.facts.name).or (nonEmpty? (callee.bind (·.facts.name)))
  match resolved with
  | some name =>
    let qualified := callee.any fun c => isQualified c.facts.tokens
    ⟨callShape qualified, some name, writtenArguments p.facts⟩
  | none =>
    match writtenCallee p.facts.tokens with
    | none => notACall
    | some tokens =>
      match lastName tokens with
      | none => notACall
      | some name => ⟨callShape (isQualified tokens), some name, writtenArguments p.facts⟩

def describe (p : Place) : Description :=
  if p.hasKind .newExpr then describeNew p
  else if p.hasKind .call then
    if p.facts.referenced == some .constructor then describeConstruct p else describeOther p
  else notACall

/-- A call that rules are checked against. -/
structure Site where
  shape : Shape
  name : String
  argumentCount : Nat
  line : Coordinate
  column : Coordinate

/-- The call at a place, if it has arguments to count; constructor calls only on request. -/
def site? (checkConstructors : Bool) (p : Place) : Option Site :=
  let d := describe p
  match d.name with
  | none => none
  | some name =>
    if d.shape.isCheckable && (checkConstructors || d.shape != .construction) then
      some ⟨d.shape, name, d.argumentCount, p.facts.line, p.facts.column⟩
    else none

end Call
end CallPolicy

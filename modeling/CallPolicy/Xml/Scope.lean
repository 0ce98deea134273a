import CallPolicy.Xml.Entity

/-!
# CallPolicy.Xml.Scope

Namespaces in scope, and the full names of elements and attributes: the namespace in braces and the
local name, or the local name alone where there is no namespace.
-/

namespace CallPolicy
namespace Xml

/-- The namespace that each prefix stands for, innermost declaration first. The empty prefix stands
for names without one, and an empty namespace for none. -/
structure Scope where
  bindings : List (List Char × List Char)

namespace Scope

/-- The names that the standard keeps for itself lie under one host. -/
def reservedName (path : String) : List Char :=
  (String.intercalate "/" ["http:", "", "www.w3.org", path]).toList

def xmlNamespace : List Char := reservedName "XML/1998/namespace"

def declarationNamespace : List Char := reservedName "2000/xmlns/"

/-- At the start of a document only the prefix `xml` has a namespace. -/
def initial : Scope := ⟨[(['x', 'm', 'l'], xmlNamespace)]⟩

def namespace? (s : Scope) (label : List Char) : Option (List Char) :=
  match s.bindings.lookup label with
  | some [] | none => none
  | some uri => some uri

/-- Declares the namespace of a prefix. -/
def declare (s : Scope) (label uri : List Char) : Except Cause Scope :=
  if uri.isEmpty && !label.isEmpty then .error .undeclaredPrefix
  else if label = "xmlns".toList then .error .reservedXmlnsPrefix
  else if uri.contains '}' then .error .syntaxError
  else if label = "xml".toList then
    if uri = xmlNamespace then .ok ⟨(label, uri) :: s.bindings⟩ else .error .reservedXmlPrefix
  else if uri = xmlNamespace || uri = declarationNamespace then .error .reservedNamespace
  else .ok ⟨(label, uri) :: s.bindings⟩

/-- The prefix and the local part of a name with a colon. -/
def split? (name : List Char) : Option (List Char × List Char) :=
  let label := name.takeWhile (· != ':')
  match name.drop label.length with
  | _ :: rest => some (label, rest)
  | [] => none

def full (uri name : List Char) : List Char := '{' :: uri ++ '}' :: name

/-- The full name of an element. -/
def elementName (s : Scope) (name : List Char) : Except Cause (List Char) :=
  match split? name with
  | some (label, rest) =>
    match s.namespace? label with
    | some uri => .ok (full uri rest)
    | none => .error .unboundPrefix
  | none =>
    match s.namespace? [] with
    | some uri => .ok (full uri name)
    | none => .ok name

/-- The full name of an attribute. One without a prefix is in no namespace. -/
def attributeName (s : Scope) (name : List Char) : Except Cause (List Char) :=
  match split? name with
  | some _ => s.elementName name
  | none => .ok name

/-- The prefix whose namespace an attribute declares. -/
def declared? (name : List Char) : Option (List Char) :=
  if name = "xmlns".toList then some []
  else
    match split? name with
    | some (label, rest) => if label = "xmlns".toList then some rest else none
    | none => none

end Scope

/-- The name, the attributes and the scope of an element as its tag gives them. -/
structure Tag where
  name : List Char
  attributes : List (List Char × List Char)
  scope : Scope

namespace Tag

/-- Attributes as far as a tag has been gone through: those that declare no namespace, by their
written names. -/
structure Progress where
  scope : Scope
  seen : List (List Char)
  values : List (List Char × List Char)

def Progress.add (g : Progress) (start : Position) (name value : List Char) :
    Except Fault Progress :=
  match Scope.declared? name with
  | some label =>
    match g.scope.declare label value with
    | .ok scope => .ok { g with scope, seen := name :: g.seen }
    | .error cause => .error ⟨cause, start⟩
  | none => .ok { g with seen := name :: g.seen, values := g.values ++ [(name, value)] }

/-- Takes in the attributes that a tag states. -/
def stated (d : Doctype) (start : Position) (element : List Char) (g : Progress) :
    List Attribute → Except Fault Progress
  | [] => .ok g
  | a :: rest => do
    if g.seen.contains a.name then throw ⟨.duplicateAttribute, a.position⟩
    let isWords := ((d.attributesOf element).find? (·.name == a.name)).any (·.isWords)
    let value ← valueOf d start isWords a.value
    stated d start element (← g.add start a.name value) rest

/-- Takes in the attributes that a tag leaves out and that have a default. -/
def defaulted (start : Position) (g : Progress) : List AttributeRule → Except Fault Progress
  | [] => .ok g
  | r :: rest =>
    match r.byDefault with
    | some value =>
      if g.seen.contains r.name then defaulted start g rest
      else do defaulted start (← g.add start r.name value) rest
    | none => defaulted start g rest

/-- Gives attributes their full names. No two with a prefix may have the same. -/
def named (start : Position) (scope : Scope) (seen : List (List Char)) :
    List (List Char × List Char) → Except Fault (List (List Char × List Char))
  | [] => .ok []
  | (name, value) :: rest =>
    match scope.attributeName name with
    | .error cause => .error ⟨cause, start⟩
    | .ok fullName =>
      if seen.contains fullName then .error ⟨.duplicateAttribute, start⟩
      else do
        return (fullName, value) :: (← named start scope (fullName :: seen) rest)

/-- What a tag at `start` says in the scope around it. -/
def read (d : Doctype) (outer : Scope) (start : Position) (name : List Char)
    (attributes : List Attribute) : Except Fault Tag := do
  let g ← stated d start name ⟨outer, [], []⟩ attributes
  let g ← defaulted start g (d.attributesOf name)
  let values ← named start g.scope [] g.values
  match g.scope.elementName name with
  | .ok fullName => return ⟨fullName, values, g.scope⟩
  | .error cause => throw ⟨cause, start⟩

end Tag

end Xml
end CallPolicy

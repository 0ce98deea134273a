import CallPolicy.Xml.Markup

/-!
# CallPolicy.Xml.Entity

What a document type says about entities and attributes, and the values that attributes have under
it: references replaced, every blank a space, and in values that are lists of words one space
between words and none at the ends.
-/

namespace CallPolicy
namespace Xml

inductive Entity where
  | internal (text : List Char)
  | external
  /-- An entity that is no XML. -/
  | unparsed
  deriving DecidableEq

/-- What is declared about an attribute of an element. -/
structure AttributeRule where
  element : List Char
  name : List Char
  isWords : Bool
  byDefault : Option (List Char)

structure Doctype where
  entities : List (List Char × Entity) := []
  attributes : List AttributeRule := []
  /-- Set when parts of the document type may stand elsewhere. -/
  hasOutside : Bool := false
  standalone : Bool := false
  /-- Cleared where declarations are no longer taken in. -/
  isTaking : Bool := true

namespace Doctype

def entity? (d : Doctype) (name : List Char) : Option Entity := d.entities.lookup name

/-- The first declaration of an entity counts. -/
def addEntity (d : Doctype) (name : List Char) (e : Entity) : Doctype :=
  if d.isTaking && (d.entity? name).isNone then { d with entities := d.entities ++ [(name, e)] }
  else d

/-- A default counts only where nothing was declared about the attribute before. -/
def addAttribute (d : Doctype) (r : AttributeRule) : Doctype :=
  let isDeclared := d.attributes.any fun q => q.element == r.element && q.name == r.name
  if d.isTaking && !(r.byDefault.isSome && isDeclared) then
    { d with attributes := d.attributes ++ [r] }
  else d

def attributesOf (d : Doctype) (element : List Char) : List AttributeRule :=
  d.attributes.filter (·.element == element)

/-- Whether a reference to what is not declared is a fault. -/
def isComplete (d : Doctype) : Bool := !d.hasOutside || d.standalone

end Doctype

/-- The entities that every document has. -/
def predefined? (name : List Char) : Option Char :=
  match String.ofList name with
  | "amp" => some '&'
  | "lt" => some '<'
  | "gt" => some '>'
  | "quot" => some '"'
  | "apos" => some '\''
  | _ => none

/-- A value as written, with the line ends of two characters made one. -/
def joinLines : List Piece → List Piece
  | .char '\r' :: .char '\n' :: rest => .char '\n' :: joinLines rest
  | p :: rest => p :: joinLines rest
  | [] => []

/-- Adds a space to a value that is held last character first. -/
def addSpace (isWords : Bool) (value : List Char) : List Char :=
  if isWords && (value.isEmpty || value.head? == some ' ') then value else ' ' :: value

/-- Adds pieces to a value that is held last character first. `start` is the position for faults in
the text of an entity, `opened` the entities under way. Each level of entities takes one unit of
depth, and no entity is under way twice. -/
def addPieces (d : Doctype) (start : Position) (isWords : Bool) :
    Nat → List (List Char) → List Char → List Piece → Except Fault (List Char)
  | 0, _, value, _ => .ok value
  | depth + 1, opened, value, written =>
    (joinLines written).foldlM (fun value piece =>
      match piece with
      | .char c => .ok (if isBlank c then addSpace isWords value else c :: value)
      | .reference (.character none) p => .error ⟨.badCharacterNumber, p⟩
      | .reference (.character (some ' ')) _ => .ok (addSpace isWords value)
      | .reference (.character (some c)) _ => .ok (c :: value)
      | .reference (.entity name) p =>
        match predefined? name with
        | some c => .ok (c :: value)
        | none =>
          match d.entity? name with
          | none => if d.isComplete then .error ⟨.undefinedEntity, start⟩ else .ok value
          | some e =>
            if opened.contains name then .error ⟨.recursiveEntity, p⟩
            else
              match e with
              | .unparsed => .error ⟨.binaryEntity, p⟩
              | .external => .error ⟨.externalInAttribute, p⟩
              | .internal text =>
                addPieces d start isWords depth (name :: opened) value
                  (pieces (text.length + 1) (signsAt start text))
      | .flaw f => .error (f.fault start)) value

/-- The value of an attribute. -/
def valueOf (d : Doctype) (start : Position) (isWords : Bool) (written : List Piece) :
    Except Fault (List Char) := do
  let reversed ← addPieces d start isWords (d.entities.length + 1) [] [] written
  let trimmed := if isWords && reversed.head? == some ' ' then reversed.tail else reversed
  return trimmed.reverse

end Xml
end CallPolicy

import CallPolicy.Xml.Scope

/-!
# CallPolicy.Xml.Element

Elements, and the reading of content: from the root element's tag up to its end. The text of an
entity is read like the document's own, in the place of its reference, and has to hold whole
elements.
-/

namespace CallPolicy
namespace Xml

/-- An element by its full name. Text is not kept. -/
inductive Element where
  | node (name : String) (attributes : List (String × String)) (children : List Element)

namespace Element

def name : Element → String
  | node name _ _ => name

def attributes : Element → List (String × String)
  | node _ attributes _ => attributes

def children : Element → List Element
  | node _ _ children => children

def ofTag (t : Tag) (children : List Element) : Element :=
  node (String.ofList t.name)
    (t.attributes.map fun (k, v) => (String.ofList k, String.ofList v)) children

end Element

namespace Content

/-- An element whose end tag is still to come, with its children so far, last first. -/
structure Frame where
  written : List Char
  tag : Tag
  children : List Element

def Frame.element (f : Frame) : Element := .ofTag f.tag f.children.reverse

/-- Open elements, innermost first. -/
abbrev Frames := List Frame

def scope : Frames → Scope
  | [] => .initial
  | f :: _ => f.tag.scope

/-- Where reading has come to. -/
inductive Stop where
  /-- The root element is closed. -/
  | closed (root : Element) (after : Signs)
  /-- The signs are at their end. -/
  | ended (open_ : Frames)

/-- Adds a complete element: to the one around it, or as the root. -/
def add (e : Element) : Frames → Frames ⊕ Element
  | [] => .inr e
  | f :: outer => .inl ({ f with children := e :: f.children } :: outer)

/-- A section of plain text up to `]]>`. -/
def plainSection (last : Position) : Signs → Except Fault Signs
  | [] => .error ⟨.unclosedSection, last⟩
  | s :: rest =>
    match s.mark with
    | .bad | .broken => .error ⟨.invalidToken, s.position⟩
    | .cut => .error ⟨.partialCharacter, s.position⟩
    | .char ']' =>
      match rest with
      | [] => .error ⟨.unclosedSection, s.position⟩
      | t :: more =>
        if t.is ']' then
          match more with
          | [] => .error ⟨.unclosedSection, s.position⟩
          | u :: after => if u.is '>' then .ok after else plainSection last (t :: more)
        else plainSection last (t :: more)
    | .char '\r' =>
      if rest.isEmpty then .error ⟨.unclosedSection, s.position⟩ else plainSection last rest
    | .char _ => plainSection last rest

/-- What a message shows of a reference: at most 99 octets. -/
def cutReference (name : List Char) : String :=
  let octets := (Text.Utf8.encode ('&' :: name ++ [';'])).take 99
  String.ofList (Text.Utf8.decodeLossy octets)

/-- Reads content. `base` elements were open where these signs begin, and stay open; `enter` reads
the text of an entity. -/
def run (d : Doctype) (last : Position) (base : Nat)
    (enter : List Char → Position → Frames → Except Fault Frames) :
    Nat → Frames → Signs → Except Fault Stop
  | 0, frames, _ | _ + 1, frames, [] => .ok (.ended frames)
  | fuel + 1, frames, s :: rest =>
    match contentToken s rest with
    | .error flaw => .error (flaw.fault s.position)
    | .ok (token, after) =>
      match token with
      | .text _ =>
        if s.is '\r' && after.isEmpty && base = 0 then .error ⟨.noElement, s.position⟩
        else run d last base enter fuel frames after
      | .comment | .instruction => run d last base enter fuel frames after
      | .declaration .. => .error ⟨.misplacedDeclaration, s.position⟩
      | .sectionOpen => do
        let after ← plainSection last after
        run d last base enter fuel frames after
      | .reference (.character none) => .error ⟨.badCharacterNumber, s.position⟩
      | .reference (.character (some _)) => run d last base enter fuel frames after
      | .reference (.entity name) => do
        let frames ← enter name s.position frames
        run d last base enter fuel frames after
      | .startTag name attributes isEmpty => do
        let tag ← Tag.read d (scope frames) s.position name attributes
        if isEmpty then
          match add (.ofTag tag []) frames with
          | .inr root => return .closed root after
          | .inl frames => run d last base enter fuel frames after
        else run d last base enter fuel (⟨name, tag, []⟩ :: frames) after
      | .endTag name p =>
        if frames.length = base then .error ⟨.crossingEntity, s.position⟩
        else
          match frames with
          | [] => .error ⟨.crossingEntity, s.position⟩
          | f :: outer =>
            if f.written ≠ name then .error ⟨.mismatchedTag, p⟩
            else
              match add f.element outer with
              | .inr root => .ok (.closed root after)
              | .inl frames => run d last base enter fuel frames after

/-- Reads the text of an entity at `p`. Each level of entities takes one unit of depth, and no entity
is under way twice. -/
def enterEntity (d : Doctype) :
    Nat → List (List Char) → List Char → Position → Frames → Except Fault Frames
  | 0, _, _, _, frames => .ok frames
  | depth + 1, opened, name, p, frames =>
    if (predefined? name).isSome then .ok frames
    else
      match d.entity? name with
      | none =>
        if d.isComplete then .error ⟨.undefinedEntity, p⟩
        else .error ⟨.unresolved (cutReference name), p⟩
      | some e =>
        if opened.contains name then .error ⟨.recursiveEntity, p⟩
        else
          match e with
          | .unparsed => .error ⟨.binaryEntity, p⟩
          | .external => .error ⟨.unresolved (cutReference name), p⟩
          | .internal text => do
            let base := frames.length
            match ← run d p base (enterEntity d depth (name :: opened)) (text.length + 1) frames
              (signsAt p text) with
            | .ended frames =>
              if frames.length = base then return frames else throw ⟨.crossingEntity, p⟩
            | .closed .. => throw ⟨.crossingEntity, p⟩

/-- Reads the root element, whose tag comes first, and gives it with the signs after it. -/
def root (d : Doctype) (last : Position) (ending : Fault) (signs : Signs) :
    Except Fault (Element × Signs) := do
  match ← run d last 0 (enterEntity d (d.entities.length + 1) []) (signs.length + 1) [] signs with
  | .closed root after => return (root, after)
  | .ended _ => throw ending

end Content
end Xml
end CallPolicy

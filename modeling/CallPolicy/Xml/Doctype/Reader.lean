import CallPolicy.Xml.Doctype.Token
import CallPolicy.Xml.Entity

/-!
# CallPolicy.Xml.Doctype.Reader

Reads a document type declaration: its name, where its outer part stands, and the declarations of
its inner part, of which entities and attributes are kept. Reading stops at the first token that the
grammar has no place for.
-/

namespace CallPolicy
namespace Xml
namespace Doctype

/-- A token, where it begins, and the signs after it. -/
structure Read where
  token : Token
  position : Position
  after : Signs

/-- Where a document ends. -/
structure Ending where
  last : Position
  /-- Half a unit is left. -/
  half : Bool

def Ending.fault (e : Ending) : Fault :=
  if e.half then ⟨.unclosedToken, e.last⟩ else ⟨.noElement, e.last⟩

/-- The next token. -/
def read (e : Ending) : Signs → Except Fault Read
  | [] => .error e.fault
  | s :: rest =>
    match nextToken s rest with
    | .ok (token, after) => .ok ⟨token, s.position, after⟩
    | .error flaw => .error (flaw.fault s.position)

/-- The next token that is no blank. Blanks are one token. -/
def readPast (e : Ending) (signs : Signs) : Except Fault Read := do
  let r ← read e signs
  match r.token with
  | .blanks => read e r.after
  | _ => return r

/-- The fault of a token that does not belong where it stands. -/
def Read.misplaced (r : Read) : Fault :=
  match r.token with
  | .parameter => ⟨.parameterReference, r.position⟩
  | .declaration .. => ⟨.misplacedDeclaration, r.position⟩
  | _ => ⟨.syntaxError, r.position⟩

def Read.isName (r : Read) (word : String) : Bool :=
  match r.token with
  | .name cs => String.ofList cs == word
  | _ => false

/-- A name without a colon. -/
def plain (e : Ending) (signs : Signs) : Except Fault (Found (List Char)) := do
  let r ← readPast e signs
  match r.token with
  | .name cs => return (cs, r.after)
  | _ => throw r.misplaced

/-- A name with or without a colon. -/
def anyName (e : Ending) (signs : Signs) : Except Fault (Found (List Char)) := do
  let r ← readPast e signs
  match r.token with
  | .name cs | .qualified cs => return (cs, r.after)
  | _ => throw r.misplaced

/-- A literal and where it begins. -/
def quoted (e : Ending) (signs : Signs) : Except Fault (Found (Signs × Position)) := do
  let r ← readPast e signs
  match r.token with
  | .literal content => return ((content, r.position), r.after)
  | _ => throw r.misplaced

def close (e : Ending) (signs : Signs) : Except Fault Signs := do
  let r ← readPast e signs
  match r.token with
  | .closing => return r.after
  | _ => throw r.misplaced

def isPublicPart (c : Char) : Bool :=
  c.isAlphanum || " \n\r-'()+,./:=?;!*#@$_%".toList.contains c

/-- A literal that names something for the public. -/
def publicId (e : Ending) (signs : Signs) : Except Fault Signs := do
  let ((content, _), after) ← quoted e signs
  match content.find? fun s => match s.mark with
    | .char c => !isPublicPart c
    | _ => true with
  | some s => throw ⟨.badPublicId, s.position⟩
  | none => return after

/-- The text of an entity: its literal with numbered characters replaced and all line ends made line
feeds. References to entities stay as they are. -/
def entityText : Nat → Signs → Except Fault (List Char)
  | 0, _ | _ + 1, [] => .ok []
  | fuel + 1, s :: rest =>
    match s.mark with
    | .char '&' =>
      match reference rest with
      | .error .unclosed => .error ⟨.invalidToken, s.position⟩
      | .error flaw => .error (flaw.fault s.position)
      | .ok (.character none, _) => .error ⟨.badCharacterNumber, s.position⟩
      | .ok (.character (some c), after) => (entityText fuel after).map (c :: ·)
      | .ok (.entity name, after) =>
        (entityText fuel after).map fun cs => '&' :: name ++ ';' :: cs
    | .char '%' =>
      match percent rest with
      | .error .unclosed => .error ⟨.invalidToken, s.position⟩
      | .error flaw => .error (flaw.fault s.position)
      | .ok (.parameter, _) => .error ⟨.parameterReference, s.position⟩
      | .ok _ =>
        match rest with
        | t :: _ => .error ⟨.invalidToken, t.position⟩
        | [] => .error ⟨.invalidToken, s.position⟩
    | .char '\r' =>
      match rest with
      | t :: more =>
        if t.is '\n' then (entityText fuel more).map ('\n' :: ·)
        else (entityText fuel rest).map ('\n' :: ·)
      | [] => .ok ['\n']
    | .char c => (entityText fuel rest).map (c :: ·)
    | _ => .error ⟨.invalidToken, s.position⟩

/-- Where something stands that is not here: after `SYSTEM` or `PUBLIC`, when `r` is that word. -/
def outside? (e : Ending) (r : Read) : Option (Except Fault Signs) :=
  if r.isName "SYSTEM" then some ((quoted e r.after).map (·.2))
  else if r.isName "PUBLIC" then
    some do
      let after ← publicId e r.after
      let (_, after) ← quoted e after
      return after
  else none

/-- An entity declaration after its first word. -/
def entity (e : Ending) (d : Doctype) (signs : Signs) : Except Fault (Found Doctype) := do
  let r ← readPast e signs
  match r.token with
  | .percent =>
    let (_, after) ← plain e r.after
    let r ← readPast e after
    match r.token with
    | .literal content =>
      if d.isTaking then
        let _ ← entityText (content.length + 1) content
      return (d, ← close e r.after)
    | _ =>
      match outside? e r with
      | some scan => return (d, ← close e (← scan))
      | none => throw r.misplaced
  | .name name =>
    let r ← readPast e r.after
    match r.token with
    | .literal content =>
      if d.isTaking then
        let text ← entityText (content.length + 1) content
        return (d.addEntity name (.internal text), ← close e r.after)
      else return (d, ← close e r.after)
    | _ =>
      match outside? e r with
      | none => throw r.misplaced
      | some scan =>
        let r ← readPast e (← scan)
        match r.token with
        | .closing => return (d.addEntity name .external, r.after)
        | _ =>
          if !r.isName "NDATA" then throw r.misplaced
          let (_, after) ← plain e r.after
          return (d.addEntity name .unparsed, ← close e after)
  | _ => throw r.misplaced

/-- A notation declaration after its first word. -/
def notationDeclaration (e : Ending) (signs : Signs) : Except Fault Signs := do
  let (_, after) ← plain e signs
  let r ← readPast e after
  if r.isName "SYSTEM" then
    let (_, after) ← quoted e r.after
    close e after
  else if r.isName "PUBLIC" then
    let after ← publicId e r.after
    let r ← readPast e after
    match r.token with
    | .closing => return r.after
    | .literal _ => close e r.after
    | _ => throw r.misplaced
  else throw r.misplaced

/-- Words between bars, up to the closing of their group. -/
def choices (e : Ending) (isChoice : Token → Bool) : Nat → Signs → Except Fault Signs
  | 0, _ => .error e.fault
  | fuel + 1, signs => do
    let r ← readPast e signs
    if !isChoice r.token then throw r.misplaced
    let r ← readPast e r.after
    match r.token with
    | .closeGroup _ false => return r.after
    | .bar => choices e isChoice fuel r.after
    | _ => throw r.misplaced

def isEnumerated : Token → Bool
  | .name _ | .qualified _ | .word => true
  | _ => false

def isPlainName : Token → Bool
  | .name _ => true
  | _ => false

/-- The kinds of attributes whose values are words. -/
def wordKinds : List String :=
  ["ID", "IDREF", "IDREFS", "ENTITY", "ENTITIES", "NMTOKEN", "NMTOKENS"]

/-- The kind of an attribute: whether its values are words. -/
def attributeKind (e : Ending) (signs : Signs) : Except Fault (Found Bool) := do
  let r ← readPast e signs
  match r.token with
  | .openGroup => return (true, ← choices e isEnumerated (r.after.length + 1) r.after)
  | _ =>
    if r.isName "CDATA" then return (false, r.after)
    else if wordKinds.any r.isName then return (true, r.after)
    else if r.isName "NOTATION" then
      let r ← readPast e r.after
      match r.token with
      | .openGroup => return (true, ← choices e isPlainName (r.after.length + 1) r.after)
      | _ => throw r.misplaced
    else throw r.misplaced

/-- A default value. -/
def defaultValue (d : Doctype) (isWords : Bool) (content : Signs) (start : Position) :
    Except Fault (Option (List Char)) :=
  if !d.isTaking then .ok none
  else (valueOf d start isWords (pieces (content.length + 1) content)).map some

/-- What an attribute is when a tag leaves it out. -/
def attributeDefault (e : Ending) (d : Doctype) (isWords : Bool) (signs : Signs) :
    Except Fault (Found (Option (List Char))) := do
  let r ← readPast e signs
  match r.token with
  | .literal content => return (← defaultValue d isWords content r.position, r.after)
  | .hashed cs =>
    match String.ofList cs with
    | "IMPLIED" | "REQUIRED" => return (none, r.after)
    | "FIXED" =>
      let ((content, start), after) ← quoted e r.after
      return (← defaultValue d isWords content start, after)
    | _ => throw r.misplaced
  | _ => throw r.misplaced

/-- The attributes of an attribute list declaration. -/
def attributeList (e : Ending) (element : List Char) :
    Nat → Doctype → Signs → Except Fault (Found Doctype)
  | 0, _, _ => .error e.fault
  | fuel + 1, d, signs => do
    let r ← readPast e signs
    match r.token with
    | .closing => return (d, r.after)
    | .name cs | .qualified cs =>
      let (isWords, after) ← attributeKind e r.after
      let (byDefault, after) ← attributeDefault e d isWords after
      attributeList e element fuel (d.addAttribute ⟨element, cs, isWords, byDefault⟩) after
    | _ => throw r.misplaced

/-- Whether a group lists its parts in order or as choices. -/
inductive Joint where
  | sequence
  | choice
  deriving DecidableEq

/-- A content model inside its first group. `groups` holds the joint of each open group, innermost
first; `isPart` tells that a part comes next. -/
def model (e : Ending) : Nat → Bool → List (Option Joint) → Signs → Except Fault Signs
  | 0, _, _, _ => .error e.fault
  | fuel + 1, isPart, groups, signs => do
    let r ← readPast e signs
    if isPart then
      match r.token with
      | .openGroup => model e fuel true (none :: groups) r.after
      | .name _ | .qualified _ | .repeated => model e fuel false groups r.after
      | _ => throw r.misplaced
    else
      let join := fun (j : Joint) =>
        match groups with
        | some k :: _ => if k = j then model e fuel true groups r.after else .error r.misplaced
        | none :: outer => model e fuel true (some j :: outer) r.after
        | [] => .error r.misplaced
      match r.token with
      | .comma => join .sequence
      | .bar => join .choice
      | .closeGroup .. =>
        match groups with
        | [] | [_] => close e r.after
        | _ :: outer => model e fuel false outer r.after
      | _ => throw r.misplaced

/-- Names after bars in a model that begins with text. -/
def mixed (e : Ending) : Nat → Signs → Except Fault Signs
  | 0, _ => .error e.fault
  | fuel + 1, signs => do
    let (_, after) ← anyName e signs
    let r ← readPast e after
    match r.token with
    | .bar => mixed e fuel r.after
    | .closeGroup true _ => close e r.after
    | _ => throw r.misplaced

/-- An element declaration after its first word. -/
def element (e : Ending) (signs : Signs) : Except Fault Signs := do
  let (_, after) ← anyName e signs
  let r ← readPast e after
  match r.token with
  | .openGroup =>
    let s ← readPast e r.after
    match s.token with
    | .hashed cs =>
      if String.ofList cs != "PCDATA" then throw s.misplaced
      let t ← readPast e s.after
      match t.token with
      | .closeGroup isStarred isRepeated =>
        if isRepeated && !isStarred then throw t.misplaced
        close e t.after
      | .bar => mixed e (t.after.length + 1) t.after
      | _ => throw t.misplaced
    | _ => model e (r.after.length + 1) true [none] r.after
  | _ =>
    if r.isName "EMPTY" || r.isName "ANY" then close e r.after else throw r.misplaced

/-- The inner part of a document type, up to its closing bracket. -/
def inner (e : Ending) : Nat → Doctype → Signs → Except Fault (Found Doctype)
  | 0, _, _ => .error e.fault
  | fuel + 1, d, signs => do
    let r ← read e signs
    match r.token with
    | .blanks | .comment | .instruction => inner e fuel d r.after
    | .parameter =>
      inner e fuel { d with hasOutside := true, isTaking := d.isTaking && d.standalone } r.after
    | .closeBracket => return (d, r.after)
    | .opening word =>
      match String.ofList word with
      | "ENTITY" => do
        let (d, after) ← entity e d r.after
        inner e fuel d after
      | "ATTLIST" => do
        let (name, after) ← anyName e r.after
        let (d, after) ← attributeList e name (after.length + 1) d after
        inner e fuel d after
      | "ELEMENT" => do inner e fuel d (← element e r.after)
      | "NOTATION" => do inner e fuel d (← notationDeclaration e r.after)
      | _ => throw r.misplaced
    | _ => throw r.misplaced

/-- A document type declaration after its first word. -/
def declared (e : Ending) (standalone : Bool) (signs : Signs) : Except Fault (Found Doctype) := do
  let d : Doctype := { standalone }
  let (_, after) ← anyName e signs
  let r ← readPast e after
  let (d, r) ←
    match outside? e r with
    | some scan => do pure ({ d with hasOutside := true }, ← readPast e (← scan))
    | none => pure (d, r)
  match r.token with
  | .closing => return (d, r.after)
  | .openBracket =>
    let (d, after) ← inner e (r.after.length + 1) d r.after
    return (d, ← close e after)
  | _ => throw r.misplaced

end Doctype
end Xml
end CallPolicy

import CallPolicy.Xml.CodePages
import CallPolicy.Xml.Markup

/-!
# CallPolicy.Xml.Declaration

The declaration that a document may begin with: its version, its encoding, and whether it stands
alone. A declaration that is not well formed fails at the position where that shows.
-/

namespace CallPolicy
namespace Xml

structure Declaration where
  /-- The name of the encoding and where it stands. -/
  encoding : Option (List Char × Position)
  standalone : Bool

namespace Declaration

/-- A name with a value in quotes. -/
structure Setting where
  name : List Char
  position : Position
  value : List Char
  valuePosition : Position

/-- Where signs begin that end at `last`. -/
def startOf (last : Position) : Signs → Position
  | [] => last
  | s :: _ => s.position

/-- The ASCII character of a sign. -/
def ascii? (s : Sign) : Option Char :=
  match s.mark with
  | .char c => if c.toNat < 128 then some c else none
  | _ => none

/-- A name up to an equals sign, which blanks may precede. -/
def name (last : Position) : Signs → Except Position (Found (List Char))
  | [] => .error last
  | s :: rest =>
    match ascii? s with
    | none => .error s.position
    | some c =>
      if c = '=' then .ok ([], rest)
      else if isBlank c then
        match skipBlanks rest with
        | [] => .error last
        | t :: more => if t.is '=' then .ok ([], more) else .error t.position
      else
        match name last rest with
        | .ok (cs, after) => .ok (c :: cs, after)
        | .error p => .error p

def isValuePart (c : Char) : Bool := c.isAlphanum || c == '.' || c == '-' || c == '_'

/-- A value up to its closing quote. -/
def value (last : Position) (quote : Char) : Signs → Except Position (Found (List Char))
  | [] => .error last
  | s :: rest =>
    match ascii? s with
    | none => .error s.position
    | some c =>
      if c = quote then .ok ([], rest)
      else if isValuePart c then
        match value last quote rest with
        | .ok (cs, after) => .ok (c :: cs, after)
        | .error p => .error p
      else .error s.position

/-- The next setting after blanks, none at the end. -/
def setting? (last : Position) (signs : Signs) : Except Position (Option (Found Setting)) :=
  match signs with
  | [] => .ok none
  | s :: rest =>
    if !s.isBlank then .error s.position
    else
      match skipBlanks rest with
      | [] => .ok none
      | t :: more => do
        if t.is '=' then throw t.position
        let (cs, after) ← name last (t :: more)
        match skipBlanks after with
        | [] => throw last
        | q :: quoted =>
          if q.is '"' || q.is '\'' then
            let (v, after) ← value last (if q.is '"' then '"' else '\'') quoted
            return some (⟨cs, t.position, v, startOf last quoted⟩, after)
          else throw q.position

def isNamed (s : Setting) (word : String) : Bool := String.ofList s.name == word

/-- The last setting of a declaration. -/
def ofStandalone (encoding : Option (List Char × Position)) (s : Setting)
    (after : Signs) : Except Position Declaration :=
  if !isNamed s "standalone" then .error s.position
  else
    let v := String.ofList s.value
    if v != "yes" && v != "no" then .error s.valuePosition
    else
      match skipBlanks after with
      | [] => .ok ⟨encoding, v == "yes"⟩
      | t :: _ => .error t.position

/-- A declaration from the signs between `<?xml` and `?>`. The version comes first, then the
encoding, then whether the document stands alone; only the version has to be there. -/
def ofContent (content : Signs) (last : Position) : Except Position Declaration := do
  let some (version, after) ← setting? last content | throw (startOf last content)
  if !isNamed version "version" then throw version.position
  let some (second, after) ← setting? last after | return ⟨none, false⟩
  if isNamed second "encoding" then
    if !second.value.head?.any Char.isAlpha then throw second.valuePosition
    let encoding := some (second.value, second.valuePosition)
    let some (third, after) ← setting? last after | return ⟨encoding, false⟩
    ofStandalone encoding third after
  else ofStandalone none second after

end Declaration

/-- The encodings that a reader knows by itself. -/
def Encoding.known? (current : Encoding) (name : String) : Option Encoding :=
  match name with
  | "ISO-8859-1" => some latin1
  | "US-ASCII" => some ascii
  | "UTF-8" => some utf8
  | "UTF-16" => some (if current.unitWidth = 2 then current else wide true)
  | "UTF-16BE" => some (wide true)
  | "UTF-16LE" => some (wide false)
  | _ => none

/-- The encoding that a declaration asks for. It has to go with the one that the declaration itself
was read in. -/
def Encoding.switch (current : Encoding) (name : List Char) (p : Position) :
    Except Failure Encoding :=
  match current.known? (String.ofList (name.map Char.toUpper)) with
  | some e =>
    if e.unitWidth != current.unitWidth || (e.unitWidth == 2 && e != current) then
      .error (.fault ⟨.wrongEncoding, p⟩)
    else .ok e
  | none =>
    match CodePages.find name with
    | .octets high => .ok (single high)
    | .foreign => .error (.fault ⟨.unknownEncoding, p⟩)
    | .multibyte => .error .multibyteEncoding
    | .unknown => .error .noSuchEncoding

end Xml
end CallPolicy

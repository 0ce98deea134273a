import CallPolicy.Xml.Declaration
import CallPolicy.Xml.Doctype.Reader
import CallPolicy.Xml.Element

/-!
# CallPolicy.Xml.Document

A whole document: what stands before the root element, the root element, and what stands after it.
-/

namespace CallPolicy
namespace Xml
namespace Document

open Doctype (Ending)

/-- The encoding that the first octets show. -/
def guess : List UInt8 → Encoding
  | 0xFE :: 0xFF :: _ => .wide true
  | 0xFF :: 0xFE :: _ => .wide false
  | 0 :: _ => .wide true
  | _ :: 0 :: _ => .wide false
  | _ => .utf8

/-- Octets too few to show an encoding. -/
def isTooShort : List UInt8 → Bool
  | [b] => [0x00, 0x3C, 0xEF, 0xFE, 0xFF].contains b
  | [a, b] => a == 0xEF && b == 0xBB
  | _ => false

def Ending.ofSource (s : Source) : Ending := ⟨s.last, s.half⟩

/-- What stands after the root element. -/
def epilog (e : Ending) : Nat → Signs → Except Fault Unit
  | 0, _ => .ok ()
  | _ + 1, [] => if e.half then .error e.fault else .ok ()
  | fuel + 1, signs => do
    let r ← Doctype.read e signs
    match r.token with
    | .blanks | .comment | .instruction => epilog e fuel r.after
    | _ => throw ⟨.junkAfterRoot, r.position⟩

/-- What stands before the root element, from after a declaration on. `d` is none before the
document type. -/
def prolog (e : Ending) (standalone : Bool) :
    Nat → Option Doctype → Signs → Except Fault (Doctype × Signs)
  | 0, _, _ => .error e.fault
  | fuel + 1, d, signs => do
    let r ← Doctype.read e signs
    match r.token with
    | .blanks | .comment | .instruction => prolog e standalone fuel d r.after
    | .tagAhead => return (d.getD { standalone }, r.after)
    | .opening word =>
      if d.isSome || String.ofList word != "DOCTYPE" then throw r.misplaced
      let (d, after) ← Doctype.declared e standalone r.after
      prolog e standalone fuel (some d) after
    | _ => throw r.misplaced

/-- A document after its declaration. -/
def body (source : Source) (standalone : Bool) : Except Fault Element := do
  let e : Ending := Ending.ofSource source
  let (d, signs) ← prolog e standalone (source.signs.length + 1) none source.signs
  let (root, after) ← Content.root d source.last e.fault signs
  epilog e (after.length + 1) after
  return root

def orFault {α : Type} : Except Fault α → Except Failure α
  | .ok a => .ok a
  | .error f => .error (.fault f)

/-- The part of a source after some of its signs, in another encoding. -/
def recode (octets : List UInt8) (old new : Encoding) (whole : Source) (after : Signs) : Source :=
  let read := whole.signs.take (whole.signs.length - after.length)
  let width := Signs.units read * old.unitWidth
  let p := Declaration.startOf whole.last after
  .ofOctets new p (octets.drop width)

/-- Reads a document. Where the text was given as text, its declaration does not change how its
octets are read. -/
def read (isText : Bool) (octets : List UInt8) : Except Failure Element := do
  if isTooShort octets then throw (.fault ⟨.unclosedToken, ⟨1, 0⟩⟩)
  let encoding := guess octets
  let whole := Source.ofOctets encoding ⟨1, 0⟩ octets
  let source : Source :=
    match whole.signs with
    | s :: rest => if s.is '\uFEFF' then { whole with signs := rest } else whole
    | [] => whole
  match source.signs with
  | [] => orFault (body source false)
  | s :: rest =>
    match Doctype.nextToken s rest with
    | .ok (.declaration content last, after) =>
      match Declaration.ofContent content last with
      | .error p => throw (.fault ⟨.badDeclaration, p⟩)
      | .ok declaration =>
        let unchanged : Source := { source with signs := after }
        match declaration.encoding with
        | some (name, p) =>
          if isText then orFault (body unchanged declaration.standalone)
          else
            let new ← encoding.switch name p
            let source :=
              if new = encoding then unchanged else recode octets encoding new whole after
            orFault (body source declaration.standalone)
        | none => orFault (body unchanged declaration.standalone)
    | _ => orFault (body source false)

def ofText (text : String) : Except Failure Element := read true (Text.Utf8.encode text.toList)

def ofOctets (octets : List UInt8) : Except Failure Element := read false octets

end Document
end Xml
end CallPolicy

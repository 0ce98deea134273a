import CallPolicy.Text.Utf8
import CallPolicy.Xml.Chars
import CallPolicy.Xml.Fault

/-!
# CallPolicy.Xml.Source

A document as a list of signs: its characters, each with its position, under one encoding of the
octets. Octets that are no character of the encoding are a sign of their own. A sign also keeps what
its first unit alone tells about it.
-/

namespace CallPolicy
namespace Xml

inductive Mark where
  | char (c : Char)
  /-- Octets that are no character, or a character that no document may hold. -/
  | bad
  /-- The beginning of a character that does not go on as it has to. -/
  | broken
  /-- The beginning of a character that the end of the input cuts off. -/
  | cut
  deriving DecidableEq

/-- What the first unit of a sign tells about it. -/
inductive Lead where
  /-- It begins a name. -/
  | name
  /-- Only the whole character can tell. -/
  | unsettled
  | other
  deriving DecidableEq

structure Sign where
  mark : Mark
  position : Position
  lead : Lead
  /-- How many of the encoding's smallest units it takes. -/
  units : Nat

/-- How octets make characters. -/
inductive Encoding where
  | utf8
  | wide (bigEndian : Bool)
  | latin1
  /-- One octet per character; the octets above ASCII by a table. -/
  | single (high : List (Option Char))
  deriving DecidableEq

namespace Encoding

/-- Octets of the smallest unit. -/
def unitWidth : Encoding → Nat
  | wide _ => 2
  | utf8 | latin1 | single _ => 1

def ascii : Encoding := single []

end Encoding

def markOf (n : Nat) : Mark := if isLegal n then .char (Char.ofNat n) else .bad

def isTrail (b : UInt8) : Bool := 0x80 ≤ b && b < 0xC0

/-- The value of a lead octet's bits followed by those of trailing octets. -/
def joinBits (lead : Nat) (trail : List UInt8) : Nat :=
  trail.foldl (fun n b => n * 64 + (b.toNat - 0x80)) lead

/-- UTF-8. After an octet that begins no character, or begins one that is not well formed, nothing can
be read, and every octet is a mark of its own. -/
def utf8Marks : List UInt8 → List Mark
  | [] => []
  | b :: rest =>
    if b < 0x80 then markOf b.toNat :: utf8Marks rest
    else if b < 0xC0 then .bad :: unreadable rest
    else if b < 0xE0 then
      match rest with
      | b1 :: more =>
        if 0xC2 ≤ b && isTrail b1 then
          markOf (joinBits (b.toNat - 0xC0) [b1]) :: utf8Marks more
        else .broken :: unreadable rest
      | [] => [.cut]
    else if b < 0xF0 then
      match rest with
      | b1 :: b2 :: more =>
        let n := joinBits (b.toNat - 0xE0) [b1, b2]
        if isTrail b1 && isTrail b2 && 0x800 ≤ n && isLegal n then
          .char (Char.ofNat n) :: utf8Marks more
        else .broken :: unreadable rest
      | _ => .cut :: unreadable rest
    else if b < 0xF5 then
      match rest with
      | b1 :: b2 :: b3 :: more =>
        let n := joinBits (b.toNat - 0xF0) [b1, b2, b3]
        if isTrail b1 && isTrail b2 && isTrail b3 && 0x10000 ≤ n && isLegal n then
          .char (Char.ofNat n) :: utf8Marks more
        else .broken :: unreadable rest
      | _ => .cut :: unreadable rest
    else .bad :: unreadable rest
where
  unreadable (rest : List UInt8) : List Mark := rest.map fun _ => .bad

/-- UTF-16. A unit that begins a pair takes ten bits of whatever unit follows. Half a unit at the end
is left out. -/
def wideMarks (bigEndian : Bool) : List UInt8 → List Mark
  | a :: b :: rest =>
    let unit := if bigEndian then a.toNat * 256 + b.toNat else b.toNat * 256 + a.toNat
    if 0xD800 ≤ unit ∧ unit < 0xDC00 then
      match rest with
      | c :: d :: more =>
        let low := if bigEndian then c.toNat * 256 + d.toNat else d.toNat * 256 + c.toNat
        .char (Char.ofNat (0x10000 + (unit - 0xD800) * 1024 + low % 1024)) ::
          wideMarks bigEndian more
      | _ => [.cut]
    else markOf unit :: wideMarks bigEndian rest
  | _ => []

def singleMarks (high : List (Option Char)) (octets : List UInt8) : List Mark :=
  octets.map fun (b : UInt8) =>
    if b < 0x80 then markOf b.toNat
    else
      match high[b.toNat - 0x80]? with
      | some (some c) => markOf c.toNat
      | _ => .bad

def Encoding.marks : Encoding → List UInt8 → List Mark
  | utf8 => utf8Marks
  | wide bigEndian => wideMarks bigEndian
  | latin1 => List.map fun b => markOf b.toNat
  | single high => singleMarks high

def Lead.ofName (begins : Bool) : Lead := if begins then name else other

/-- What the first unit of a mark tells. A character outside ASCII has more than one octet in UTF-8,
and one above U+00FF is not told by its low octet alone in UTF-16. -/
def Encoding.lead (e : Encoding) : Mark → Lead
  | .char c =>
    match e with
    | utf8 => if 0x80 ≤ c.toNat then .unsettled else .ofName (isNameStart c)
    | wide _ => if 0x100 ≤ c.toNat then .unsettled else .ofName (isLatinNameStart c)
    | latin1 => .ofName (isLatinNameStart c)
    | single _ => .ofName (isNameStart c)
  | .broken | .cut => .unsettled
  | .bad => .other

/-- Whether the input ends in half a unit. -/
def Encoding.endsInHalf (e : Encoding) (octets : List UInt8) : Bool :=
  e.unitWidth == 2 && octets.length % 2 == 1

/-- The smallest units that a mark was made from. -/
def Encoding.units (e : Encoding) (m : Mark) : Nat :=
  match e, m with
  | utf8, .char c => (Text.Utf8.encodeChar c).length
  | wide _, .char c => if c.toNat < 0x10000 then 1 else 2
  | _, _ => 1

/-- The position after a mark. A line ends with a line feed, a carriage return, or both in this
order; `afterReturn` tells that a carriage return came before. -/
def Position.next (p : Position) (afterReturn : Bool) : Mark → Position
  | .char '\n' => if afterReturn then p else ⟨p.line + 1, 0⟩
  | .char '\r' => ⟨p.line + 1, 0⟩
  | _ => ⟨p.line, p.column + 1⟩

/-- Gives each mark its position; the second part is the position after the last. -/
def place (e : Encoding) (p : Position) (afterReturn : Bool) : List Mark → List Sign × Position
  | [] => ([], p)
  | m :: rest =>
    let (signs, last) := place e (p.next afterReturn m) (m == .char '\r') rest
    (⟨m, p, e.lead m, e.units m⟩ :: signs, last)

/-- A document's signs and where it ends. -/
structure Source where
  signs : List Sign
  last : Position
  /-- Half a unit is left at the end. -/
  half : Bool

/-- The signs of octets from a position on. -/
def Source.ofOctets (e : Encoding) (start : Position) (octets : List UInt8) : Source :=
  let (signs, last) := place e start false (e.marks octets)
  ⟨signs, last, e.endsInHalf octets⟩

end Xml
end CallPolicy

/-!
# CallPolicy.Text.Utf8

UTF-8 as octets. `encode` writes a text; `units` reads any octets as a list of characters and broken
places, from which come the strict reading `decode?` (no broken place) and the lenient reading
`decodeLossy` (the replacement character for each).
-/

namespace CallPolicy
namespace Text
namespace Utf8

def octet (n : Nat) : UInt8 := UInt8.ofNat n

/-- The octets of one character. -/
def encodeChar (c : Char) : List UInt8 :=
  let n := c.toNat
  if n < 0x80 then [octet n]
  else if n < 0x800 then [octet (0xC0 + n / 64), octet (0x80 + n % 64)]
  else if n < 0x10000 then
    [octet (0xE0 + n / 4096), octet (0x80 + n / 64 % 64), octet (0x80 + n % 64)]
  else
    [octet (0xF0 + n / 262144), octet (0x80 + n / 4096 % 64), octet (0x80 + n / 64 % 64),
      octet (0x80 + n % 64)]

def encode (cs : List Char) : List UInt8 := cs.flatMap encodeChar

/-- A character under way: how many octets it still owes, the range of the next one, and the value
so far. -/
structure Pending where
  owed : Nat
  low : Nat
  high : Nat
  value : Nat

/-- What an octet does between characters. -/
inductive Start where
  | char (c : Char)
  | pending (p : Pending)
  | broken

/-- The ranges of the second octet keep out overlong forms, surrogates and values past the last
code point. -/
def start (b : Nat) : Start :=
  if b < 0x80 then .char (Char.ofNat b)
  else if b < 0xC2 then .broken
  else if b < 0xE0 then .pending ⟨1, 0x80, 0xBF, b - 0xC0⟩
  else if b < 0xF0 then
    .pending ⟨2, if b = 0xE0 then 0xA0 else 0x80, if b = 0xED then 0x9F else 0xBF, b - 0xE0⟩
  else if b < 0xF5 then
    .pending ⟨3, if b = 0xF0 then 0x90 else 0x80, if b = 0xF4 then 0x8F else 0xBF, b - 0xF0⟩
  else .broken

/-- Reads on from between characters (`none`) or from within one. A broken place, `none` in the
result, is as many octets as could still have become a character. -/
def unitsFrom : Option Pending → List UInt8 → List (Option Char)
  | none, [] => []
  | some _, [] => [none]
  | none, b :: bs =>
    match start b.toNat with
    | .char c => some c :: unitsFrom none bs
    | .pending p => unitsFrom (some p) bs
    | .broken => none :: unitsFrom none bs
  | some p, b :: bs =>
    let n := b.toNat
    if p.low ≤ n ∧ n ≤ p.high then
      let value := p.value * 64 + (n - 0x80)
      if p.owed ≤ 1 then some (Char.ofNat value) :: unitsFrom none bs
      else unitsFrom (some ⟨p.owed - 1, 0x80, 0xBF, value⟩) bs
    else
      match start n with
      | .char c => none :: some c :: unitsFrom none bs
      | .pending q => none :: unitsFrom (some q) bs
      | .broken => none :: none :: unitsFrom none bs

def units (bs : List UInt8) : List (Option Char) := unitsFrom none bs

/-- The text, when every octet belongs to a character. -/
def decode? (bs : List UInt8) : Option (List Char) := (units bs).mapM id

/-- The text with U+FFFD for each broken place. -/
def decodeLossy (bs : List UInt8) : List Char := (units bs).map fun u => u.getD '\uFFFD'

end Utf8
end Text
end CallPolicy

/-!
# CallPolicy.Decimal.Shortest

The fewest decimal digits that read back as a given binary fraction, found in exact arithmetic. A
finite number is `mantissa * 2 ^ exponent`; the reals that round to it form an interval, and the
first decimal grid with a point in that interval gives the digits.
-/

namespace CallPolicy
namespace Decimal

/-- A finite nonzero binary fraction without its sign. `narrowBelow` marks a mantissa at which the
numbers below lie half as far apart as those above. -/
structure Binary where
  mantissa : Nat
  exponent : Int
  narrowBelow : Bool

/-- Digits `d` standing for `d * 10 ^ scale`. -/
structure Digits where
  value : Nat
  scale : Int
  deriving DecidableEq

namespace Binary

/-- Numerator and denominator of `n * 2 ^ exponent`. -/
def fraction (n : Nat) (exponent : Int) : Nat × Nat :=
  match exponent with
  | .ofNat e => (n * Nat.pow 2 e, 1)
  | .negSucc e => (n, Nat.pow 2 (e + 1))

/-- The number over a common denominator with the ends of its interval. -/
structure Interval where
  low : Nat
  value : Nat
  high : Nat
  denominator : Nat
  closed : Bool

def interval (b : Binary) : Interval :=
  let (value, denominator) := fraction (4 * b.mantissa) (b.exponent - 2)
  let (half, _) := fraction 2 (b.exponent - 2)
  let below := if b.narrowBelow then half / 2 else half
  ⟨value - below, value, value + half, denominator, b.mantissa % 2 == 0⟩

/-- Whether `n / d` lies in the interval. -/
def Interval.contains (i : Interval) (n d : Nat) : Bool :=
  let x := n * i.denominator
  if i.closed then i.low * d ≤ x && x ≤ i.high * d else i.low * d < x && x < i.high * d

/-- The numerator and denominator of `k * 10 ^ scale`. -/
def gridPoint (k : Nat) (scale : Int) : Nat × Nat :=
  match scale with
  | .ofNat e => (k * Nat.pow 10 e, 1)
  | .negSucc e => (k, Nat.pow 10 (e + 1))

/-- The greatest point of the grid with step `10 ^ scale` that is not above the number. -/
def gridFloor (i : Interval) (scale : Int) : Nat :=
  match scale with
  | .ofNat e => i.value / (i.denominator * Nat.pow 10 e)
  | .negSucc e => i.value * Nat.pow 10 (e + 1) / i.denominator

/-- Whether the number is nearer to grid point `k + 1` than to `k`, or as near and `k` is odd. -/
def nearerAbove (i : Interval) (k : Nat) (scale : Int) : Bool :=
  let (n, d) := gridPoint (2 * k + 1) scale
  let middle := n * i.denominator
  let twice := 2 * i.value * d
  middle < twice || (middle == twice && k % 2 == 1)

/-- The point of one grid that reads back, the nearer of two. -/
def onGrid? (i : Interval) (scale : Int) : Option Digits :=
  let k := gridFloor i scale
  let isIn := fun k => let (n, d) := gridPoint k scale; i.contains n d
  match isIn k && k != 0, isIn (k + 1) with
  | true, true => some ⟨if nearerAbove i k scale then k + 1 else k, scale⟩
  | true, false => some ⟨k, scale⟩
  | false, true => some ⟨k + 1, scale⟩
  | false, false => none

/-- Tries grids of more and more digits, from `scale` down. -/
def search (i : Interval) : Nat → Int → Digits
  | 0, scale => ⟨gridFloor i scale, scale⟩
  | fuel + 1, scale =>
    match onGrid? i scale with
    | some d => d
    | none => search i fuel (scale - 1)

/-- The power of ten of the first digit, found by counting digits of the quotient one way or the
other. -/
def magnitude (i : Interval) : Int :=
  if i.denominator ≤ i.value then ((Nat.toDigits 10 (i.value / i.denominator)).length : Int) - 1
  else
    let inverse := (i.denominator + i.value - 1) / i.value
    Int.negOfNat (Nat.toDigits 10 (inverse - 1)).length

/-- Drops zeros at the end of the digits. -/
def trimZeros : Nat → Digits → Digits
  | 0, d => d
  | fuel + 1, d =>
    if d.value % 10 == 0 && d.value != 0 then trimZeros fuel ⟨d.value / 10, d.scale + 1⟩ else d

/-- The shortest digits. Seventeen always suffice. -/
def shortest (b : Binary) : Digits :=
  let i := b.interval
  trimZeros 400 (search i 18 (magnitude i + 1))

end Binary

/-- A floating-point number taken apart. -/
inductive Parts where
  | nan
  | infinite (negative : Bool)
  | zero (negative : Bool)
  | finite (negative : Bool) (b : Binary)

/-- One more than the greatest stored mantissa, which has 52 bits. -/
def hiddenBit : Nat := 0x10000000000000

def partsOf (x : Float) : Parts :=
  let bits : Nat := x.toBits.toNat
  let negative := bits / hiddenBit / 2048 == 1
  let exponent : Nat := bits / hiddenBit % 2048
  let mantissa : Nat := bits % hiddenBit
  if exponent == 2047 then (if mantissa == 0 then .infinite negative else .nan)
  else if exponent == 0 then
    if mantissa == 0 then .zero negative else .finite negative ⟨mantissa, -1074, false⟩
  else
    .finite negative ⟨mantissa + hiddenBit, (exponent : Int) - 1075, mantissa == 0 && exponent != 1⟩

end Decimal
end CallPolicy

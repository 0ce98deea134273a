import CallPolicy.Decimal.Shortest

/-!
# CallPolicy.Decimal.Layout

The text of a floating-point number: shortest digits, positional from `0.0001` up to below `1e16`
and with a power of ten outside, always with a point or a power; and rounding to a number of places.
-/

namespace CallPolicy
namespace Decimal

/-- How floating-point numbers are written. -/
structure Format where
  /-- Greatest power of ten of the first digit that is written positionally. -/
  highest : Int
  /-- Least power of ten of the first digit that is written positionally. -/
  lowest : Int
  /-- Least number of digits in a written power. -/
  powerDigits : Nat
  nan : String
  infinity : String

/-- Numbers in messages and results. -/
def plain : Format := ⟨15, -4, 2, "nan", "inf"⟩

/-- Decimal digits of a number, padded with zeros on the left. -/
def padded (width n : Nat) : List Char :=
  let digits := Nat.toDigits 10 n
  List.replicate (width - digits.length) '0' ++ digits

/-- Digits with the point after the first `whole` of them, which may be none or more than there
are. -/
def positional (digits : List Char) (whole : Int) : List Char :=
  match whole with
  | .ofNat 0 => '0' :: '.' :: digits
  | .negSucc n => '0' :: '.' :: List.replicate (n + 1) '0' ++ digits
  | .ofNat n =>
    let front := digits.take n ++ List.replicate (n - digits.length) '0'
    let back := digits.drop n
    front ++ '.' :: (if back.isEmpty then ['0'] else back)

/-- Digits with a power of ten. -/
def scientific (f : Format) (digits : List Char) (power : Int) : List Char :=
  let front := match digits with
    | [d] => [d]
    | d :: rest => d :: '.' :: rest
    | [] => []
  let sign := if power < 0 then '-' else '+'
  front ++ 'e' :: sign :: padded f.powerDigits power.natAbs

def layDigits (f : Format) (d : Digits) : List Char :=
  let digits := Nat.toDigits 10 d.value
  let power := d.scale + digits.length - 1
  if f.lowest ≤ power && power ≤ f.highest then positional digits (power + 1)
  else scientific f digits power

/-- The text of a floating-point number. -/
def floatText (f : Format) (x : Float) : String :=
  let signed := fun (negative : Bool) (body : String) => if negative then "-" ++ body else body
  match partsOf x with
  | .nan => f.nan
  | .infinite negative => signed negative f.infinity
  | .zero negative => signed negative "0.0"
  | .finite negative b => signed negative (String.ofList (layDigits f b.shortest))

/-- The quotient rounded to the nearest whole number, a tie to the even one. -/
def roundQuotient (n d : Nat) : Nat :=
  let q := n / d
  let twice := 2 * (n % d)
  if twice < d then q else if d < twice then q + 1 else if q % 2 == 0 then q else q + 1

/-- The number rounded to `places` decimals: the nearest decimal with that many places, then the
floating-point number nearest to it. -/
def roundTo (places : Nat) (x : Float) : Float :=
  match partsOf x with
  | .finite negative b =>
    match b.exponent with
    | .ofNat _ => x
    | .negSucc e =>
      let n := roundQuotient (b.mantissa * Nat.pow 10 places) (Nat.pow 2 (e + 1))
      let y := Float.ofScientific n true places
      if negative then -y else y
  | _ => x

/-- The floating-point number nearest to a whole number. -/
def ofInt : Int → Float
  | .ofNat n => Float.ofScientific n false 0
  | .negSucc n => -(Float.ofScientific (n + 1) false 0)

end Decimal
end CallPolicy

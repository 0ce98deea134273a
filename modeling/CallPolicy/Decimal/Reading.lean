import CallPolicy.Decimal.Layout

/-!
# CallPolicy.Decimal.Reading

The floating-point number nearest to a written decimal.
-/

namespace CallPolicy
namespace Decimal

def isDigit (c : Char) : Bool := '0' ≤ c && c ≤ '9'

def digitValue (c : Char) : Nat := c.toNat - '0'.toNat

/-- The value of decimal digits. -/
def valueOf (digits : List Char) : Nat := digits.foldl (fun n c => n * 10 + digitValue c) 0

/-- The floating-point number nearest to `n * 10 ^ power`. Numbers far out of range are told by
their first digit's place, without computing the power. -/
def nearest (n : Nat) (power : Int) : Float :=
  if n = 0 then 0.0
  else
    let place : Int := power + (Nat.toDigits 10 n).length
    if 400 < place then 1.0 / 0.0
    else if place < -400 then 0.0
    else
      match power with
      | .ofNat e => Float.ofScientific n false e
      | .negSucc e => Float.ofScientific n true (e + 1)

/-- The floating-point number nearest to the digits before the point, those after it and a power. -/
def ofDigits (whole fraction : List Char) (power : Int) : Float :=
  nearest (valueOf (whole ++ fraction)) (power - fraction.length)

end Decimal
end CallPolicy

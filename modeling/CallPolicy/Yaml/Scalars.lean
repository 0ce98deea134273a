import CallPolicy.Datum
import CallPolicy.Text.CharClass
import CallPolicy.Yaml.Tag

/-!
# CallPolicy.Yaml.Scalars

The values of scalars: what the text of each type stands for. Texts that a plain scalar of a type
cannot have come from tags that are written out.
-/

namespace CallPolicy
namespace Yaml
namespace Scalars

/-- A number's text without underscores. -/
def bare (cs : List Char) : List Char := cs.filter (· != '_')

/-- A sign, and the text after it. -/
def signed (cs : List Char) : Bool × List Char :=
  match cs with
  | '-' :: rest => (true, rest)
  | '+' :: rest => (false, rest)
  | _ => (false, cs)

/-- The value of a digit of any script, or of a letter after nine. -/
def digitValue? (base : Nat) (c : Char) : Option Nat :=
  let d :=
    match Text.digitValue? c with
    | some d => some d
    | none =>
      if 'a' ≤ c && c ≤ 'z' then some (c.toNat - 'a'.toNat + 10)
      else if 'A' ≤ c && c ≤ 'Z' then some (c.toNat - 'A'.toNat + 10)
      else none
  d.filter (· < base)

/-- Past the sign of a base other than ten: a zero and a letter. -/
def afterBase (base : Nat) (cs : List Char) : List Char :=
  let isLetter := fun (c : Char) =>
    match base with
    | 2 => c == 'b' || c == 'B'
    | 8 => c == 'o' || c == 'O'
    | 16 => c == 'x' || c == 'X'
    | _ => false
  match cs with
  | '0' :: c :: rest => if isLetter c then rest else cs
  | _ => cs

/-- How many digits a decimal number may have. -/
def digitLimit : Nat := 4300

/-- A whole number: blanks, a sign, the sign of its base, digits and blanks. -/
def wholeNumber (base : Nat) (cs : List Char) : Except Failure Int :=
  let (isNegative, body) := signed (Text.trimBlank cs)
  let body := afterBase base body
  match body.mapM (digitValue? base) with
  | some (d :: ds) =>
    if base = 10 && digitLimit < ds.length + 1 then .error (.value .number)
    else
      let n : Nat := (d :: ds).foldl (fun n d => base * n + d) 0
      .ok (if isNegative then -n else n)
  | _ => .error (.value .number)

/-- The value of a number to base 60, its parts given in order. -/
def sixtieths (parts : List Int) : Int := parts.foldl (fun n d => 60 * n + d) 0

def int (cs : List Char) : Except Failure Int :=
  let cs := bare cs
  if cs.isEmpty then .error (.value .emptyNumber)
  else
    let (isNegative, body) := signed cs
    let value : Except Failure Int :=
      match body with
      | [] => .error (.value .emptyNumber)
      | ['0'] => .ok 0
      | '0' :: 'b' :: rest => wholeNumber 2 rest
      | '0' :: 'x' :: rest => wholeNumber 16 rest
      | '0' :: _ => wholeNumber 8 body
      | _ =>
        if body.contains ':' then ((Plain.splitColon body).mapM (wholeNumber 10)).map sixtieths
        else wholeNumber 10 body
    value.map fun n => if isNegative then -n else n

def isOneOf (cs : List Char) (texts : List String) : Bool := texts.contains (String.ofList cs)

/-- A decimal with a point or a power of ten, after its sign. Digits may be of any script. -/
def decimal? (cs : List Char) : Option Float := do
  let cs := cs.map fun c => ((Text.digitValue? c).map fun d => Char.ofNat ('0'.toNat + d)).getD c
  let whole := cs.takeWhile Decimal.isDigit
  let rest := cs.drop whole.length
  let (fraction, rest) :=
    match rest with
    | '.' :: more => (more.takeWhile Decimal.isDigit, more.dropWhile Decimal.isDigit)
    | _ => ([], rest)
  if whole.isEmpty && fraction.isEmpty then none
  else
    match rest with
    | [] => some (Decimal.ofDigits whole fraction 0)
    | e :: power =>
      if e != 'e' then none
      else
        let (isNegative, digits) := signed power
        if digits.isEmpty || !digits.all Decimal.isDigit then none
        else
          let n : Int := Decimal.valueOf digits
          some (Decimal.ofDigits whole fraction (if isNegative then -n else n))

/-- A floating-point number in small letters: blanks, a sign, a decimal or a word, and blanks. -/
def floatNumber (cs : List Char) : Except Failure Float :=
  let (isNegative, body) := signed (Text.trimBlank cs)
  let value : Option Float :=
    if isOneOf body ["inf", "infinity"] then some (1.0 / 0.0)
    else if isOneOf body ["nan"] then some (0.0 / 0.0)
    else decimal? body
  match value with
  | some x => .ok (if isNegative then -x else x)
  | none => .error (.value .number)

/-- The value of a number to base 60, summed up from its last part. -/
def floatSixtieths (parts : List Float) : Float :=
  (parts.reverse.zipIdx.map fun (x, i) => x * Decimal.ofInt (Nat.pow 60 i)).foldl
    (· + ·) 0.0

def float (cs : List Char) : Except Failure Float :=
  let cs := (bare cs).map Char.toLower
  if cs.isEmpty then .error (.value .emptyNumber)
  else
    let (isNegative, body) := signed cs
    let value : Except Failure Float :=
      if body.isEmpty then .error (.value .number)
      else if isOneOf body [".inf"] then .ok (1.0 / 0.0)
      else if isOneOf body [".nan"] then .ok (0.0 / 0.0)
      else if body.contains ':' then
        ((Plain.splitColon body).mapM floatNumber).map floatSixtieths
      else floatNumber body
    value.map fun x => if isNegative then -1.0 * x else x

def bool (cs : List Char) : Except Failure Bool :=
  let cs := cs.map Char.toLower
  if isOneOf cs ["yes", "true", "on"] then .ok true
  else if isOneOf cs ["no", "false", "off"] then .ok false
  else .error (.value .truth)

/-- The value of a sign of base 64. -/
def sixBits? (c : Char) : Option Nat :=
  if 'A' ≤ c && c ≤ 'Z' then some (c.toNat - 'A'.toNat)
  else if 'a' ≤ c && c ≤ 'z' then some (c.toNat - 'a'.toNat + 26)
  else if '0' ≤ c && c ≤ '9' then some (c.toNat - '0'.toNat + 52)
  else if c == '+' then some 62
  else if c == '/' then some 63
  else none

/-- The octets of text in base 64. Four signs make three octets; other characters do not count.
`held` are the values of the signs of the group under way, `padding` the equals signs after them. -/
def base64? (held : List Nat) (padding : Nat) : List Char → Option (List UInt8)
  | [] => if held.isEmpty then some [] else none
  | c :: rest =>
    if c == '=' then
      if 2 ≤ held.length then
        if 4 ≤ held.length + (padding + 1) then some [] else base64? held (padding + 1) rest
      else base64? held padding rest
    else
      match sixBits? c with
      | none => base64? held padding rest
      | some d =>
        match held with
        | [] => base64? [d] 0 rest
        | [a] => (base64? [a, d] 0 rest).map (UInt8.ofNat (a % 64 * 4 + d / 16) :: ·)
        | [a, b] => (base64? [a, b, d] 0 rest).map (UInt8.ofNat (b % 16 * 16 + d / 4) :: ·)
        | _ :: _ :: b :: _ => (base64? [] 0 rest).map (UInt8.ofNat (b % 4 * 64 + d) :: ·)

def binary (cs : List Char) : Except Failure (List UInt8) :=
  if cs.any fun c => 128 ≤ c.toNat then .error .malformed
  else
    match base64? [] 0 cs with
    | some octets => .ok octets
    | none => .error .malformed

/-- Millionths from the digits after a point, of which six count. -/
def microseconds (fraction : List Char) : Nat :=
  let six := fraction.take 6
  Decimal.valueOf six * Nat.pow 10 (6 - six.length)

def timestamp (cs : List Char) : Except Failure Datum :=
  let line := if cs.getLast? == some '\n' then cs.dropLast else cs
  match Stamp.read? line with
  | none => .error (.value .timestampForm)
  | some s =>
    let date : Date := ⟨s.year, s.month, s.day⟩
    match s.time with
    | none => if date.IsValid then .ok (.date date) else .error (.value .timestamp)
    | some (hour, minute, second, fraction, offset) =>
      let m : Moment := ⟨date, hour, minute, second, microseconds fraction, offset⟩
      if m.IsValid then .ok (.moment m) else .error (.value .timestamp)

end Scalars

/-- The value of a scalar of a type. -/
def scalarValue (tag : Tag) (cs : List Char) : Except Failure Datum :=
  match tag with
  | .null => .ok .null
  | .bool => (Scalars.bool cs).map .bool
  | .int => (Scalars.int cs).map .int
  | .float => (Scalars.float cs).map .float
  | .binary => (Scalars.binary cs).map .octets
  | .timestamp => Scalars.timestamp cs
  | .text => .ok (.text (String.ofList cs))
  | .merge | .value | .unknown | .orderedMapping | .pairs | .set | .sequence | .mapping =>
    .error .malformed

end Yaml
end CallPolicy

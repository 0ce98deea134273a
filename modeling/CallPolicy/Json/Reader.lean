import CallPolicy.Datum
import CallPolicy.Decimal.Reading

/-!
# CallPolicy.Json.Reader

Reading JSON as data. A number without a point or a power is a whole number; an object is a mapping
with text keys, in which a repeated key keeps its first place and its last value.
-/

namespace CallPolicy
namespace Json

def isBlank (c : Char) : Bool := c == ' ' || c == '\t' || c == '\n' || c == '\r'

def skipBlank (cs : List Char) : List Char := cs.dropWhile isBlank

def hexValue? (c : Char) : Option Nat :=
  if '0' ≤ c && c ≤ '9' then some (c.toNat - '0'.toNat)
  else if 'a' ≤ c && c ≤ 'f' then some (c.toNat - 'a'.toNat + 10)
  else if 'A' ≤ c && c ≤ 'F' then some (c.toNat - 'A'.toNat + 10)
  else none

/-- A number of four hexadecimal digits. -/
def unit? : List Char → Option (Nat × List Char)
  | a :: b :: c :: d :: rest => do
    let a ← hexValue? a
    let b ← hexValue? b
    let c ← hexValue? c
    let d ← hexValue? d
    return (((a * 16 + b) * 16 + c) * 16 + d, rest)
  | _ => none

def simpleEscape? : Char → Option Char
  | '"' => some '"'
  | '\\' => some '\\'
  | '/' => some '/'
  | 'b' => some '\x08'
  | 'f' => some '\x0c'
  | 'n' => some '\n'
  | 'r' => some '\r'
  | 't' => some '\t'
  | _ => none

def isHigh (n : Nat) : Bool := 0xD800 ≤ n && n < 0xDC00

def isLow (n : Nat) : Bool := 0xDC00 ≤ n && n < 0xE000

/-- A character by one escaped unit or two; half of a pair stands for the replacement character. -/
def unitChar (n : Nat) (rest : List Char) : Char × List Char :=
  if isHigh n then
    match rest with
    | '\\' :: 'u' :: more =>
      match unit? more with
      | some (m, after) =>
        if isLow m then (Char.ofNat (0x10000 + (n - 0xD800) * 1024 + (m - 0xDC00)), after)
        else ('\uFFFD', rest)
      | none => ('\uFFFD', rest)
    | _ => ('\uFFFD', rest)
  else if isLow n then ('\uFFFD', rest)
  else (Char.ofNat n, rest)

/-- The rest of a string after its opening quote. -/
def stringBody : Nat → List Char → Option (List Char × List Char)
  | 0, _ => none
  | _ + 1, [] => none
  | fuel + 1, c :: rest =>
    if c = '"' then some ([], rest)
    else if c = '\\' then
      match rest with
      | 'u' :: more => do
        let (n, after) ← unit? more
        let (c, after) := unitChar n after
        let (cs, after) ← stringBody fuel after
        return (c :: cs, after)
      | e :: more => do
        let c ← simpleEscape? e
        let (cs, after) ← stringBody fuel more
        return (c :: cs, after)
      | [] => none
    else if c.toNat < 0x20 then none
    else do
      let (cs, after) ← stringBody fuel rest
      return (c :: cs, after)

def digits (cs : List Char) : List Char × List Char := cs.span Decimal.isDigit

/-- The digits after a point, none when no point with digits is there. -/
def fractionPart (cs : List Char) : Option (List Char) × List Char :=
  match cs with
  | '.' :: rest =>
    match digits rest with
    | ([], _) => (none, cs)
    | (ds, after) => (some ds, after)
  | _ => (none, cs)

def signed (negative : Bool) (n : Nat) : Int := if negative then -(n : Int) else n

/-- The power of ten, none when no power with digits is there. -/
def powerPart (cs : List Char) : Option Int × List Char :=
  let read := fun (negative : Bool) (rest : List Char) =>
    match digits rest with
    | ([], _) => (none, cs)
    | (ds, after) => (some (signed negative (Decimal.valueOf ds)), after)
  match cs with
  | e :: rest =>
    if e = 'e' ∨ e = 'E' then
      match rest with
      | '-' :: more => read true more
      | '+' :: more => read false more
      | more => read false more
    else (none, cs)
  | [] => (none, cs)

/-- A number after its sign. -/
def numberBody (negative : Bool) (cs : List Char) : Option (Datum × List Char) :=
  let (whole, afterWhole) := digits cs
  match whole with
  | [] => none
  | first :: more =>
    if first = '0' ∧ more ≠ [] then none
    else
      let (fraction, afterFraction) := fractionPart afterWhole
      let (power, after) := powerPart afterFraction
      match fraction, power with
      | none, none => some (.int (signed negative (Decimal.valueOf whole)), after)
      | _, _ =>
        let x := Decimal.ofDigits whole (fraction.getD []) (power.getD 0)
        some (.float (if negative then -x else x), after)

def number (cs : List Char) : Option (Datum × List Char) :=
  match cs with
  | '-' :: rest => numberBody true rest
  | _ => numberBody false cs

/-- Words that stand for a value. -/
def words : List (String × Datum) :=
  [("null", .null), ("true", .bool true), ("false", .bool false), ("NaN", .float (0.0 / 0.0)),
    ("Infinity", .float (1.0 / 0.0)), ("-Infinity", .float (-1.0 / 0.0))]

def word? (cs : List Char) : Option (Datum × List Char) :=
  words.findSome? fun (w, d) =>
    if w.toList.isPrefixOf cs then some (d, cs.drop w.length) else none

mutual

def value : Nat → List Char → Option (Datum × List Char)
  | 0, _ => none
  | fuel + 1, cs =>
    match skipBlank cs with
    | '"' :: rest => do
      let (s, after) ← stringBody (rest.length + 1) rest
      return (.text (String.ofList s), after)
    | '[' :: rest =>
      match skipBlank rest with
      | ']' :: after => some (.list [], after)
      | _ => do
        let (items, after) ← items fuel rest
        return (.list items, after)
    | '\x7b' :: rest =>
      match skipBlank rest with
      | '\x7d' :: after => some (.mapping [], after)
      | _ => do
        let (entries, after) ← entries fuel rest
        return (.mapping (entries.foldl (fun es (k, v) => Datum.put k v es) []), after)
    | cs => (word? cs).or (number cs)

/-- The items of a list up to its closing bracket. -/
def items : Nat → List Char → Option (List Datum × List Char)
  | 0, _ => none
  | fuel + 1, cs => do
    let (d, after) ← value fuel cs
    match skipBlank after with
    | ',' :: rest => do
      let (ds, after) ← items fuel rest
      return (d :: ds, after)
    | ']' :: rest => return ([d], rest)
    | _ => none

/-- The entries of an object up to its closing brace. -/
def entries : Nat → List Char → Option (List (Datum × Datum) × List Char)
  | 0, _ => none
  | fuel + 1, cs =>
    match skipBlank cs with
    | '"' :: rest => do
      let (s, after) ← stringBody (rest.length + 1) rest
      match skipBlank after with
      | ':' :: rest => do
        let (d, after) ← value fuel rest
        let entry := (Datum.text (String.ofList s), d)
        match skipBlank after with
        | ',' :: rest => do
          let (es, after) ← entries fuel rest
          return (entry :: es, after)
        | '\x7d' :: rest => return ([entry], rest)
        | _ => none
      | _ => none
    | _ => none

end

/-- The value that a text holds, with nothing but blanks around it. -/
def read? (text : String) : Option Datum :=
  let cs := text.toList
  match value (cs.length + 1) cs with
  | some (d, rest) => if (skipBlank rest).isEmpty then some d else none
  | none => none

end Json
end CallPolicy

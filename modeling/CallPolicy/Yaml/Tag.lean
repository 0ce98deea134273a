import CallPolicy.Decimal.Reading
import CallPolicy.Yaml.Cursor

/-!
# CallPolicy.Yaml.Tag

The types of nodes, and the type that an untagged plain scalar has by the way it is written.
-/

namespace CallPolicy
namespace Yaml

inductive Tag where
  | null
  | bool
  | int
  | float
  | binary
  | timestamp
  | orderedMapping
  | pairs
  | set
  | text
  | sequence
  | mapping
  | merge
  | value
  | unknown
  deriving DecidableEq

namespace Tag

/-- What the names of the known types begin with. -/
def root : String := "tag:yaml.org,2002:"

def names : List (String × Tag) :=
  [("null", null), ("bool", bool), ("int", int), ("float", float), ("binary", binary),
    ("timestamp", timestamp), ("omap", orderedMapping), ("pairs", pairs), ("set", set),
    ("str", text), ("seq", sequence), ("map", mapping), ("merge", merge), ("value", value)]

/-- The type with a full name. -/
def ofName (cs : List Char) : Tag :=
  let name := String.ofList cs
  ((names.find? fun (n, _) => root ++ n == name).map (·.2)).getD unknown

/-- The types of collections. -/
def isCollection (t : Tag) : Bool := [orderedMapping, pairs, set, sequence, mapping].contains t

/-- Types that no value has. -/
def isBare (t : Tag) : Bool := [merge, value, unknown].contains t

end Tag

/-- A date, and perhaps a time, as written. -/
structure Stamp where
  year : Nat
  month : Nat
  day : Nat
  /-- Hour, minute, second, the digits of the fraction, and the distance from universal time in
  seconds. -/
  time : Option (Nat × Nat × Nat × List Char × Option Int)

namespace Stamp

/-- Takes digits, at least `least` and at most `most`. -/
def digits? (least most : Nat) (cs : List Char) : Option (Nat × List Char) :=
  let taken := (cs.takeWhile Decimal.isDigit).take most
  if taken.length < least then none else some (Decimal.valueOf taken, cs.drop taken.length)

def sign? (c : Char) : List Char → Option (List Char)
  | [] => none
  | d :: rest => if d = c then some rest else none

def isSpace (c : Char) : Bool := c == ' ' || c == '\t'

/-- What separates a time from its date: a letter or blanks. -/
def separator? (cs : List Char) : Option (List Char) :=
  match cs with
  | 'T' :: rest | 't' :: rest => some rest
  | c :: rest => if isSpace c then some (rest.dropWhile isSpace) else none
  | [] => none

/-- The distance from universal time that ends a moment, none where it is left out. -/
def zone? (cs : List Char) : Option (Option Int) :=
  match cs with
  | [] => some none
  | _ =>
    match cs.dropWhile isSpace with
    | ['Z'] => some (some 0)
    | s :: rest =>
      if s = '+' ∨ s = '-' then do
        let (hours, rest) ← digits? 1 2 rest
        let minutes ←
          match rest with
          | [] => some 0
          | _ => do
            let (m, rest) ← digits? 2 2 (← sign? ':' rest)
            if rest.isEmpty then some m else none
        let seconds : Int := (hours * 60 + minutes) * 60
        some (some (if s = '-' then -seconds else seconds))
      else none
    | [] => none

def read? (cs : List Char) : Option Stamp := do
  let (year, rest) ← digits? 4 4 cs
  let (month, rest) ← digits? 1 2 (← sign? '-' rest)
  let (day, rest) ← digits? 1 2 (← sign? '-' rest)
  match rest with
  | [] => return ⟨year, month, day, none⟩
  | _ =>
    let (hour, rest) ← digits? 1 2 (← separator? rest)
    let (minute, rest) ← digits? 2 2 (← sign? ':' rest)
    let (second, rest) ← digits? 2 2 (← sign? ':' rest)
    let (fraction, rest) :=
      match rest with
      | '.' :: more => (more.takeWhile Decimal.isDigit, more.dropWhile Decimal.isDigit)
      | _ => ([], rest)
    let offset ← zone? rest
    return ⟨year, month, day, some (hour, minute, second, fraction, offset)⟩

end Stamp

namespace Plain

def words (text : String) : List (List Char) := (text.splitOn " ").map String.toList

def boolWords : List (List Char) :=
  words "yes Yes YES no No NO true True TRUE false False FALSE on On ON off Off OFF"

def nullWords : List (List Char) := words "~ null Null NULL"

def infinityWords : List (List Char) := words "inf Inf INF"

def nanWords : List (List Char) := words "nan NaN NAN"

/-- A number without its sign, and whether it has one. -/
def unsigned (cs : List Char) : Bool × List Char :=
  match cs with
  | '+' :: rest | '-' :: rest => (true, rest)
  | _ => (false, cs)

def isDigitPart (c : Char) : Bool := Decimal.isDigit c || c == '_'

def startsWithDigit (cs : List Char) : Bool := cs.head?.any Decimal.isDigit

/-- The power of ten at the end of a number, or nothing. -/
def isPower (cs : List Char) : Bool :=
  match cs with
  | [] => true
  | e :: s :: digits =>
    (e == 'e' || e == 'E') && (s == '+' || s == '-') && !digits.isEmpty &&
      digits.all Decimal.isDigit
  | _ => false

/-- The parts of a text between colons. -/
def splitColon : List Char → List (List Char)
  | [] => [[]]
  | ':' :: rest => [] :: splitColon rest
  | c :: rest =>
    match splitColon rest with
    | part :: parts => (c :: part) :: parts
    | [] => [[c]]

/-- A part of a number to base 60: one digit, or two below 60. -/
def isSixtieth (cs : List Char) : Bool :=
  match cs with
  | [d] => Decimal.isDigit d
  | [d, e] => '0' ≤ d && d ≤ '5' && Decimal.isDigit e
  | _ => false

/-- The last part of a number to base 60 with a point. -/
def isPointedSixtieth (cs : List Char) : Bool :=
  let whole := cs.takeWhile (· != '.')
  match cs.drop whole.length with
  | _ :: fraction => isSixtieth whole && fraction.all isDigitPart
  | [] => false

def isFloat (cs : List Char) : Bool :=
  let (isSigned, body) := unsigned cs
  let whole := body.takeWhile isDigitPart
  match body.drop whole.length with
  | '.' :: after =>
    if whole.isEmpty then
      infinityWords.contains after ||
        (!isSigned && (nanWords.contains after ||
          (startsWithDigit after && isPower (after.dropWhile isDigitPart))))
    else startsWithDigit whole && isPower (after.dropWhile isDigitPart)
  | ':' :: after =>
    let parts := splitColon after
    startsWithDigit whole && parts.dropLast.all isSixtieth && parts.getLast?.any isPointedSixtieth
  | _ => false

def isHexPart (c : Char) : Bool :=
  isDigitPart c || ('a' ≤ c && c ≤ 'f') || ('A' ≤ c && c ≤ 'F')

def isInt (cs : List Char) : Bool :=
  match (unsigned cs).2 with
  | ['0'] => true
  | '0' :: 'b' :: rest => !rest.isEmpty && rest.all fun c => c == '0' || c == '1' || c == '_'
  | '0' :: 'x' :: rest => !rest.isEmpty && rest.all isHexPart
  | '0' :: rest => rest.all fun c => ('0' ≤ c && c ≤ '7') || c == '_'
  | c :: rest =>
    Decimal.isDigit c &&
      match splitColon rest with
      | first :: parts => first.all isDigitPart && parts.all isSixtieth
      | [] => false
  | [] => false

/-- A date with all its digits, or a moment. -/
def isTimestamp (cs : List Char) : Bool :=
  match Stamp.read? cs with
  | some s => s.time.isSome || cs.length == 10
  | none => false

/-- A line feed at the end does not count. -/
def ofLine (p : List Char → Bool) (cs : List Char) : Bool :=
  p cs || (cs.getLast? == some '\n' && p cs.dropLast)

/-- The type of a scalar by the way it is written. -/
def tag (cs : List Char) : Tag :=
  if cs.isEmpty || ofLine nullWords.contains cs then .null
  else if ofLine boolWords.contains cs then .bool
  else if ofLine isFloat cs then .float
  else if ofLine isInt cs then .int
  else if ofLine isTimestamp cs then .timestamp
  else if ofLine (· == ['<', '<']) cs then .merge
  else if ofLine (· == ['=']) cs then .value
  else if ofLine (fun cs => cs == ['!'] || cs == ['&'] || cs == ['*']) cs then .unknown
  else .text

end Plain

end Yaml
end CallPolicy

import CallPolicy.Calendar
import CallPolicy.Text.Quoted

/-!
# CallPolicy.Datum

The values that configuration data is made of, whatever format it came in. A datum has a kind with a
name for messages, a truth value, a displayed text and a shown text: in the shown text, texts are in
quotes.
-/

namespace CallPolicy

inductive Datum where
  | null
  | bool (b : Bool)
  | int (n : Int)
  | float (x : Float)
  | text (s : String)
  | octets (bs : List UInt8)
  | date (d : Date)
  | moment (m : Moment)
  | list (items : List Datum)
  | pair (first second : Datum)
  | set (items : List Datum)
  | mapping (entries : List (Datum × Datum))
  /-- A list that holds itself at this place. -/
  | enclosingList
  /-- A mapping that holds itself at this place. -/
  | enclosingMapping

namespace Datum

/-- The name of a datum's kind. -/
def kindName : Datum → String
  | null => "NoneType"
  | bool _ => "bool"
  | int _ => "int"
  | float _ => "float"
  | text _ => "str"
  | octets _ => "bytes"
  | date _ => "date"
  | moment _ => "datetime"
  | list _ | enclosingList => "list"
  | pair .. => "tuple"
  | set _ => "set"
  | mapping _ | enclosingMapping => "dict"

/-- Nothing, zero and emptiness count as false. -/
def truthy : Datum → Bool
  | null => false
  | bool b => b
  | int n => n != 0
  | float x => x != 0
  | text s => !s.isEmpty
  | octets bs => !bs.isEmpty
  | list items | set items => !items.isEmpty
  | mapping entries => !entries.isEmpty
  | pair .. | date _ | moment _ | enclosingList | enclosingMapping => true

def boolText (b : Bool) : String := if b then "True" else "False"

mutual

/-- The shown text. -/
def shown : Datum → String
  | null => "None"
  | bool b => boolText b
  | int n => toString n
  | float x => Decimal.floatText Decimal.plain x
  | text s => Text.quoted s
  | octets bs => Text.quotedOctets bs
  | date d => d.source
  | moment m => m.source
  | list items => "[" ++ String.intercalate ", " (shownAll items) ++ "]"
  | pair first second => "(" ++ first.shown ++ ", " ++ second.shown ++ ")"
  | set [] => "set()"
  | set items => "\x7b" ++ String.intercalate ", " (shownAll items) ++ "\x7d"
  | mapping entries => "\x7b" ++ String.intercalate ", " (shownEntries entries) ++ "\x7d"
  | enclosingList => "[...]"
  | enclosingMapping => "\x7b...\x7d"

def shownAll : List Datum → List String
  | [] => []
  | d :: rest => d.shown :: shownAll rest

def shownEntries : List (Datum × Datum) → List String
  | [] => []
  | (key, value) :: rest => (key.shown ++ ": " ++ value.shown) :: shownEntries rest

end

/-- The displayed text: a text as it is, a date or moment in its plain form, anything else as
shown. -/
def displayed : Datum → String
  | text s => s
  | date d => d.text
  | moment m => m.text
  | d => d.shown

/-- How many digits a number may have that is written out. -/
def digitLimit : Nat := 4300

mutual

/-- Whether every number in a datum can be written out. -/
def isWritable : Datum → Bool
  | int n => n.natAbs < Nat.pow 10 digitLimit
  | list items | set items => areWritable items
  | pair first second => first.isWritable && second.isWritable
  | mapping entries => areEntriesWritable entries
  | _ => true

def areWritable : List Datum → Bool
  | [] => true
  | d :: rest => d.isWritable && areWritable rest

def areEntriesWritable : List (Datum × Datum) → Bool
  | [] => true
  | (key, value) :: rest => key.isWritable && value.isWritable && areEntriesWritable rest

end

/-- Kinds whose values have an order among themselves. -/
inductive Family where
  | number
  | text
  | octets
  | date
  | moment (zoned : Bool)
  deriving DecidableEq

def family? : Datum → Option Family
  | bool _ | int _ | float _ => some .number
  | text _ => some .text
  | octets _ => some .octets
  | date _ => some .date
  | moment m => some (.moment m.offset.isSome)
  | _ => none

/-- A number's value as a whole number where it is one. -/
def whole? : Datum → Option Int
  | bool b => some (if b then 1 else 0)
  | int n => some n
  | _ => none

/-- A number's value as a floating-point number. -/
def real? : Datum → Option Float
  | bool b => some (if b then 1.0 else 0.0)
  | int n => some (Decimal.ofInt n)
  | float x => some x
  | _ => none

/-- Whole seconds of a moment in universal time. -/
def momentRank (m : Moment) : Int :=
  let days : Nat := Calendar.dayNumber m.date
  (((days * 24 + m.hour) * 60 + m.minute) * 60 + m.second : Nat) - m.offset.getD 0

/-- Order of two values of one family. -/
def atMost (a b : Datum) : Bool :=
  match a, b with
  | text s, text t => decide (s ≤ t)
  | octets s, octets t => !(List.lex t s (· < ·))
  | date d, date e => Calendar.dayNumber d ≤ Calendar.dayNumber e
  | moment m, moment n =>
    momentRank m < momentRank n ||
      (momentRank m == momentRank n && m.microsecond ≤ n.microsecond)
  | a, b =>
    match a.whole?, b.whole? with
    | some m, some n => m ≤ n
    | _, _ =>
      match a.real?, b.real? with
      | some x, some y => !(y < x)
      | _, _ => true

/-- Values in order, unless two of them have none. -/
def sorted? (items : List Datum) : Option (List Datum) :=
  match items with
  | [] => some []
  | [d] => some [d]
  | d :: rest =>
    match d.family? with
    | none => none
    | some f => if rest.all (·.family? = some f) then some (items.mergeSort atMost) else none

/-- Equality of keys: numbers by value, whatever their kind. -/
def sameKey (a b : Datum) : Bool :=
  match a, b with
  | null, null => true
  | text s, text t => s == t
  | octets s, octets t => s == t
  | date d, date e => d == e
  | moment m, moment n =>
    m.offset.isSome == n.offset.isSome && momentRank m == momentRank n &&
      m.microsecond == n.microsecond
  | a, b =>
    match a.whole?, b.whole? with
    | some m, some n => m == n
    | _, _ =>
      match a.real?, b.real? with
      | some x, some y => x == y
      | _, _ => false

/-- The value under a text key. -/
def field? (name : String) : List (Datum × Datum) → Option Datum
  | [] => none
  | (key, value) :: rest =>
    match key with
    | text s => if s = name then some value else field? name rest
    | _ => field? name rest

/-- The value under a text key, nothing when there is none. -/
def field (name : String) (entries : List (Datum × Datum)) : Datum :=
  (field? name entries).getD null

/-- Puts a value under a key: in place of an earlier value with that key, or at the end. -/
def put (key value : Datum) : List (Datum × Datum) → List (Datum × Datum)
  | [] => [(key, value)]
  | (k, v) :: rest => if sameKey k key then (k, value) :: rest else (k, v) :: put key value rest

/-- Text, or nothing. -/
def ofText? : Option String → Datum
  | some s => text s
  | none => null

/-- A mapping with text keys, in order. -/
def record (fields : List (String × Datum)) : Datum :=
  mapping (fields.map fun (key, value) => (text key, value))

end Datum
end CallPolicy

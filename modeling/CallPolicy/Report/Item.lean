import CallPolicy.Coordinate.Data

/-!
# CallPolicy.Report.Item

The items of a report on one file: what the parser has to say, forbidden calls, and notes on the run
itself. Items stand in source order, the graver before the less grave at one place; a summary counts
them by severity.
-/

namespace CallPolicy
namespace Report

inductive Severity where
  | error
  | warning
  | info
  /-- Any other word. It counts as information and comes last. -/
  | other
  deriving DecidableEq

namespace Severity

def rank : Severity → Nat
  | error => 0
  | warning => 1
  | info => 2
  | other => 3

def text : Severity → String
  | error => "error"
  | warning => "warning"
  | info => "info"
  | other => "other"

def ofText (s : String) : Severity :=
  match s with
  | "error" => error
  | "warning" => warning
  | "info" => info
  | _ => other

end Severity

/-- Who an item comes from. -/
inductive Origin where
  | parser
  | rule
  | run
  | other (label : Datum)

namespace Origin

def label : Origin → Datum
  | parser => .text "clang"
  | rule => .text "rule"
  | run => .text "runtime"
  | other d => d

def ofLabel (d : Datum) : Origin :=
  match d with
  | .text "clang" => parser
  | .text "rule" => rule
  | .text "runtime" => run
  | d => other d

/-- The word for an origin, where its label is one. -/
def word? (o : Origin) : Option String :=
  match o.label with
  | .text s => some s
  | _ => none

def isRule (o : Origin) : Bool := o.word? == some "rule"

/-- Labels of one kind have an order among themselves, and a label has one with itself. -/
def comparable (a b : Origin) : Bool :=
  match a.label.family?, b.label.family? with
  | some f, some g => f == g
  | _, _ => a.label.shown == b.label.shown

def atMost (a b : Origin) : Bool := a.label.atMost b.label

end Origin

/-- What only items of forbidden calls have. -/
structure RuleDetail where
  key : String
  args : List Datum
  rule : String

structure Item where
  severity : Severity
  origin : Origin
  line : Coordinate
  column : Coordinate
  /-- None where it is no text. -/
  message : Option String
  detail : Option RuleDetail := none

namespace Item

/-- Line, column and severity. -/
def place (i : Item) : Int × Int × Nat := (i.line.lineRank, i.column.columnRank, i.severity.rank)

/-- By line, column and severity, and at one place by the label of the origin. -/
def atMost (a b : Item) : Bool :=
  let (l, c, s) := a.place
  let (l', c', s') := b.place
  l < l' || (l == l' && (c < c' || (c == c' && (s < s' || (s == s' && a.origin.atMost b.origin)))))

/-- Whether two items have an order. -/
def comparable (a b : Item) : Bool := a.place != b.place || a.origin.comparable b.origin

/-- An item as data. -/
def datum (i : Item) : Datum :=
  let basic : List (String × Datum) :=
    [("severity", .text i.severity.text), ("source", i.origin.label),
      ("line", i.line.datum), ("column", i.column.datum), ("message", .ofText? i.message)]
  let detail : List (String × Datum) :=
    match i.detail with
    | some d => [("key", .text d.key), ("args", .list d.args), ("rule", .text d.rule)]
    | none => []
  .record (basic ++ detail)

end Item

/-- Whether every two items have an order. -/
def areComparable : List Item → Bool
  | [] => true
  | i :: rest => rest.all i.comparable && areComparable rest

/-- Puts things into the order of the items they stand for; equals keep their order. -/
def arrange {α : Type} (item : α → Item) (xs : List α) : List α :=
  xs.mergeSort fun a b => (item a).atMost (item b)

/-- Items in source order. -/
def sorted (items : List Item) : List Item := arrange id items

/-- Whether a parser's item keeps the rules from being looked at. -/
def hasError (items : List Item) : Bool := items.any (·.severity == .error)

/-- How many items there are of each severity and in all, and how many come from rules. -/
structure Summary where
  errors : Nat
  warnings : Nat
  infos : Nat
  total : Nat
  violations : Nat
  deriving DecidableEq

namespace Summary

def ofItems (items : List Item) : Summary :=
  let count := fun (p : Severity → Bool) => (items.filter fun i => p i.severity).length
  let errors := count (· == .error)
  let warnings := count (· == .warning)
  let infos := count fun s => s == .info || s == .other
  ⟨errors, warnings, infos, errors + warnings + infos, (items.filter (·.origin.isRule)).length⟩

def datum (s : Summary) : Datum :=
  .record [("error", .int s.errors), ("warning", .int s.warnings), ("info", .int s.infos),
    ("total", .int s.total), ("violations", .int s.violations)]

end Summary

end Report
end CallPolicy

import CallPolicy.Datum

/-!
# CallPolicy.Report.Timing

How long the steps of a check took, in milliseconds to three places. Their sum is taken before
anything is rounded.
-/

namespace CallPolicy
namespace Report

/-- A number of milliseconds. Whole numbers add up exactly. -/
inductive Amount where
  | whole (n : Int)
  | real (x : Float)

namespace Amount

def toFloat : Amount → Float
  | whole n => Decimal.ofInt n
  | real x => x

def add : Amount → Amount → Amount
  | whole m, whole n => whole (m + n)
  | a, b => real (a.toFloat + b.toFloat)

/-- To three places, and nothing below zero. -/
def rounded (a : Amount) : Float :=
  let x := a.toFloat
  Decimal.roundTo 3 (if x > 0.0 then x else 0.0)

def datum : Amount → Datum
  | whole n => .int n
  | real x => .float x

end Amount

structure Timing where
  parse : Amount
  traversal : Amount
  interpretation : Amount
  total : Amount

namespace Timing

/-- The timing of a check by the length of its steps. -/
def ofSteps (parse traversal interpretation : Amount) : Timing :=
  let total := (parse.add traversal).add interpretation
  ⟨.real parse.rounded, .real traversal.rounded, .real interpretation.rounded, .real total.rounded⟩

/-- The timing of a check that takes no time. -/
def none : Timing := ofSteps (.real 0.0) (.real 0.0) (.real 0.0)

def datum (t : Timing) : Datum :=
  .record [("parse", t.parse.datum), ("traversal", t.traversal.datum),
    ("interpretation", t.interpretation.datum), ("total", t.total.datum)]

def text (t : Timing) : String :=
  let part := fun (name : String) (a : Amount) => name ++ ": " ++ a.datum.displayed ++ " ms"
  "[timing] " ++ String.intercalate ", "
    [part "parse" t.parse, part "traversal" t.traversal, part "interpretation" t.interpretation,
      part "total" t.total] ++ "."

end Timing

end Report
end CallPolicy

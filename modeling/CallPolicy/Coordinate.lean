/-!
# CallPolicy.Coordinate

A line or column number as records state it, and the rank by which findings are put in source
order.
-/

namespace CallPolicy

/-- A line or column: none at all, a number, or a truth value, which counts as one or zero. -/
inductive Coordinate where
  | absent
  | number (n : Int)
  | flag (b : Bool)
  deriving DecidableEq

namespace Coordinate

def value? : Coordinate → Option Int
  | absent => none
  | number n => some n
  | flag b => some (if b then 1 else 0)

def text : Coordinate → String
  | absent => "None"
  | number n => toString n
  | flag b => if b then "True" else "False"

/-- A missing line ranks as this one, after every line of a file of ordinary length. -/
def lastLine : Int := 1000000000

def lineRank (c : Coordinate) : Int := c.value?.getD lastLine

def columnRank (c : Coordinate) : Int := c.value?.getD 0

end Coordinate

/-- Where a finding stands among the others. -/
structure Rank where
  line : Int
  column : Int
  deriving DecidableEq

namespace Rank

def ofPosition (line column : Coordinate) : Rank := ⟨line.lineRank, column.columnRank⟩

/-- By line, then by column. -/
def atMost (a b : Rank) : Bool := a.line < b.line || (a.line == b.line && a.column ≤ b.column)

end Rank
end CallPolicy

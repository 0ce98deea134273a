import CallPolicy.Coordinate

/-!
# CallPolicy.Check

Checks that go over a list of nodes. Every check sees every node, in order; what they find, and what
they add after the last node, is put in source order, equal positions in the order of finding.
-/

namespace CallPolicy

/-- A check of nodes `α` with findings `β`, and effects in `m`. -/
structure Check (m : Type → Type) (α β : Type) where
  /-- Whether the check looks at a node. -/
  selects : α → m Bool
  /-- What the check finds at a node it looks at. -/
  apply : α → m (Option β)
  /-- What the check adds at the end. -/
  finish : m (List β)

namespace Check

/-- A part of a check that every check has to bring. -/
inductive Part where
  | selects
  | apply
  deriving DecidableEq

/-- What is said when the part is not there. -/
def Part.missing : Part → String
  | selects => "matches() must be implemented"
  | apply => "apply() must be implemented"

/-- A check with nothing of its own. -/
def blank {α β : Type} : Check (Except Part) α β where
  selects _ := .error .selects
  apply _ := .error .apply
  finish := .ok []

section

variable {m : Type → Type} [Monad m] {α β : Type}

/-- What a check finds at one node. -/
def atNode (c : Check m α β) (x : α) : m (List β) := do
  if ← c.selects x then return (← c.apply x).toList else return []

/-- All findings in the order of finding: node by node, at each node check by check, and at the end
what the checks add. -/
def emitted (checks : List (Check m α β)) (nodes : List α) : m (List β) := do
  let found ← nodes.mapM fun x => checks.mapM (·.atNode x)
  let added ← checks.mapM (·.finish)
  return found.flatten.flatten ++ added.flatten

/-- Findings by line and column, equal ones in the order given. -/
def inSourceOrder (rank : β → Rank) (findings : List β) : List β :=
  findings.mergeSort fun a b => (rank a).atMost (rank b)

/-- The findings of all checks over all nodes, in source order. -/
def run (rank : β → Rank) (checks : List (Check m α β)) (nodes : List α) : m (List β) := do
  return inSourceOrder rank (← emitted checks nodes)

end
end Check
end CallPolicy

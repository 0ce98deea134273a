import CallPolicy.Config

/-!
# CallPolicy.Session

Work that goes on for a while: files come and go, and the policy in force is replaced. A replacement
that fails leaves the policy as it was.
-/

namespace CallPolicy

structure Session where
  files : Files := {}
  policy : Policy := {}
  /-- How many findings have been reported so far. -/
  reported : Nat := 0

namespace Session

/-- Files come and go. -/
def update (change : Files → Files) : StateM Session Unit :=
  modify fun s => { s with files := change s.files }

def adopt (p : Policy) : StateM Session Unit := modify fun s => { s with policy := p }

def adoptIf {ε : Type} : Except ε Policy → StateM Session Unit
  | .ok p => adopt p
  | .error _ => pure ()

/-- Replaces the policy by the one that is asked for. -/
def resolve (r : Config.Request) :
    StateM Session (Except Config.Failure Policy × List Log.Entry) := do
  let (outcome, log) := (Config.resolve (← get).files r).start
  adoptIf outcome
  return (outcome, log)

/-- Replaces the policy by one of the given rules. -/
def setRules (specs : List Rule.Spec) (checkConstructors : Bool) :
    StateM Session (Except Config.Failure Policy) := do
  let outcome := do return ⟨← specs.mapM Rule.compile, checkConstructors⟩
  adoptIf outcome
  return outcome

/-- Runs the policy over places. -/
def run (places : List Place) : StateM Session (List Finding × Policy.Trace) := do
  let (findings, trace) := ((← get).policy.run places).run {}
  modify fun s => { s with reported := s.reported + trace.reported.length }
  return (findings, trace)

end Session
end CallPolicy

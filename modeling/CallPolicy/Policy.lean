import CallPolicy.Check
import CallPolicy.Finding
import CallPolicy.Log

/-!
# CallPolicy.Policy

The policy: rules in order, and whether constructor calls fall under them. As a check it looks at
calls and new-expressions, and at each reports the first rule that is broken.
-/

namespace CallPolicy

structure Policy where
  rules : List Rule := []
  checkConstructors : Bool := false

/-- A call and the first rule it breaks. -/
structure Violation where
  site : Call.Site
  rule : Rule

def Violation.finding (v : Violation) : Finding := .ofSite v.site v.rule

def Violation.note (v : Violation) : Log.Entry :=
  ⟨.debug, .policy, v.site.name ++ " with " ++ toString v.site.argumentCount ++
    " argument(s) on line " ++ v.site.line.text ++ " violates " ++ v.rule.name⟩

namespace Policy

/-- What happens on the side while a policy is checked, in order. -/
structure Trace where
  reported : List Finding := []
  log : List Log.Entry := []

def Trace.add (t : Trace) (v : Violation) : Trace :=
  ⟨t.reported ++ [v.finding], t.log ++ [v.note]⟩

/-- A policy without rules looks at nothing. -/
def selects (p : Policy) (place : Place) : Bool :=
  !p.rules.isEmpty && (place.hasKind .call || place.hasKind .newExpr)

def violation? (p : Policy) (place : Place) : Option Violation :=
  match Call.site? p.checkConstructors place with
  | none => none
  | some site =>
    match Rule.findViolation p.rules site.name (toString site.argumentCount) with
    | some rule => some ⟨site, rule⟩
    | none => none

def check (p : Policy) : Check (StateM Trace) Place Finding where
  selects place := pure (p.selects place)
  apply place :=
    match p.violation? place with
    | none => pure none
    | some v => do
      modify (·.add v)
      return some v.finding
  finish := pure []

/-- The findings of a policy over a list of places, in source order. -/
def run (p : Policy) (places : List Place) : StateM Trace (List Finding) :=
  Check.run Finding.rank [p.check] places

end Policy
end CallPolicy

import CallPolicy.Config.Fault
import CallPolicy.Datum

/-!
# CallPolicy.Rule

A rule forbids calls by the name called and, where it says so, by the number of arguments. `compile`
checks what a rule is made from and compiles its patterns; `findViolation` gives the first rule of a
list that a call breaks.
-/

namespace CallPolicy

open Config

structure Rule where
  name : String
  namePattern : Pattern
  /-- None for any number of arguments. -/
  countPattern : Option Pattern
  reason : Option String

namespace Rule

/-- What a field of a rule is filled with. -/
inductive Given where
  | pattern (p : Pattern)
  | datum (d : Datum)

/-- A name as messages about a missing one show it: nothing at all if it counts as false. -/
def nameShown (name : Datum) : String := if name.truthy then name.displayed else ""

/-- A rule from its four fields, checked in order. -/
def make (name : Datum) (namePattern countPattern : Given) (reason : Datum) :
    Except Fault Rule :=
  match name with
  | .text n =>
    if n = "" then .error (.missingName "")
    else
      match namePattern with
      | .datum _ => .error (.notCompiled n .methodName)
      | .pattern np =>
        let count : Except Fault (Option Pattern) := match countPattern with
          | .pattern cp => .ok (some cp)
          | .datum .null => .ok none
          | .datum _ => .error (.notCompiled n .argumentCount)
        match count with
        | .error e => .error e
        | .ok cp =>
          match reason with
          | .null => .ok ⟨n, np, cp, none⟩
          | .text r => .ok ⟨n, np, cp, some r⟩
          | _ => .error (.reasonNotText n)
  | d => .error (.missingName (nameShown d))

/-- What a rule is made from before anything is checked. -/
structure Spec where
  name : Datum
  namePattern : Datum
  countPattern : Datum := .null
  reason : Datum := .null
  requireName : Bool := false
  requireReason : Bool := false

/-- Compiles a pattern of a rule; a mistake in it is a fault of the rule. -/
def compilePattern (rule : String) (role : PatternRole) (pattern : Datum) :
    Except Failure Pattern :=
  match pattern with
  | .text s =>
    match Pattern.compile s with
    | .ok p => .ok p
    | .error (.invalid why) => .error (.fault (.badPattern rule role s why))
    | .error .repeatTooLarge => .error (.defect .repeatTooLarge)
    | .error .numberTooLong => .error (.defect .numberTooLong)
    | .error .alphabetConflict => .error (.defect .alphabetConflict)
  | _ => .error (.defect .patternNotText)

/-- The pattern for argument counts. An empty one means any number. -/
def compileCount (rule : String) (pattern : Datum) : Except Failure Given :=
  if pattern.truthy then Given.pattern <$> compilePattern rule .argumentCount pattern
  else .ok (.datum .null)

/-- Fails with a fault where something that a rule needs is not there. -/
def require (isThere : Bool) (f : Fault) : Except Failure Unit :=
  if isThere then .ok () else .error (.fault f)

/-- Checks in order: a required name, the method name and its pattern, a required reason, the
pattern for argument counts, and last the name that every rule has. An empty reason means none. -/
def compile (spec : Spec) : Except Failure Rule := do
  let rule := spec.name.displayed
  require (!spec.requireName || spec.name.truthy) (.missingName "")
  require spec.namePattern.truthy (.missingMethodName rule)
  let namePattern ← compilePattern rule .methodName spec.namePattern
  require (!spec.requireReason || spec.reason.truthy) (.missingReason rule)
  let countPattern ← compileCount rule spec.countPattern
  let reason := if spec.reason.truthy then spec.reason else .null
  (make spec.name (.pattern namePattern) countPattern reason).mapError Failure.fault

/-- Whether a call breaks the rule. The number of arguments is matched as text. -/
def forbids (r : Rule) (name count : String) : Bool :=
  r.namePattern.accepts name && r.countPattern.all (·.accepts count)

/-- A one-line summary with both patterns in quotes. -/
def describe (r : Rule) : String :=
  r.name ++ ": methodName=" ++ Text.quoted r.namePattern.text ++ " argCount=" ++
    (match r.countPattern with
      | some p => Text.quoted p.text
      | none => "<any>")

/-- The first rule, in order, that a call breaks. -/
def findViolation (rules : List Rule) (name count : String) : Option Rule :=
  rules.find? (·.forbids name count)

/-- The place of that rule in the list. -/
def violationIndex? (rules : List Rule) (name count : String) : Option Nat :=
  rules.findIdx? (·.forbids name count)

end Rule
end CallPolicy

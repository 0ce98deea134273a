import CallPolicy.Proofs.Reporting
import CallPolicy.Session

/-!
# CallPolicy.Proofs.Sessions

Sessions, step by step. `after_eq` says all that a step can do; what holds after many steps follows
by induction on them.

* `after_of_failed`: a replacement that fails leaves the session as it was.
* `policy_afterAll`: the policy in force is that of the last replacement that did not fail.
* `reported_afterAll`: the number reported counts the findings of all runs, each under the policy
  that was in force then.
-/

namespace CallPolicy
namespace Session

/-- What is done in a session. -/
inductive Step where
  | update (change : Files → Files)
  | resolve (r : Config.Request)
  | setRules (specs : List Rule.Spec) (checkConstructors : Bool)
  | run (places : List Place)

namespace Step

/-- The files after a step. -/
def files (fs : Files) : Step → Files
  | update change => change fs
  | _ => fs

/-- What a replacement of the policy comes to, for a step that is one. -/
def replacement? (fs : Files) : Step → Option (Except Config.Failure Policy)
  | resolve r => some (Config.resolve fs r).start.1
  | setRules specs checkConstructors =>
    some ((specs.mapM Rule.compile).map fun rules => ⟨rules, checkConstructors⟩)
  | _ => none

/-- The policy that a step puts in force. -/
def policy? (fs : Files) (step : Step) : Option Policy :=
  match step.replacement? fs with
  | some (.ok p) => some p
  | _ => none

/-- What a step finds under a policy. -/
def findings (p : Policy) : Step → List Finding
  | run places => places.filterMap p.findingAt
  | _ => []

end Step

def after (s : Session) : Step → Session
  | .update change => ((update change).run s).2
  | .resolve r => ((resolve r).run s).2
  | .setRules specs checkConstructors => ((setRules specs checkConstructors).run s).2
  | .run places => ((run places).run s).2

def afterAll (s : Session) (steps : List Step) : Session := steps.foldl after s

/-! ## Steps -/

/-- A run gives what the policy in force gives, and counts what it finds. -/
theorem run_run (places : List Place) (s : Session) :
    (run places).run s =
      (((s.policy.run places).run {}),
        { s with reported := s.reported + (places.filterMap s.policy.findingAt).length }) := by
  have hreported : ((s.policy.run places).run {}).2.reported =
      places.filterMap s.policy.findingAt := by
    rw [Policy.run_eq, Policy.addAll_reported]
    rfl
  rw [← hreported]
  rfl

theorem adoptIf_run {ε : Type} (outcome : Except ε Policy) (s : Session) :
    ((adoptIf outcome).run s).2 =
      { s with policy := match outcome with
        | .ok p => p
        | .error _ => s.policy } := by
  cases outcome <;> rfl

/-- All that a step can do: it changes the files, puts another policy in force, or counts findings
under the policy there is. -/
theorem after_eq (s : Session) (step : Step) :
    s.after step =
      { files := step.files s.files
        policy := (step.policy? s.files).getD s.policy
        reported := s.reported + (step.findings s.policy).length } := by
  cases step with
  | update change => rfl
  | resolve r =>
    have hrun : s.after (.resolve r) =
        ((adoptIf (Config.resolve s.files r).start.1).run s).2 := rfl
    rw [hrun, adoptIf_run]
    simp only [Step.policy?, Step.replacement?]
    cases (Config.resolve s.files r).start.1 <;> rfl
  | setRules specs checkConstructors =>
    have hrun : s.after (.setRules specs checkConstructors) =
        ((adoptIf (do
          return (⟨← specs.mapM Rule.compile, checkConstructors⟩ : Policy))).run s).2 := rfl
    rw [hrun, adoptIf_run]
    simp only [Step.policy?, Step.replacement?]
    cases specs.mapM Rule.compile <;> rfl
  | run places => exact congrArg Prod.snd (run_run places s)

/-- A replacement touches nothing but the policy. -/
theorem after_of_replacement {s : Session} {step : Step} {outcome : Except Config.Failure Policy}
    (h : step.replacement? s.files = some outcome) :
    s.after step = { s with policy := (step.policy? s.files).getD s.policy } := by
  rw [after_eq]
  cases step with
  | update change => cases h
  | run places => cases h
  | resolve r => rfl
  | setRules specs checkConstructors => rfl

/-- One that fails leaves everything as it was. -/
theorem after_of_failed {s : Session} {step : Step} {e : Config.Failure}
    (h : step.replacement? s.files = some (.error e)) : s.after step = s := by
  rw [after_of_replacement h, Step.policy?, h]
  rfl

theorem after_of_replaced {s : Session} {step : Step} {p : Policy}
    (h : step.replacement? s.files = some (.ok p)) : s.after step = { s with policy := p } := by
  rw [after_of_replacement h, Step.policy?, h]
  rfl

/-! ## Many steps -/

/-- The policies that steps put in force, each made from the files that there are then. -/
def replacements (fs : Files) : List Step → List Policy
  | [] => []
  | step :: rest => (step.policy? fs).toList ++ replacements (step.files fs) rest

/-- What steps find, each under the policy that is in force then. -/
def found (s : Session) : List Step → List Finding
  | [] => []
  | step :: rest => step.findings s.policy ++ found (s.after step) rest

theorem policy_afterAll (s : Session) (steps : List Step) :
    (s.afterAll steps).policy = (replacements s.files steps).getLastD s.policy := by
  induction steps generalizing s with
  | nil => rfl
  | cons step rest ih =>
    have hfirst : s.afterAll (step :: rest) = (s.after step).afterAll rest := rfl
    rw [hfirst, ih, after_eq, replacements]
    cases step.policy? s.files with
    | none => rfl
    | some p => exact List.getLastD_cons.symm

theorem reported_afterAll (s : Session) (steps : List Step) :
    (s.afterAll steps).reported = s.reported + (found s steps).length := by
  induction steps generalizing s with
  | nil => rfl
  | cons step rest ih =>
    have hfirst : s.afterAll (step :: rest) = (s.after step).afterAll rest := rfl
    have hreported : (s.after step).reported =
        s.reported + (step.findings s.policy).length := by rw [after_eq]
    rw [hfirst, ih, hreported, found, List.length_append, Nat.add_assoc]

end Session
end CallPolicy

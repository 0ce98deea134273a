import CallPolicy.CommandLine
import CallPolicy.Proofs.Loading

/-!
# CallPolicy.Proofs.Outcomes

What a run makes of the options that it has read: which policy it asks for, what becomes of the
source files, and what is printed in the end.

* `checksAll_iff`: files are checked in their order, each with the trace of those before it.
* `prints_iff`: reports are printed as one document, or as text with an empty line between two.
* `run_eq_iff_comesTo`: `ComesTo` tells the outcome of a run with the options, whatever it is.
-/

namespace CallPolicy
namespace CommandLine

open Config

/-- What is printed by a run that cannot go on. -/
def printed (asText : Bool) (message : String) : String :=
  if asText then message ++ "\n"
  else Json.write (.record [("ok", .bool false), ("error", .text message)]) ++ "\n"

/-- Source files checked one after another, each with the trace that those before it left, up to a
name that is no path. -/
inductive ChecksAll (w : Workspace) (p : Policy) :
    List String → Policy.Trace → Except Path.NotPath (List Report.Result) → Policy.Trace → Prop
  | nil (t : Policy.Trace) : ChecksAll w p [] t (.ok []) t
  | breaks {name : String} {rest : List String} {e : Path.NotPath} {t t' : Policy.Trace}
      (hfirst : (ExceptT.run (Inspection.check w p name)).run t = (.error e, t')) :
      ChecksAll w p (name :: rest) t (.error e) t'
  | cons {name : String} {rest : List String} {t t₁ t' : Policy.Trace} {r : Report.Result}
      {outcome : Except Path.NotPath (List Report.Result)}
      (hfirst : (ExceptT.run (Inspection.check w p name)).run t = (.ok r, t₁))
      (hrest : ChecksAll w p rest t₁ outcome t') :
      ChecksAll w p (name :: rest) t (outcome.map (r :: ·)) t'

/-- What is printed of the reports: one document, or the lines of each, unless one has lines that
cannot be made. -/
inductive Prints (p : Policy) (results : List Report.Result) :
    Bool → Except Report.Result.TextFault String → Prop
  | document : Prints p results false (.ok (Json.write (.record
      [("ok", .bool true), ("results", .list (results.map Report.Result.datum)),
        ("timing_ms", .record [("total", .float 0.0)]),
        ("rules", .list (p.rules.map fun r => .text r.describe)),
        ("check_constructors", .bool p.checkConstructors)]) ++ "\n"))
  | text {blocks : List (List String)}
      (h : List.Forall₂ (fun r lines => r.lines (1 < results.length) = .ok lines) results blocks) :
      Prints p results true (.ok (String.intercalate "\n"
        (blocks.map fun lines => String.join (lines.map (· ++ "\n")))))
  | notText {before after : List Report.Result} {r : Report.Result} {f : Report.Result.TextFault}
      (hresults : results = before ++ r :: after)
      (hbefore : ∀ r' ∈ before, ∃ lines, r'.lines (1 < results.length) = .ok lines)
      (h : r.lines (1 < results.length) = .error f) : Prints p results true (.error f)

/-- What a run with the options comes to. A defect of the configuration breaks it off, and a fault
is answered. With a policy the files are checked in order under it, and the reports are printed.
Without the switch for it, only warnings of the log are shown. -/
inductive ComesTo (w : Workspace) (o : Options) : Except Break Outcome → Prop
  | defect {d : Defect} {log : List Log.Entry}
      (h : (resolve w.files o.request).start = (.error (.defect d), log)) :
      ComesTo w o (.error (.config d))
  | fault {f : Config.Fault} {log : List Log.Entry}
      (h : (resolve w.files o.request).start = (.error (.fault f), log)) :
      ComesTo w o (.ok
        { code := 2
          output := printed o.asText ("Configuration error: " ++ f.message)
          log := log.filter fun e => o.debug ∨ e.level = .warning })
  | notPath {p : Policy} {log : List Log.Entry} {e : Path.NotPath} {trace : Policy.Trace}
      (h : (resolve w.files o.request).start = (.ok p, log))
      (hchecked : ChecksAll w p o.files {} (.error e) trace) : ComesTo w o (.error (.source e))
  | notText {p : Policy} {log : List Log.Entry} {results : List Report.Result}
      {trace : Policy.Trace} {f : Report.Result.TextFault}
      (h : (resolve w.files o.request).start = (.ok p, log))
      (hchecked : ChecksAll w p o.files {} (.ok results) trace)
      (hprinted : Prints p results o.asText (.error f)) : ComesTo w o (.error (.output f))
  | checked {p : Policy} {log : List Log.Entry} {results : List Report.Result}
      {trace : Policy.Trace} {output : String}
      (h : (resolve w.files o.request).start = (.ok p, log))
      (hchecked : ChecksAll w p o.files {} (.ok results) trace)
      (hprinted : Prints p results o.asText (.ok output)) :
      ComesTo w o (.ok
        { code := 0
          output
          log := (log ++ trace.log).filter fun e => o.debug ∨ e.level = .warning })

/-! ## Files -/

theorem checkAll_cons_run (w : Workspace) (p : Policy) (name : String) (rest : List String)
    (t : Policy.Trace) :
    (ExceptT.run (Inspection.checkAll w p (name :: rest))).run t =
      match (ExceptT.run (Inspection.check w p name)).run t with
      | (.ok r, t₁) =>
        let (outcome, t') := (ExceptT.run (Inspection.checkAll w p rest)).run t₁
        (outcome.map (r :: ·), t')
      | (.error e, t₁) => (.error e, t₁) := by
  rw [Inspection.checkAll, run_bind_run]
  rcases (ExceptT.run (Inspection.check w p name)).run t with ⟨first, t₁⟩
  cases first with
  | error e => rfl
  | ok r =>
    simp only [run_bind_run]
    rcases (ExceptT.run (Inspection.checkAll w p rest)).run t₁ with ⟨outcome, t'⟩
    cases outcome <;> rfl

theorem checksAll_iff {w : Workspace} {p : Policy} {names : List String} {t t' : Policy.Trace}
    {outcome : Except Path.NotPath (List Report.Result)} :
    ChecksAll w p names t outcome t' ↔
      (ExceptT.run (Inspection.checkAll w p names)).run t = (outcome, t') := by
  constructor
  · intro h
    induction h with
    | nil t => rfl
    | breaks hfirst => rw [checkAll_cons_run, hfirst]
    | cons hfirst _ ih => rw [checkAll_cons_run, hfirst]; simp only [ih]
  · induction names generalizing t outcome with
    | nil => intro h; cases h; exact .nil _
    | cons name rest ih =>
      rw [checkAll_cons_run]
      rcases hfirst : (ExceptT.run (Inspection.check w p name)).run t with ⟨first, t₁⟩
      intro h
      cases first with
      | error e => cases h; exact .breaks hfirst
      | ok r => cases h; exact .cons hfirst (ih rfl)

/-! ## Output -/

theorem prints_iff {p : Policy} {results : List Report.Result} {asText : Bool}
    {printing : Except Report.Result.TextFault String} :
    Prints p results asText printing ↔
      (if asText then textOutput results else .ok (jsonOutput p results)) = printing := by
  cases asText with
  | false =>
    constructor
    · intro h; cases h; rfl
    · rintro rfl; exact .document
  | true =>
    rw [if_pos rfl, textOutput]
    constructor
    · intro h
      cases h with
      | text h => exact bind_eq_ok_iff.mpr ⟨_, mapM_eq_ok_iff.mpr h, rfl⟩
      | notText hresults hbefore h =>
        exact bind_eq_error_iff.mpr
          (Or.inl (mapM_eq_error_iff.mpr ⟨_, _, _, hresults, hbefore, h⟩))
    · intro h
      cases printing with
      | ok output =>
        obtain ⟨blocks, hblocks, houtput⟩ := bind_eq_ok_iff.mp h
        cases houtput
        exact .text (mapM_eq_ok_iff.mp hblocks)
      | error f =>
        rcases bind_eq_error_iff.mp h with h | ⟨blocks, -, h⟩
        · obtain ⟨before, r, after, hresults, hbefore, h⟩ := mapM_eq_error_iff.mp h
          exact .notText hresults hbefore h
        · cases h

/-! ## Runs -/

theorem shownLog_eq (debug : Bool) (log : List Log.Entry) :
    shownLog debug log = log.filter fun e => debug ∨ e.level = .warning := by
  cases debug <;> simp [shownLog]
  rfl

/-- What becomes of a run once there is a policy. -/
theorem inspect_eq (w : Workspace) (p : Policy) (asText : Bool) (names : List String)
    (log : List Log.Entry) :
    inspect w p asText names log =
      match (ExceptT.run (Inspection.checkAll w p names)).run {} with
      | (.error e, _) => .error (.source e)
      | (.ok results, trace) =>
        match if asText then textOutput results else .ok (jsonOutput p results) with
        | .error f => .error (.output f)
        | .ok output => .ok ⟨0, output, log ++ trace.log⟩ := by
  rw [inspect]
  rcases (ExceptT.run (Inspection.checkAll w p names)).run {} with ⟨outcome, trace⟩
  cases outcome with
  | error e => rfl
  | ok results =>
    cases asText with
    | false => rfl
    | true =>
      simp only [Except.mapError, bind, Except.bind, if_true]
      cases textOutput results <;> rfl

/-- A command line that cannot be read is answered before anything is looked at. -/
theorem run_of_fault {args : List String} {f : Fault} (h : Options.read args = .error f)
    (w : Workspace) :
    run w args = .ok ⟨2, printed (Switch.text.isSet args) f.message, []⟩ := by
  rw [run, h]
  rfl

section

variable {args : List String} {o : Options} {w : Workspace} {outcome : Except Break Outcome}

theorem run_of_read (hread : Options.read args = .ok o) :
    run w args = do
      let outcome ← perform w o
      return { outcome with log := shownLog o.debug outcome.log } := by
  rw [run, hread]

theorem run_of_comesTo (hread : Options.read args = .ok o) (h : ComesTo w o outcome) :
    run w args = outcome := by
  rw [run_of_read hread, perform]
  cases h with
  | defect h => rw [h]; rfl
  | fault h => rw [h, ← shownLog_eq]; rfl
  | notPath h hchecked =>
    rw [h]
    simp only [inspect_eq, checksAll_iff.mp hchecked]
    rfl
  | notText h hchecked hprinted =>
    rw [h]
    simp only [inspect_eq, checksAll_iff.mp hchecked, prints_iff.mp hprinted]
    rfl
  | checked h hchecked hprinted =>
    rw [h, ← shownLog_eq]
    simp only [inspect_eq, checksAll_iff.mp hchecked, prints_iff.mp hprinted]
    rfl

/-- There is no run that `ComesTo` does not tell of: each way it can go is one of the cases. -/
theorem exists_comesTo (w : Workspace) (o : Options) : ∃ outcome, ComesTo w o outcome := by
  rcases hresolved : (resolve w.files o.request).start with ⟨result, log⟩
  cases result with
  | error failure =>
    cases failure with
    | defect d => exact ⟨_, .defect hresolved⟩
    | fault f => exact ⟨_, .fault hresolved⟩
  | ok p =>
    rcases hchecked : (ExceptT.run (Inspection.checkAll w p o.files)).run {} with ⟨ended, trace⟩
    cases ended with
    | error e => exact ⟨_, .notPath hresolved (checksAll_iff.mpr hchecked)⟩
    | ok results =>
      cases hprinted : if o.asText then textOutput results else .ok (jsonOutput p results) with
      | error f =>
        exact ⟨_, .notText hresolved (checksAll_iff.mpr hchecked) (prints_iff.mpr hprinted)⟩
      | ok output =>
        exact ⟨_, .checked hresolved (checksAll_iff.mpr hchecked) (prints_iff.mpr hprinted)⟩

/-- Options that are read decide what a run comes to. -/
theorem run_eq_iff_comesTo (hread : Options.read args = .ok o) :
    run w args = outcome ↔ ComesTo w o outcome := by
  constructor
  · rintro rfl
    obtain ⟨outcome, h⟩ := exists_comesTo w o
    rwa [run_of_comesTo hread h]
  · exact run_of_comesTo hread

end

end CommandLine
end CallPolicy

import CallPolicy.Inspection
import CallPolicy.Proofs.Reporting
import CallPolicy.Proofs.Wording
import Mathlib.Data.List.Forall2

/-!
# CallPolicy.Proofs.Inspecting

What the report on a file holds, for every way a check can end.

* `TellsDiagnostic`, `TellsFinding`: what an item says of a diagnostic and of a finding.
* `least_isLeastOf`: `least` gives the least of the coordinates that are there.
* `ofItems_tallies`: a summary counts every item once, whatever its severity.
* `check_accounts`: the report on a file accounts for every diagnostic that concerns it, and for
  every finding or for the findings left out.
-/

namespace CallPolicy

namespace Report

/-- The summary counts the items: by severity, what is no error and no warning as information, all
of them, and those that come from rules. -/
structure Summary.Tallies (s : Summary) (items : List Item) : Prop where
  counted : s = .ofItems items
  errors : s.errors = items.countP (·.severity = .error)
  warnings : s.warnings = items.countP (·.severity = .warning)
  infos : s.infos = items.countP fun i => i.severity ≠ .error ∧ i.severity ≠ .warning
  sum : s.errors + s.warnings + s.infos = s.total
  total : s.total = items.length
  violations : s.violations = items.countP (·.origin.word? = some "rule")

/-- Every severity is counted under one of the three heads. -/
theorem Summary.ofItems_total (items : List Item) : (ofItems items).total = items.length := by
  induction items with
  | nil => rfl
  | cons i rest ih =>
    simp only [ofItems] at ih ⊢
    cases hs : i.severity <;> simp [hs] <;> omega

theorem length_filter_eq_countP {p q : Item → Bool} (items : List Item) (h : ∀ i, p i = q i) :
    (items.filter p).length = items.countP q := by
  rw [funext h, List.countP_eq_length_filter]

theorem Summary.ofItems_tallies (items : List Item) : (ofItems items).Tallies items where
  counted := rfl
  errors := length_filter_eq_countP items fun _ => rfl
  warnings := length_filter_eq_countP items fun _ => rfl
  infos := by
    refine length_filter_eq_countP items fun i => ?_
    cases i.severity <;> rfl
  sum := rfl
  total := ofItems_total items
  violations := by
    refine length_filter_eq_countP items fun i => ?_
    rw [Origin.isRule, Bool.eq_iff_iff, beq_iff_eq, decide_eq_true_iff]

theorem sorted_perm (items : List Item) : (sorted items).Perm items := List.mergeSort_perm items _

end Report

namespace Diagnostic

/-- How grave a diagnostic is to a report. -/
def gravity (d : Diagnostic) : Report.Severity :=
  match d.level with
  | .error | .fatal => .error
  | .warning => .warning
  | .ignored | .note | .unknown => .info

/-- Too grave for the policy to be run. -/
def Blocks (d : Diagnostic) : Prop := d.level = .error ∨ d.level = .fatal

instance (d : Diagnostic) : Decidable d.Blocks := inferInstanceAs (Decidable (_ ∨ _))

/-- The diagnostic has no file, or one whose path is `path`. An empty name is no file. -/
def Concerns (realpath : Path.Resolver) (path : String) (d : Diagnostic) : Prop :=
  d.file = none ∨ d.file = some "" ∨ d.file.map realpath.resolve = some path

instance (realpath : Path.Resolver) (path : String) (d : Diagnostic) :
    Decidable (d.Concerns realpath path) :=
  inferInstanceAs (Decidable (_ ∨ _ ∨ _))

end Diagnostic

theorem Coordinate.value?_eq_none_iff {c : Coordinate} : c.value? = none ↔ c = .absent := by
  cases c <;> simp [Coordinate.value?]

namespace Inspection

open Report

/-! ## Items -/

/-- The item tells a diagnostic: by whom and how grave, where it stands and what is said. -/
structure TellsDiagnostic (i : Item) (d : Diagnostic) : Prop where
  severity : i.severity = d.gravity
  source : i.origin.word? = some "clang"
  line : i.line = d.line
  column : i.column = d.column
  message : i.message = d.message
  detail : i.detail = none

/-- The item tells a finding: a warning where the call stands, with the message, and beside it what
the message is made of and the name of the rule. -/
structure TellsFinding (i : Item) (f : Finding) : Prop where
  severity : i.severity = .warning
  source : i.origin.word? = some "rule"
  line : i.line = f.line
  column : i.column = f.column
  message : ∃ text, f.message = .ok text ∧ i.message = some text
  detail : i.detail = some { key := f.key, args := f.args, rule := f.rule }

theorem ofDiagnostic_tells (d : Diagnostic) : TellsDiagnostic (ofDiagnostic d) d where
  severity := by cases h : d.level <;> simp only [ofDiagnostic, severity, Diagnostic.gravity, h]
  source := rfl
  line := rfl
  column := rfl
  message := rfl
  detail := rfl

theorem ofFinding_tells {f : Finding} {text : String} (h : f.message = .ok text) :
    TellsFinding (ofFinding f) f where
  severity := rfl
  source := rfl
  line := rfl
  column := rfl
  message := ⟨text, h, by rw [ofFinding, h]; rfl⟩
  detail := rfl

theorem forall₂_ofDiagnostic (ds : List Diagnostic) :
    List.Forall₂ TellsDiagnostic (ds.map ofDiagnostic) ds :=
  List.forall₂_map_left_iff.mpr (List.forall₂_same.mpr fun d _ => ofDiagnostic_tells d)

/-- Every finding of a run has a message. -/
theorem message_of_mem_run {p : Policy} {places : List Place} {start : Policy.Trace} {f : Finding}
    (h : f ∈ ((p.run places).run start).1) : ∃ text, f.message = .ok text := by
  rw [Policy.run_eq] at h
  obtain ⟨place, -, hplace⟩ := List.mem_filterMap.mp (List.mem_mergeSort.mp h)
  obtain ⟨name, r, -, htells⟩ := Policy.findingAt_eq_some_iff.mp hplace
  rw [Policy.tells_iff.mp htells, Finding.message, Message.form_ofCall, Message.args_ofCall]
  exact ⟨_, Message.render_contents _⟩

theorem forall₂_ofFinding (p : Policy) (places : List Place) (start : Policy.Trace) :
    let findings := ((p.run places).run start).1
    List.Forall₂ TellsFinding (findings.map ofFinding) findings := by
  intro findings
  rw [List.forall₂_map_left_iff, List.forall₂_same]
  intro f hf
  obtain ⟨text, htext⟩ := message_of_mem_run hf
  exact ofFinding_tells htext

/-! ## Diagnostics -/

theorem belongs_iff_concerns (realpath : Path.Resolver) {path : String} (hpath : path ≠ "")
    (d : Diagnostic) :
    Walk.belongs realpath.resolve (some path) d.file = true ↔ d.Concerns realpath path := by
  cases hf : d.file with
  | none => simp [Walk.belongs, Walk.named?, Diagnostic.Concerns, hf]
  | some file =>
    by_cases he : file = ""
    · simp [Walk.belongs, Walk.named?, Diagnostic.Concerns, hf, he]
    · simp [Walk.belongs, Walk.named?, Diagnostic.Concerns, hf, he, hpath]

/-- The diagnostics that a report on the file at `path` keeps. -/
def kept (realpath : Path.Resolver) (path : String) (ds : List Diagnostic) : List Diagnostic :=
  ds.filter (·.Concerns realpath path)

theorem parserItems_eq (realpath : Path.Resolver) {path : String} (hpath : path ≠ "")
    (ds : List Diagnostic) :
    parserItems realpath path ds = (kept realpath path ds).map ofDiagnostic := by
  rw [parserItems, kept]
  congr 1
  refine List.filter_congr fun d _ => ?_
  rw [Bool.eq_iff_iff, belongs_iff_concerns realpath hpath, decide_eq_true_iff]

theorem severity_eq_error_iff (d : Diagnostic) : (ofDiagnostic d).severity = .error ↔ d.Blocks := by
  cases h : d.level <;> simp [ofDiagnostic, severity, Diagnostic.Blocks, h]

theorem hasError_map_iff (ds : List Diagnostic) :
    hasError (ds.map ofDiagnostic) = true ↔ ∃ d ∈ ds, d.Blocks := by
  simp [hasError, severity_eq_error_iff]

theorem lines_of_errors (ds : List Diagnostic) :
    ((ds.map ofDiagnostic).filter (·.severity == .error)).map Item.line =
      (ds.filter (·.Blocks)).map Diagnostic.line := by
  rw [List.filter_map, List.map_map]
  have hfilter : ((fun i : Item => i.severity == .error) ∘ ofDiagnostic) =
      fun d => decide d.Blocks := by
    funext d
    rw [Bool.eq_iff_iff, Function.comp, beq_iff_eq, severity_eq_error_iff, decide_eq_true_iff]
  rw [hfilter]
  rfl

/-! ## The line of a note -/

/-- `c` is one of the coordinates and the least of those that are there, or none is. -/
def IsLeastOf (cs : List Coordinate) (c : Coordinate) : Prop :=
  c = .absent ∧ (∀ e ∈ cs, e = .absent) ∨
    c ∈ cs ∧ ∃ n, c.value? = some n ∧ ∀ e ∈ cs, ∀ m, e.value? = some m → n ≤ m

section

variable {cs : List Coordinate} {c l : Coordinate} {m n : Int}

theorem IsLeastOf.skip (h : IsLeastOf cs l) (hc : c.value? = none) : IsLeastOf (c :: cs) l := by
  have habsent := Coordinate.value?_eq_none_iff.mp hc
  rcases h with ⟨hl, hrest⟩ | ⟨hmem, n, hn, hleast⟩
  · exact Or.inl ⟨hl, by simpa [habsent] using hrest⟩
  · refine Or.inr ⟨List.mem_cons_of_mem _ hmem, n, hn, ?_⟩
    intro e he m hm
    rcases List.mem_cons.mp he with rfl | he
    · rw [hc] at hm; cases hm
    · exact hleast e he m hm

theorem isLeastOf_first (hc : c.value? = some m)
    (h : ∀ e ∈ cs, ∀ k, e.value? = some k → m ≤ k) : IsLeastOf (c :: cs) c := by
  refine Or.inr ⟨List.mem_cons_self, m, hc, ?_⟩
  intro e he k hk
  rcases List.mem_cons.mp he with rfl | he
  · rw [hc] at hk; cases hk; exact Int.le_refl _
  · exact h e he k hk

theorem isLeastOf_later (hmem : l ∈ cs) (hl : l.value? = some n) (hc : c.value? = some m)
    (hle : n ≤ m) (h : ∀ e ∈ cs, ∀ k, e.value? = some k → n ≤ k) : IsLeastOf (c :: cs) l := by
  refine Or.inr ⟨List.mem_cons_of_mem _ hmem, n, hl, ?_⟩
  intro e he k hk
  rcases List.mem_cons.mp he with rfl | he
  · rw [hc] at hk; cases hk; exact hle
  · exact h e he k hk

end

theorem least_isLeastOf (cs : List Coordinate) : IsLeastOf cs (least cs) := by
  induction cs with
  | nil => exact Or.inl ⟨rfl, by simp⟩
  | cons c rest ih =>
    rw [least]
    cases hc : c.value? with
    | none => exact ih.skip hc
    | some m =>
      rcases ih with ⟨hnone, hrest⟩ | ⟨hmem, n, hn, hleast⟩
      · rw [hnone]
        refine isLeastOf_first hc ?_
        intro e he k hk
        rw [hrest e he] at hk
        cases hk
      · simp only [hn]
        split
        · rename_i hmn
          exact isLeastOf_first hc fun e he k hk => Int.le_trans hmn (hleast e he k hk)
        · exact isLeastOf_later hmem hn hc (by omega) hleast

/-! ## Reports -/

theorem check_of_not_isPath (w : Workspace) (p : Policy) {name : String}
    (h : Path.isPath name = false) (start : Policy.Trace) :
    (ExceptT.run (check w p name)).run start = (.error ⟨name⟩, start) := by
  rw [check, h]
  rfl

/-- A check, step by step: what keeps the file from being parsed, what keeps the policy from being
run, and a run of the policy. -/
theorem check_run (w : Workspace) (p : Policy) {name : String} (h : Path.isPath name = true)
    (start : Policy.Trace) :
    (ExceptT.run (check w p name)).run start =
      let path := w.realpath.resolve name
      match w.parse name with
      | .error fault =>
        (.ok (failed (Path.baseName name) path (fault.message name)),
          { start with log := start.log ++ [failureNote name] })
      | .ok u =>
        let items := (kept w.realpath path u.diagnostics).map ofDiagnostic
        if hasError items then
          (.ok (succeeded (Path.baseName name) path (items ++ [skipped items])), start)
        else
          let (findings, after) :=
            (p.run (walkBy w.realpath.resolve (some path) u.tree)).run start
          (.ok (succeeded (Path.baseName name) path (items ++ findings.map ofFinding)), after) := by
  rw [check, h]
  cases w.parse name with
  | error fault => rfl
  | ok u =>
    simp only [parserItems_eq w.realpath (w.realpath.resolve_ne_empty name)]
    cases hasError ((kept w.realpath (w.realpath.resolve name) u.diagnostics).map ofDiagnostic) <;>
      rfl

/-- The item says that the policy was not run over a file with the diagnostics `ds`. -/
structure TellsSkip (i : Item) (ds : List Diagnostic) : Prop where
  severity : i.severity = .warning
  source : i.origin.word? = some "runtime"
  line : IsLeastOf ((ds.filter (·.Blocks)).map Diagnostic.line) i.line
  column : i.column = .absent
  message : i.message = some
    ("Forbidden call checks were skipped because parser errors were found. " ++
      "Fix parser errors first, then run the check again.")
  detail : i.detail = none

/-- The summary of a file that cannot be parsed is not counted, and yet it counts. -/
theorem failed_tallies (file path why : String) :
    (failed file path why).summary.Tallies (failed file path why).items :=
  Summary.ofItems_tallies (failed file path why).items

/-- The report keeps the diagnostics `ds` and, in place of findings, says that there are none. -/
structure Skips (r : Result) (ds : List Diagnostic) : Prop where
  items : ∃ told note, r.items.Perm (told ++ [note]) ∧
    List.Forall₂ TellsDiagnostic told ds ∧ TellsSkip note ds ∧
    r.items.filter (·.origin.word? = some "runtime") = [note]
  withoutRules : ∀ i ∈ r.items, i.origin.word? ≠ some "rule"
  length : r.items.length = ds.length + 1

/-- The report keeps the diagnostics `ds`, and has an item for each finding. -/
structure Lists (r : Result) (ds : List Diagnostic) (findings : List Finding) : Prop where
  items : ∃ told found, r.items.Perm (told ++ found) ∧
    List.Forall₂ TellsDiagnostic told ds ∧ List.Forall₂ TellsFinding found findings
  withoutNote : ∀ i ∈ r.items, i.origin.word? ≠ some "runtime"

theorem skipped_tells (ds : List Diagnostic) : TellsSkip (skipped (ds.map ofDiagnostic)) ds where
  severity := rfl
  source := rfl
  line := by
    rw [← lines_of_errors]
    exact least_isLeastOf _
  column := rfl
  message := rfl
  detail := rfl

theorem word?_of_mem_ofDiagnostic {ds : List Diagnostic} {i : Item}
    (h : i ∈ ds.map ofDiagnostic) : i.origin.word? = some "clang" := by
  obtain ⟨d, -, rfl⟩ := List.mem_map.mp h
  rfl

theorem word?_of_mem_ofFinding {findings : List Finding} {i : Item}
    (h : i ∈ findings.map ofFinding) : i.origin.word? = some "rule" := by
  obtain ⟨f, -, rfl⟩ := List.mem_map.mp h
  rfl

theorem succeeded_skips (file path : String) (ds : List Diagnostic) :
    let items := ds.map ofDiagnostic
    Skips (succeeded file path (items ++ [skipped items])) ds := by
  intro items
  have hperm : (sorted (items ++ [skipped items])).Perm (items ++ [skipped items]) :=
    sorted_perm _
  have hnote : (skipped items).origin.word? = some "runtime" := rfl
  have hnone : items.filter (·.origin.word? = some "runtime") = [] := by
    refine List.filter_eq_nil_iff.mpr fun i hi => ?_
    rw [word?_of_mem_ofDiagnostic hi]
    decide
  constructor
  · refine ⟨items, skipped items, hperm, forall₂_ofDiagnostic ds, skipped_tells ds, ?_⟩
    have hnotes := hperm.filter (·.origin.word? = some "runtime")
    rw [List.filter_append, hnone, List.filter_singleton, decide_eq_true hnote] at hnotes
    exact List.perm_singleton.mp hnotes
  · intro i hi
    rcases List.mem_append.mp (hperm.mem_iff.mp hi) with hi | hi
    · rw [word?_of_mem_ofDiagnostic hi]
      decide
    · rw [List.mem_singleton.mp hi, hnote]
      decide
  · rw [succeeded, hperm.length_eq]
    simp [items]

theorem succeeded_lists (file path : String) (ds : List Diagnostic) {findings : List Finding}
    (h : List.Forall₂ TellsFinding (findings.map ofFinding) findings) :
    Lists (succeeded file path (ds.map ofDiagnostic ++ findings.map ofFinding)) ds findings := by
  have hperm : (sorted (ds.map ofDiagnostic ++ findings.map ofFinding)).Perm
      (ds.map ofDiagnostic ++ findings.map ofFinding) := sorted_perm _
  refine ⟨⟨_, _, hperm, forall₂_ofDiagnostic ds, h⟩, ?_⟩
  intro i hi
  rcases List.mem_append.mp (hperm.mem_iff.mp hi) with hi | hi
  · rw [word?_of_mem_ofDiagnostic hi]
    decide
  · rw [word?_of_mem_ofFinding hi]
    decide

/-- **The report on a file accounts for everything.** Its summary counts its items, also where the
file could not be parsed. A diagnostic that blocks leaves the trace of the policy as it was, and the
report with one note, at the first line with such a diagnostic, and no finding; without one, every
finding of the policy over the file's own part of the tree is an item. Where links on paths lead is
for the workspace to say. There is no report on a name that is no path. -/
theorem check_accounts (w : Workspace) (p : Policy) (name : String) (start : Policy.Trace) :
    let (outcome, after) := (ExceptT.run (check w p name)).run start
    match outcome with
    | .error e => '\x00' ∈ name.toList ∧ e = ⟨name⟩ ∧ after = start
    | .ok r =>
      '\x00' ∉ name.toList ∧ r.summary.Tallies r.items ∧
      match w.parse name with
      | .error fault =>
        let message := "Failed to parse " ++ Path.baseName name ++ ": " ++ fault.message name
        r.error = some message ∧ r.items = [⟨.error, .run, .absent, .absent, some message, none⟩]
      | .ok u =>
        let path := w.realpath.resolve name
        let ds := u.diagnostics.filter (·.Concerns w.realpath path)
        let (findings, ran) := (p.run (walkBy w.realpath.resolve (some path) u.tree)).run start
        r.error = none ∧
        ((∃ d ∈ ds, d.Blocks) → Skips r ds ∧ after = start) ∧
        ((¬ ∃ d ∈ ds, d.Blocks) → Lists r ds findings ∧ after = ran) := by
  cases hname : Path.isPath name with
  | false =>
    rw [check_of_not_isPath w p hname]
    exact ⟨Path.isPath_eq_false_iff.mp hname, rfl, rfl⟩
  | true =>
    have hnul : '\x00' ∉ name.toList := by
      rw [← Path.isPath_eq_false_iff, hname]
      exact Bool.noConfusion
    rw [check_run w p hname]
    cases w.parse name with
    | error fault => exact ⟨hnul, failed_tallies _ _ _, rfl, rfl⟩
    | ok u =>
      by_cases hblocks : ∃ d ∈ kept w.realpath (w.realpath.resolve name) u.diagnostics, d.Blocks
      · have herror := (hasError_map_iff _).mpr hblocks
        simp only [herror, if_true]
        exact ⟨hnul, Summary.ofItems_tallies _, rfl, fun _ => ⟨succeeded_skips _ _ _, trivial⟩,
          fun hnone => absurd hblocks hnone⟩
      · have herror : hasError
            ((kept w.realpath (w.realpath.resolve name) u.diagnostics).map ofDiagnostic) = false :=
          Bool.eq_false_iff.mpr (mt (hasError_map_iff _).mp hblocks)
        simp only [herror, Bool.false_eq_true, if_false]
        exact ⟨hnul, Summary.ofItems_tallies _, rfl, fun hsome => absurd hsome hblocks,
          fun _ => ⟨succeeded_lists _ _ _ (forall₂_ofFinding _ _ _), rfl⟩⟩

end Inspection
end CallPolicy

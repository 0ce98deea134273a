import CallPolicy.Policy
import CallPolicy.Proofs.SourceOrder

/-!
# CallPolicy.Proofs.Reporting

What a policy finds over a list of places, and what is reported on the way.

* `findingAt_eq_some_iff`: there is a finding at a place exactly when a call stands there that the
  policy covers and that some rule forbids; it names the first such rule.
* `run_eq`: a run puts these findings in source order, and adds them to the trace in the order of
  the places.
* `run_after_runs`: so does every run of a sequence of runs, whatever came before it.
-/

namespace CallPolicy

/-- Effects of a list are those of its head and then those of its tail. -/
theorem run_mapM_cons {σ α β : Type} (f : α → StateM σ β) (x : α) (xs : List α) (s : σ) :
    ((x :: xs).mapM f).run s =
      let (b, s₁) := (f x).run s
      let (bs, s₂) := (xs.mapM f).run s₁
      (b :: bs, s₂) := by
  rw [List.mapM_cons]; rfl

namespace Call

theorem describe_of_other {p : Place} (h : (p.hasKind .call || p.hasKind .newExpr) = false) :
    describe p = notACall := by
  rw [Bool.or_eq_false_iff] at h
  simp [describe, h.1, h.2]

theorem site?_eq_some_iff {b : Bool} {p : Place} {s : Site} :
    site? b p = some s ↔
      (describe p).shape.isCheckable = true ∧ (b = true ∨ (describe p).shape ≠ .construction) ∧
      (describe p).name = some s.name ∧ s.shape = (describe p).shape ∧
      s.argumentCount = (describe p).argumentCount ∧ s.line = p.facts.line ∧
      s.column = p.facts.column := by
  obtain ⟨shape, name, count, line, column⟩ := s
  simp only [site?]
  split
  · rename_i hn; simp [hn]
  · rename_i n hn
    simp only [hn, Option.ite_none_right_eq_some, Bool.and_eq_true, Bool.or_eq_true, bne_iff_ne,
      Option.some.injEq, Site.mk.injEq]
    grind

end Call

theorem Rule.findViolation_eq_some_iff {rules : List Rule} {name count : String} {r : Rule} :
    Rule.findViolation rules name count = some r ↔
      ∃ k : Nat, rules[k]? = some r ∧ r.forbids name count = true ∧
        ∀ j < k, ∀ e : Rule, rules[j]? = some e → e.forbids name count = false := by
  rw [Rule.findViolation, List.find?_eq_some_iff_getElem]
  constructor
  · rintro ⟨hr, k, hk, rfl, hbefore⟩
    refine ⟨k, List.getElem?_eq_getElem hk, hr, ?_⟩
    intro j hj e he
    obtain ⟨hlt, rfl⟩ := List.getElem?_eq_some_iff.mp he
    simpa using hbefore j hj
  · rintro ⟨k, hk, hr, hbefore⟩
    obtain ⟨hlt, rfl⟩ := List.getElem?_eq_some_iff.mp hk
    refine ⟨hr, k, hlt, rfl, ?_⟩
    intro j hj
    simpa using hbefore j hj _ (List.getElem?_eq_getElem (by omega))

namespace Policy

/-- Calls of this shape fall under the policy. -/
def Covers (p : Policy) (s : Call.Shape) : Prop :=
  s = .plain ∨ s = .qualified ∨ s = .construction ∧ p.checkConstructors = true

/-- A call of `name` stands at the place, the policy covers it, and `r` is the first rule that
forbids it. -/
structure Forbids (p : Policy) (place : Place) (name : String) (r : Rule) : Prop where
  covered : p.Covers (Call.describe place).shape
  named : (Call.describe place).name = some name
  first : ∃ k : Nat, p.rules[k]? = some r ∧
    r.forbids name (toString (Call.describe place).argumentCount) = true ∧
    ∀ j < k, ∀ e : Rule, p.rules[j]? = some e →
      e.forbids name (toString (Call.describe place).argumentCount) = false

/-- The finding is about the call of `name` at the place and the rule `r`: it stands where the place
does, and shows the name, the texts of the rule's patterns, the count where there is a pattern for
it, and the reason where there is one. -/
structure Tells (f : Finding) (place : Place) (name : String) (r : Rule) : Prop where
  line : f.line = place.facts.line
  column : f.column = place.facts.column
  form : f.form = if r.countPattern.isSome then .counted else .uncounted
  args : f.args = [.text name, .text r.namePattern.text] ++
    (match r.countPattern with
      | some c => [.int (Call.describe place).argumentCount, .text c.text]
      | none => []) ++
    r.reason.toList.map .text
  rule : f.rule = r.name

/-- What the policy finds at a place. -/
def findingAt (p : Policy) (place : Place) : Option Finding :=
  (p.violation? place).map Violation.finding

theorem covers_iff {p : Policy} {s : Call.Shape} :
    p.Covers s ↔ s.isCheckable = true ∧ (p.checkConstructors = true ∨ s ≠ .construction) := by
  cases s <;> simp [Covers, Call.Shape.isCheckable]

theorem violation?_eq_some_iff {p : Policy} {place : Place} {v : Violation} :
    p.violation? place = some v ↔
      Call.site? p.checkConstructors place = some v.site ∧
      Rule.findViolation p.rules v.site.name (toString v.site.argumentCount) = some v.rule := by
  obtain ⟨site, rule⟩ := v
  unfold violation?
  cases hs : Call.site? p.checkConstructors place with
  | none => simp
  | some s => cases hr : Rule.findViolation p.rules s.name (toString s.argumentCount) <;> grind

theorem tells_iff {f : Finding} {place : Place} {name : String} {r : Rule} :
    Tells f place name r ↔
      f = .ofCall name (Call.describe place).argumentCount place.facts.line place.facts.column
        r := by
  obtain ⟨line, column, form, args, rule⟩ := f
  constructor
  · rintro ⟨hline, hcolumn, hform, hargs, hrule⟩
    cases hc : r.countPattern <;> simp_all [Finding.ofCall]
  · intro h
    cases hc : r.countPattern <;> simp only [Finding.ofCall, hc, Finding.mk.injEq] at h <;>
      obtain ⟨rfl, rfl, rfl, rfl, rfl⟩ := h <;> constructor <;> simp [hc]

theorem findingAt_eq_some_iff {p : Policy} {place : Place} {f : Finding} :
    p.findingAt place = some f ↔ ∃ name r, p.Forbids place name r ∧ Tells f place name r := by
  simp only [findingAt, Option.map_eq_some_iff, violation?_eq_some_iff, Call.site?_eq_some_iff]
  constructor
  · rintro ⟨v, ⟨⟨hshape, hswitch, hname, -, hcount, hline, hcolumn⟩, hrule⟩, rfl⟩
    rw [hcount, Rule.findViolation_eq_some_iff] at hrule
    refine ⟨v.site.name, v.rule, ⟨covers_iff.mpr ⟨hshape, hswitch⟩, hname, hrule⟩, ?_⟩
    rw [tells_iff, Violation.finding, Finding.ofSite, hcount, hline, hcolumn]
  · rintro ⟨name, r, ⟨hcovered, hname, hfirst⟩, htells⟩
    obtain ⟨hshape, hswitch⟩ := covers_iff.mp hcovered
    let site : Call.Site := ⟨(Call.describe place).shape, name, (Call.describe place).argumentCount,
      place.facts.line, place.facts.column⟩
    refine ⟨⟨site, r⟩, ⟨⟨hshape, hswitch, hname, rfl, rfl, rfl, rfl⟩, ?_⟩, ?_⟩
    · exact Rule.findViolation_eq_some_iff.mpr hfirst
    · exact (tells_iff.mp htells).symm

/-- A policy overlooks no place at which it would find something. -/
theorem selects_of_violation {p : Policy} {place : Place} {v : Violation}
    (h : p.violation? place = some v) : p.selects place = true := by
  obtain ⟨hsite, hrule⟩ := violation?_eq_some_iff.mp h
  have hrules : p.rules.isEmpty = false := by
    cases hr : p.rules with
    | nil => simp [hr, Rule.findViolation] at hrule
    | cons => rfl
  have hkind : (place.hasKind .call || place.hasKind .newExpr) = true := by
    cases hk : place.hasKind .call || place.hasKind .newExpr with
    | true => rfl
    | false =>
      have hname := (Call.site?_eq_some_iff.mp hsite).2.2.1
      rw [Call.describe_of_other hk] at hname
      cases hname
  rw [selects, hrules, hkind]; rfl

/-! ## Runs -/

/-- A trace to which violations are added one after another. -/
def Trace.addAll (t : Trace) (vs : List Violation) : Trace :=
  ⟨t.reported ++ vs.map Violation.finding, t.log ++ vs.map Violation.note⟩

theorem Trace.addAll_nil (t : Trace) : t.addAll [] = t := by
  simp [addAll]

theorem Trace.addAll_addAll (t : Trace) (vs ws : List Violation) :
    (t.addAll vs).addAll ws = t.addAll (vs ++ ws) := by
  simp [addAll]

theorem findingAt_toList (p : Policy) (place : Place) :
    (p.findingAt place).toList = (p.violation? place).toList.map Violation.finding := by
  rw [findingAt]
  cases p.violation? place <;> rfl

/-- One place: what is found there is given back and added to the trace. -/
theorem atNode_run (p : Policy) (place : Place) (t : Trace) :
    (p.check.atNode place).run t =
      ((p.findingAt place).toList, t.addAll (p.violation? place).toList) := by
  rw [findingAt_toList]
  cases hv : p.violation? place with
  | none =>
    simp only [Option.toList_none, List.map_nil, Trace.addAll_nil]
    cases hs : p.selects place <;> simp [Check.atNode, check, hs, hv] <;> rfl
  | some v =>
    simp [Check.atNode, check, selects_of_violation hv, hv, Trace.addAll, Trace.add]
    rfl

/-- What the policy finds at one place, as the only check there is. -/
def visit (p : Policy) (place : Place) : StateM Trace (List (List Finding)) :=
  [p.check].mapM fun c => c.atNode place

theorem visit_run (p : Policy) (place : Place) (t : Trace) :
    (p.visit place).run t =
      ([(p.findingAt place).toList], t.addAll (p.violation? place).toList) := by
  simp [visit, atNode_run]
  rfl

/-- All places, by induction: the trace has grown by the violations at the places gone over. -/
theorem mapM_visit_run (p : Policy) (places : List Place) (t : Trace) :
    (places.mapM p.visit).run t =
      (places.map fun x => [(p.findingAt x).toList], t.addAll (places.filterMap p.violation?)) := by
  induction places generalizing t with
  | nil => rw [List.filterMap_nil, Trace.addAll_nil]; rfl
  | cons x rest ih =>
    have hviolations : (x :: rest).filterMap p.violation? =
        (p.violation? x).toList ++ rest.filterMap p.violation? := by
      cases hv : p.violation? x <;> simp [hv]
    rw [run_mapM_cons, visit_run]
    simp only [ih, Trace.addAll_addAll, hviolations, List.map_cons]

theorem emitted_run (p : Policy) (places : List Place) (t : Trace) :
    (Check.emitted [p.check] places).run t =
      (places.filterMap p.findingAt, t.addAll (places.filterMap p.violation?)) := by
  have hfound : (places.map fun x => [(p.findingAt x).toList]).flatten.flatten =
      places.filterMap p.findingAt := by
    induction places with
    | nil => rfl
    | cons x rest ih => cases hx : p.findingAt x <;> simp_all
  have hrun : (Check.emitted [p.check] places).run t =
      (((places.mapM p.visit).run t).1.flatten.flatten ++ [],
        ((places.mapM p.visit).run t).2) := rfl
  rw [hrun, mapM_visit_run, hfound, List.append_nil]

/-- A run gives back what is found, in source order, and reports it in the order of the places. -/
theorem run_eq (p : Policy) (places : List Place) (t : Trace) :
    (p.run places).run t =
      (Check.inSourceOrder Finding.rank (places.filterMap p.findingAt),
        t.addAll (places.filterMap p.violation?)) := by
  have hrun : (p.run places).run t =
      (Check.inSourceOrder Finding.rank ((Check.emitted [p.check] places).run t).1,
        ((Check.emitted [p.check] places).run t).2) := rfl
  rw [hrun, emitted_run]

theorem addAll_reported (p : Policy) (places : List Place) (t : Trace) :
    (t.addAll (places.filterMap p.violation?)).reported =
      t.reported ++ places.filterMap p.findingAt := by
  rw [Trace.addAll, List.map_filterMap]; rfl

/-- **Every run of a sequence of runs.** Whatever was run before, a run reports the findings at its
places in the order of the places, one for each place where a rule forbids what the policy covers
and none for any other place, and gives back the same findings by line and column. An absent line
ranks as 1000000000 and an absent column as zero. The choice of places that a policy looks at leaves
none of them out. -/
theorem run_after_runs (p : Policy) (earlier : List (List Place)) (start : Trace)
    (places : List Place) :
    (∀ place f, p.findingAt place = some f ↔
      ∃ name r, p.Forbids place name r ∧ Tells f place name r) ∧
    (∀ place, (p.findingAt place).isSome = true → p.selects place = true) ∧
    let before := ((earlier.mapM p.run).run start).2
    let (result, after) := (p.run places).run before
    after.reported = before.reported ++ places.filterMap p.findingAt ∧
      Check.Arranges
        (fun f => ⟨f.line.value?.getD 1000000000, f.column.value?.getD 0⟩)
        (places.filterMap p.findingAt) result ∧
      result = ((p.run places).run {}).1 := by
  refine ⟨fun _ _ => findingAt_eq_some_iff, ?_, ?_⟩
  · intro place h
    obtain ⟨f, hf⟩ := Option.isSome_iff_exists.mp h
    obtain ⟨v, hv, -⟩ := Option.map_eq_some_iff.mp hf
    exact selects_of_violation hv
  · have hrank : Finding.rank =
        fun f => ⟨f.line.value?.getD 1000000000, f.column.value?.getD 0⟩ :=
      funext fun f => Rank.ofPosition_eq f.line f.column
    simp only [run_eq, addAll_reported, true_and, and_true, ← hrank]
    exact Check.inSourceOrder_arranges _ _

end Policy
end CallPolicy

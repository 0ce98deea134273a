import CallPolicy.Proofs.RulesFiles

/-!
# CallPolicy.Proofs.Validation

The checks that a rule made of texts goes through, one after another.

* `Texts.Runs.bind`: a step that makes one check, and then a run through the checks after it.
* `Texts.compile_runs`: making a rule runs through all checks in their order.
* `compile_in_order`: valid texts make a rule, which keeps them; any others come to the fault of the
  first check that they fail.
-/

namespace CallPolicy

open Config

namespace Rule

/-- What a rule is made of when it is made of texts: any of them may be missing. -/
structure Texts where
  name : Option String
  methodName : Option String
  argumentCount : Option String
  reason : Option String
  needsName : Bool
  needsReason : Bool

/-- The checks of a rule. -/
inductive Stage where
  | requiredName
  | methodName
  | methodPattern
  | requiredReason
  | countPattern
  | name
  deriving DecidableEq

def Stage.inOrder : List Stage :=
  [requiredName, methodName, methodPattern, requiredReason, countPattern, name]

/-- A text that is there and not empty. -/
def IsGiven (text : Option String) : Prop := ∃ s, text = some s ∧ s ≠ ""

namespace Texts

def spec (t : Texts) : Spec where
  name := Datum.ofText? t.name
  namePattern := Datum.ofText? t.methodName
  countPattern := Datum.ofText? t.argumentCount
  reason := Datum.ofText? t.reason
  requireName := t.needsName
  requireReason := t.needsReason

/-- The name as faults show it. -/
def label (t : Texts) : String := t.name.getD "None"

/-- What a check finds wrong, whatever the others find. -/
def Fails (t : Texts) : Stage → Fault → Prop
  | .requiredName, f => t.needsName = true ∧ ¬ IsGiven t.name ∧ f = .missingName ""
  | .methodName, f => ¬ IsGiven t.methodName ∧ f = .missingMethodName t.label
  | .methodPattern, f => ∃ m why, t.methodName = some m ∧ m ≠ "" ∧
      Pattern.compile m = .error (.invalid why) ∧ f = .badPattern t.label .methodName m why
  | .requiredReason, f => t.needsReason = true ∧ ¬ IsGiven t.reason ∧ f = .missingReason t.label
  | .countPattern, f => ∃ c why, t.argumentCount = some c ∧ c ≠ "" ∧
      Pattern.compile c = .error (.invalid why) ∧ f = .badPattern t.label .argumentCount c why
  | .name, f => ¬ IsGiven t.name ∧ f = .missingName ""

/-- Of several checks in order, the first that finds something wrong finds this. -/
def FirstFault (t : Texts) : List Stage → Fault → Prop
  | [], _ => False
  | s :: rest, f => t.Fails s f ∨ (∀ f', ¬ t.Fails s f') ∧ t.FirstFault rest f

/-- The texts that make a rule. -/
structure IsValid (t : Texts) : Prop where
  name : IsGiven t.name
  methodName : ∃ m p, t.methodName = some m ∧ m ≠ "" ∧ Pattern.compile m = .ok p
  reason : t.needsReason = true → IsGiven t.reason
  argumentCount : t.argumentCount = none ∨ t.argumentCount = some "" ∨
    ∃ c p, t.argumentCount = some c ∧ Pattern.compile c = .ok p

/-- What the rule keeps of the texts. An empty text for the number of arguments means any number,
and an empty reason is none. -/
structure IsKept (t : Texts) (r : Rule) : Prop where
  name : t.name = some r.name
  methodName : t.methodName = some r.namePattern.text
  namePattern : Pattern.compile r.namePattern.text = .ok r.namePattern
  argumentCount : ∀ p, r.countPattern = some p →
    t.argumentCount = some p.text ∧ Pattern.compile p.text = .ok p
  anyCount : r.countPattern = none ↔ t.argumentCount = none ∨ t.argumentCount = some ""
  reason : r.reason = t.reason.filter (· != "")

/-- The patterns are read, or there is a fault in them. -/
def AreForeseen (t : Texts) : Prop :=
  ∀ text, t.methodName = some text ∨ t.argumentCount = some text → Pattern.IsForeseen text

/-- Some work makes these checks in order: it comes to the first fault, and to no defect. -/
structure Runs (t : Texts) {α : Type} (stages : List Stage) (work : Except Failure α) : Prop where
  ne_defect : ∀ d, work ≠ .error (.defect d)
  fault_iff : ∀ f, work = .error (.fault f) ↔ t.FirstFault stages f

section

variable {t : Texts} {α β : Type} {s : Stage} {stages rest : List Stage} {f : Fault}

theorem forall_not_firstFault_iff :
    (∀ f, ¬ t.FirstFault stages f) ↔ ∀ s ∈ stages, ∀ f, ¬ t.Fails s f := by
  induction stages with
  | nil => simp [FirstFault]
  | cons s rest ih =>
    rw [List.forall_mem_cons, ← ih]
    simp only [FirstFault]
    grind

/-- Work that makes checks succeeds if nothing is wrong. -/
theorem Runs.ok_iff {work : Except Failure α} (h : t.Runs stages work) :
    (∃ a, work = .ok a) ↔ ∀ s ∈ stages, ∀ f, ¬ t.Fails s f := by
  rw [← forall_not_firstFault_iff]
  cases work with
  | ok a => simp [← h.fault_iff]
  | error e =>
    cases e with
    | fault f => simp [← h.fault_iff]
    | defect d => exact absurd rfl (h.ne_defect d)

/-- Work that makes one check. -/
theorem Runs.single {work : Except Failure α} (hdefect : ∀ d, work ≠ .error (.defect d))
    (hfault : ∀ f, work = .error (.fault f) ↔ t.Fails s f) : t.Runs [s] work where
  ne_defect := hdefect
  fault_iff f := (hfault f).trans (by simp [FirstFault])

/-- One check first, and then the others. -/
theorem Runs.bind {work : Except Failure α} {next : α → Except Failure β} (hwork : t.Runs [s] work)
    (hnext : ∀ a, work = .ok a → t.Runs rest (next a)) : t.Runs (s :: rest) (work >>= next) where
  ne_defect d h := by
    rcases bind_eq_error_iff.mp h with h | ⟨a, ha, h⟩
    · exact hwork.ne_defect d h
    · exact (hnext a ha).ne_defect d h
  fault_iff f := by
    have hpasses : (∃ a, work = .ok a) ↔ ∀ f', ¬ t.Fails s f' := by simpa using hwork.ok_iff
    have hfirst : t.FirstFault [s] f ↔ t.Fails s f := by simp [FirstFault]
    rw [bind_eq_error_iff, hwork.fault_iff, hfirst, FirstFault, ← hpasses]
    refine or_congr_right ?_
    constructor
    · rintro ⟨a, ha, hf⟩
      exact ⟨⟨a, ha⟩, ((hnext a ha).fault_iff f).mp hf⟩
    · rintro ⟨⟨a, ha⟩, hf⟩
      exact ⟨a, ha, ((hnext a ha).fault_iff f).mpr hf⟩

/-! ## The checks one by one -/

theorem isGiven_iff {text : Option String} : IsGiven text ↔ (Datum.ofText? text).truthy = true :=
  Datum.truthy_ofText?_iff.symm

theorem runs_requiredName : t.Runs [.requiredName]
    (require (!t.needsName || (Datum.ofText? t.name).truthy) (.missingName "")) := by
  refine .single (fun _ => require_ne_defect) fun f => ?_
  simp [require_eq_fault_iff, Fails, isGiven_iff, and_assoc]

theorem runs_methodName : t.Runs [.methodName]
    (require (Datum.ofText? t.methodName).truthy (.missingMethodName t.label)) := by
  refine .single (fun _ => require_ne_defect) fun f => ?_
  simp [require_eq_fault_iff, Fails, isGiven_iff]

theorem runs_methodPattern {m : String} (hm : t.methodName = some m) (hne : m ≠ "")
    (hforeseen : Pattern.IsForeseen m) :
    t.Runs [.methodPattern] (compilePattern t.label .methodName (.text m)) := by
  refine .single (fun d h => ?_) fun f => ?_
  · exact hforeseen.not_upsets d (compilePattern_eq_defect_iff.mp h)
  · simp [compilePattern_eq_fault_iff, Fails, hm, hne]

theorem runs_requiredReason : t.Runs [.requiredReason]
    (require (!t.needsReason || (Datum.ofText? t.reason).truthy) (.missingReason t.label)) := by
  refine .single (fun _ => require_ne_defect) fun f => ?_
  simp [require_eq_fault_iff, Fails, isGiven_iff, and_assoc]

theorem runs_countPattern (hforeseen : ∀ c, t.argumentCount = some c → Pattern.IsForeseen c) :
    t.Runs [.countPattern] (compileCount t.label (Datum.ofText? t.argumentCount)) := by
  refine .single (fun d h => ?_) fun f => compileCount_eq_fault_iff
  obtain ⟨c, hc, -, hupsets⟩ := compileCount_eq_defect_iff.mp h
  exact (hforeseen c hc).not_upsets d hupsets

theorem not_isGiven_iff {text : Option String} : ¬ IsGiven text ↔ text = none ∨ text = some "" := by
  rw [isGiven_iff, Bool.not_eq_true, truthy_ofText?_eq_false_iff]

/-- The rule itself is made last. All that may still be missing then is its name. -/
theorem runs_name (np : Pattern) (cp : Option Pattern) (reason : Option String) :
    t.Runs [.name] ((make (Datum.ofText? t.name) (.pattern np) (countField cp)
      (Datum.ofText? reason)).mapError Failure.fault) := by
  refine .single (fun d h => ?_) fun f => ?_
  · obtain ⟨f, -, hf⟩ := mapError_eq_error_iff.mp h
    cases hf
  · by_cases hname : IsGiven t.name
    · obtain ⟨name, heq, hne⟩ := hname
      rw [heq, Datum.ofText?, make_fields hne]
      simp [Except.mapError, Fails, IsGiven, heq, hne]
    · have hmake : make (Datum.ofText? t.name) (.pattern np) (countField cp)
          (Datum.ofText? reason) = .error (.missingName "") := by
        rcases not_isGiven_iff.mp hname with h | h <;> rw [h] <;> rfl
      simp [hmake, Except.mapError, Fails, hname, eq_comm]

theorem displayed_name (t : Texts) : t.spec.name.displayed = t.label := by
  simp only [spec, label]
  cases t.name <;> simp [Datum.ofText?, Datum.displayed, Datum.shown]

/-- **Making a rule makes its checks in order.** -/
theorem compile_runs (h : t.AreForeseen) : t.Runs Stage.inOrder (compile t.spec) := by
  have hreason : (if t.spec.reason.truthy = true then t.spec.reason else .null) =
      Datum.ofText? (t.reason.filter (· != "")) := reasonField_eq t.reason
  simp only [compile, displayed_name, hreason]
  refine .bind runs_requiredName fun _ _ => .bind runs_methodName fun _ hthere => ?_
  obtain ⟨m, hm, hne⟩ := isGiven_iff.mpr (require_eq_ok_iff.mp hthere)
  have hpattern : t.spec.namePattern = .text m := by simp [spec, hm, Datum.ofText?]
  rw [hpattern]
  refine .bind (runs_methodPattern hm hne (h m (Or.inl hm))) fun np _ => ?_
  refine .bind runs_requiredReason fun _ _ => ?_
  refine .bind (runs_countPattern fun c hc => h c (Or.inr hc)) fun g hg => ?_
  obtain ⟨cp, -, rfl⟩ := compileCount_eq_ok_iff.mp hg
  exact runs_name np cp _

/-- Nothing is wrong with texts that make a rule, and something is with all others. -/
theorem isValid_iff (h : t.AreForeseen) :
    t.IsValid ↔ ∀ s ∈ Stage.inOrder, ∀ f, ¬ t.Fails s f := by
  constructor
  · intro hvalid s _ f hfails
    obtain ⟨m, p, hm, hne, hp⟩ := hvalid.methodName
    cases s with
    | requiredName => exact hfails.2.1 hvalid.name
    | methodName => exact hfails.1 ⟨m, hm, hne⟩
    | methodPattern =>
      obtain ⟨m', why, hm', -, hwhy, -⟩ := hfails
      obtain rfl : m = m' := Option.some.inj (hm.symm.trans hm')
      rw [hp] at hwhy
      cases hwhy
    | requiredReason => exact hfails.2.1 (hvalid.reason hfails.1)
    | countPattern =>
      obtain ⟨c, why, hc, hne, hwhy, -⟩ := hfails
      rcases hvalid.argumentCount with hnone | hempty | ⟨c', p', hc', hp'⟩
      · rw [hnone] at hc
        cases hc
      · exact hne (Option.some.inj (hc.symm.trans hempty))
      · obtain rfl : c = c' := Option.some.inj (hc.symm.trans hc')
        rw [hp'] at hwhy
        cases hwhy
    | name => exact hfails.1 hvalid.name
  · intro hpasses
    have hgiven : IsGiven t.methodName := by
      by_contra hmissing
      exact hpasses .methodName (by decide) _ ⟨hmissing, rfl⟩
    refine ⟨?_, ?_, ?_, ?_⟩
    · by_contra hmissing
      exact hpasses .name (by decide) _ ⟨hmissing, rfl⟩
    · obtain ⟨m, hm, hne⟩ := hgiven
      rcases h m (Or.inl hm) with ⟨p, hp⟩ | ⟨why, hwhy⟩
      · exact ⟨m, p, hm, hne, hp⟩
      · exact absurd ⟨m, why, hm, hne, hwhy, rfl⟩ (hpasses .methodPattern (by decide) _)
    · intro hneeds
      by_contra hmissing
      exact hpasses .requiredReason (by decide) _ ⟨hneeds, hmissing, rfl⟩
    · by_cases hcount : IsGiven t.argumentCount
      · obtain ⟨c, hc, hne⟩ := hcount
        rcases h c (Or.inr hc) with ⟨p, hp⟩ | ⟨why, hwhy⟩
        · exact Or.inr (Or.inr ⟨c, p, hc, hp⟩)
        · exact absurd ⟨c, why, hc, hne, hwhy, rfl⟩ (hpasses .countPattern (by decide) _)
      · exact (not_isGiven_iff.mp hcount).imp_right Or.inl

/-- A rule that is made keeps what it is made of. -/
theorem isKept_of_compile {r : Rule} (hname : IsGiven t.name) (h : compile t.spec = .ok r) :
    t.IsKept r := by
  obtain ⟨name, heq, hne⟩ := hname
  have hspec : t.spec.name = .text name := by simp [spec, heq, Datum.ofText?]
  obtain ⟨⟨m, hm, -, hp⟩, -, hcount, hmade, hreason⟩ :=
    (compile_eq_ok_iff hspec hne rfl rfl rfl).mp h
  have htext : r.namePattern.text = m := Pattern.compile_text hp
  refine ⟨by rw [heq, hmade], by rw [hm, htext], by rw [htext, hp], ?_, ?_, hreason⟩
  · intro p hpattern
    rw [hpattern] at hcount
    generalize t.argumentCount = c at hcount
    cases hcount with
    | pattern _ hp => rw [Pattern.compile_text hp]; exact ⟨rfl, hp⟩
  · generalize t.argumentCount = c at hcount
    generalize r.countPattern = cp at hcount
    cases hcount with
    | absent => simp
    | empty => simp
    | pattern hne _ => simp [hne]

end

end Texts

/-- **A rule is made exactly of valid texts.** All checks are made, in order, and the first that
finds something wrong tells the fault. A rule keeps the texts it is made of. -/
theorem compile_in_order {t : Texts} (h : t.AreForeseen) :
    ((∃ r, compile t.spec = .ok r) ↔ t.IsValid) ∧
    (¬ t.IsValid → ∃ f, compile t.spec = .error (.fault f)) ∧
    (∀ f, compile t.spec = .error (.fault f) ↔ t.FirstFault Stage.inOrder f) ∧
    ∀ r, compile t.spec = .ok r → t.IsKept r := by
  have hruns := Texts.compile_runs h
  have hok : (∃ r, compile t.spec = .ok r) ↔ t.IsValid :=
    hruns.ok_iff.trans (Texts.isValid_iff h).symm
  refine ⟨hok, ?_, hruns.fault_iff, ?_⟩
  · intro hinvalid
    cases hcompile : compile t.spec with
    | ok r => exact absurd (hok.mp ⟨r, hcompile⟩) hinvalid
    | error e =>
      cases e with
      | fault f => exact ⟨f, rfl⟩
      | defect d => exact absurd hcompile (hruns.ne_defect d)
  · intro r hr
    exact Texts.isKept_of_compile (hok.mp ⟨r, hr⟩).name hr

/-- No name, no reason and a number of arguments that is no pattern: the reason is missed first,
since the name is not among what is needed. -/
theorem compile_in_order_three_mistakes :
    let t : Texts := ⟨none, some "stop", some "[1", some "", false, true⟩
    t.AreForeseen ∧ ¬ t.IsValid ∧ compile t.spec = .error (.fault (.missingReason "None")) := by
  intro t
  have hforeseen : t.AreForeseen := by
    rintro text (h | h) <;> cases h
    · exact Or.inl ⟨_, rfl⟩
    · exact Or.inr ⟨⟨.unterminatedSet, some 0⟩, rfl⟩
  obtain ⟨hok, -, hfault, -⟩ := compile_in_order hforeseen
  have hreason : ¬ IsGiven t.reason := Texts.not_isGiven_iff.mpr (Or.inr rfl)
  have hcompile : compile t.spec = .error (.fault (.missingReason "None")) := by
    rw [hfault]
    refine Or.inr ⟨?_, Or.inr ⟨?_, Or.inr ⟨?_, Or.inl ⟨rfl, hreason, rfl⟩⟩⟩⟩
    · rintro f ⟨hneeds, -⟩
      cases hneeds
    · rintro f ⟨hmissing, -⟩
      exact hmissing ⟨"stop", rfl, by decide⟩
    · rintro f ⟨m, why, hm, -, hwhy, -⟩
      cases hm
      cases hwhy
  refine ⟨hforeseen, fun hvalid => hreason (hvalid.reason rfl), hcompile⟩

end Rule
end CallPolicy

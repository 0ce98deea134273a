import CallPolicy.Proofs.PlainPatterns
import CallPolicy.Proofs.RuleDefects

/-!
# CallPolicy.Proofs.RuleForms

What the two written forms of a rule have to hold for a rule to be made, and the rule that is made.

* `compile_eq_ok_iff`, `compile_eq_fault_iff`: a rule whose fields are texts, and what is wrong with
  one.
* `filed_eq_ok_iff`, `filed_eq_fault_iff`: the same of an entry of a rules file.
* `declared_eq_ok_iff`: a named block.
-/

namespace CallPolicy

open Config

namespace Rule

/-- The pattern that a text for the number of arguments gives: none if there is no text or an empty
one. -/
inductive GivesCount : Option String → Option Pattern → Prop
  | absent : GivesCount none none
  | empty : GivesCount (some "") none
  | pattern {t : String} {p : Pattern} (hne : t ≠ "") (hp : Pattern.compile t = .ok p) :
      GivesCount (some t) (some p)

/-- The pattern that a text for the name gives. -/
def GivesName (methodName : Option String) (p : Pattern) : Prop :=
  ∃ m, methodName = some m ∧ m ≠ "" ∧ Pattern.compile m = .ok p

/-- A field with the pattern for the number of arguments. -/
def countField : Option Pattern → Given
  | some p => .pattern p
  | none => .datum .null

section

variable {rule : String} {c r : Option String}

theorem compileCount_eq_ok_iff {g : Given} :
    compileCount rule (Datum.ofText? c) = .ok g ↔ ∃ p, GivesCount c p ∧ g = countField p := by
  cases c with
  | none =>
    have hnone : compileCount rule (Datum.ofText? none) = .ok (countField none) := rfl
    rw [hnone]
    constructor
    · intro h; cases h; exact ⟨none, .absent, rfl⟩
    · rintro ⟨p, hp, rfl⟩; cases hp; rfl
  | some t =>
    by_cases ht : t = ""
    · have hnone : compileCount rule (Datum.ofText? (some t)) = .ok (countField none) := by
        rw [ht]; rfl
      rw [hnone]
      constructor
      · intro h; cases h; exact ⟨none, ht ▸ .empty, rfl⟩
      · rintro ⟨p, hp, rfl⟩
        cases hp with
        | empty => rfl
        | pattern hne _ => exact absurd ht hne
    · have hgiven := Datum.truthy_ofText?_iff.mpr ⟨t, rfl, ht⟩
      rw [compileCount, if_pos hgiven, Datum.ofText?, map_eq_ok_iff]
      simp only [compilePattern_eq_ok_iff]
      constructor
      · rintro ⟨p, hp, rfl⟩
        exact ⟨some p, .pattern ht hp, rfl⟩
      · rintro ⟨p, hp, rfl⟩
        cases hp with
        | empty => exact absurd rfl ht
        | pattern _ hp => exact ⟨_, hp, rfl⟩

/-- Fields that are as they have to be make a rule. -/
theorem make_fields {name : String} (hne : name ≠ "") (np : Pattern) (cp : Option Pattern)
    (r : Option String) :
    make (.text name) (.pattern np) (countField cp) (Datum.ofText? r) = .ok ⟨name, np, cp, r⟩ := by
  simp only [make, if_neg hne]
  cases cp <;> cases r <;> rfl

theorem some_filter_of_ne_empty {t : String} (ht : t ≠ "") :
    (some t).filter (· != "") = some t := if_pos (bne_iff_ne.mpr ht)

theorem reasonField_eq (r : Option String) :
    (if (Datum.ofText? r).truthy = true then Datum.ofText? r else .null) =
      Datum.ofText? (r.filter (· != "")) := by
  cases r with
  | none => rfl
  | some t =>
    by_cases ht : t = ""
    · rw [ht]; rfl
    · rw [if_pos (Datum.truthy_ofText?_iff.mpr ⟨t, rfl, ht⟩), some_filter_of_ne_empty ht]

/-- A reason that is needed is there. -/
theorem reasonIsThere_iff {isNeeded : Bool} :
    (!isNeeded || (Datum.ofText? r).truthy) = true ↔
      (isNeeded = true → ∃ t, r = some t ∧ t ≠ "") := by
  rw [← Datum.truthy_ofText?_iff]
  cases isNeeded <;> simp

/-- What a rule is made of when its fields are texts. -/
theorem compile_eq_ok_iff {spec : Spec} {name : String} {m : Option String} {made : Rule}
    (hname : spec.name = .text name) (hne : name ≠ "") (hm : spec.namePattern = Datum.ofText? m)
    (hc : spec.countPattern = Datum.ofText? c) (hr : spec.reason = Datum.ofText? r) :
    compile spec = .ok made ↔
      GivesName m made.namePattern ∧ (spec.requireReason = true → ∃ t, r = some t ∧ t ≠ "") ∧
        GivesCount c made.countPattern ∧ made.name = name ∧ made.reason = r.filter (· != "") := by
  have htruthy : (Datum.text name).truthy = true := Datum.truthy_ofText?_iff.mpr ⟨name, rfl, hne⟩
  simp only [compile, bind_eq_ok_iff, require_eq_ok_iff, hname, htruthy, Bool.or_true, hm, hc, hr,
    reasonIsThere_iff, compileCount_eq_ok_iff, reasonField_eq, mapError_eq_ok_iff]
  constructor
  · rintro ⟨-, -, -, hthere, np, hnp, -, hreason, -, ⟨cp, hcp, rfl⟩, hmake⟩
    obtain ⟨s, rfl, hs⟩ := Datum.truthy_ofText?_iff.mp hthere
    rw [make_fields hne] at hmake
    cases hmake
    exact ⟨⟨s, rfl, hs, compilePattern_eq_ok_iff.mp hnp⟩, hreason, hcp, rfl, rfl⟩
  · rintro ⟨⟨s, rfl, hs, hnp⟩, hreason, hcp, hmadeName, hmadeReason⟩
    refine ⟨(), trivial, (), Datum.truthy_ofText?_iff.mpr ⟨s, rfl, hs⟩, made.namePattern,
      compilePattern_eq_ok_iff.mpr hnp, (), hreason, _, ⟨_, hcp, rfl⟩, ?_⟩
    rw [make_fields hne, ← hmadeName, ← hmadeReason]

/-! ## What is wrong with a rule -/

/-- What is wrong with a rule that has a name and whose fields are texts: the first that holds of no
name to match, a name that is no pattern, no reason where one is needed, and a number of arguments
that is no pattern. -/
inductive Spoils (rule : String) (m c : Option String) (complete : Prop) : Fault → Prop
  | noMethodName (h : m = none ∨ m = some "") : Spoils rule m c complete (.missingMethodName rule)
  | badMethodName {t : String} {why : Pattern.Fault} (hm : m = some t) (hne : t ≠ "")
      (h : Pattern.compile t = .error (.invalid why)) :
      Spoils rule m c complete (.badPattern rule .methodName t why)
  | noReason {p : Pattern} (hm : GivesName m p) (h : ¬ complete) :
      Spoils rule m c complete (.missingReason rule)
  | badCount {p : Pattern} {t : String} {why : Pattern.Fault} (hm : GivesName m p)
      (hcomplete : complete) (hc : c = some t) (hne : t ≠ "")
      (h : Pattern.compile t = .error (.invalid why)) :
      Spoils rule m c complete (.badPattern rule .argumentCount t why)

theorem require_eq_fault_iff {isThere : Bool} {f f' : Fault} :
    require isThere f = .error (.fault f') ↔ isThere = false ∧ f' = f := by
  cases isThere <;> simp [require, eq_comm]

theorem compilePattern_eq_fault_iff {role : PatternRole} {s : String} {f : Fault} :
    compilePattern rule role (.text s) = .error (.fault f) ↔
      ∃ why, Pattern.compile s = .error (.invalid why) ∧ f = .badPattern rule role s why := by
  simp only [compilePattern]
  cases Pattern.compile s with
  | ok p => simp
  | error e => cases e <;> simp [eq_comm]

theorem compileCount_eq_fault_iff {f : Fault} :
    compileCount rule (Datum.ofText? c) = .error (.fault f) ↔
      ∃ t why, c = some t ∧ t ≠ "" ∧ Pattern.compile t = .error (.invalid why) ∧
        f = .badPattern rule .argumentCount t why := by
  by_cases hgiven : (Datum.ofText? c).truthy = true
  · obtain ⟨t, rfl, ht⟩ := Datum.truthy_ofText?_iff.mp hgiven
    rw [compileCount, if_pos hgiven, Datum.ofText?, map_eq_error_iff, compilePattern_eq_fault_iff]
    simp [ht]
  · rw [compileCount, if_neg hgiven]
    constructor
    · intro h; cases h
    · rintro ⟨t, why, hc, ht, -⟩
      exact absurd (Datum.truthy_ofText?_iff.mpr ⟨t, hc, ht⟩) hgiven

theorem truthy_ofText?_eq_false_iff {t : Option String} :
    (Datum.ofText? t).truthy = false ↔ t = none ∨ t = some "" := by
  cases t <;> simp [Datum.ofText?, Datum.truthy]

/-- The fault of a rule is what is wrong with it first. -/
theorem compile_eq_fault_iff {spec : Spec} {name : String} {m : Option String} {f : Fault}
    (hname : spec.name = .text name) (hne : name ≠ "") (hm : spec.namePattern = Datum.ofText? m)
    (hc : spec.countPattern = Datum.ofText? c) (hr : spec.reason = Datum.ofText? r) :
    compile spec = .error (.fault f) ↔
      Spoils name m c (spec.requireReason = true → ∃ t, r = some t ∧ t ≠ "") f := by
  have htruthy : (Datum.text name).truthy = true := Datum.truthy_ofText?_iff.mpr ⟨name, rfl, hne⟩
  have hincomplete : (!spec.requireReason || (Datum.ofText? r).truthy) = false ↔
      ¬ (spec.requireReason = true → ∃ t, r = some t ∧ t ≠ "") := by
    rw [← reasonIsThere_iff, Bool.not_eq_true]
  -- Once all fields have been read, nothing is left to go wrong.
  have hlast (np : Pattern) (g : Given) :
      ¬ ((∃ cp, GivesCount c cp ∧ g = countField cp) ∧
        ∃ f', make (.text name) (.pattern np) g (Datum.ofText? (r.filter (· != ""))) = .error f' ∧
          Failure.fault f' = .fault f) := by
    rintro ⟨⟨cp, -, rfl⟩, f', hf', -⟩
    rw [make_fields hne] at hf'
    cases hf'
  simp only [compile, bind_eq_error_iff, require_eq_ok_iff, require_eq_fault_iff, hname, htruthy,
    Bool.or_true, hm, hc, hr, reasonIsThere_iff, hincomplete, compileCount_eq_fault_iff,
    compileCount_eq_ok_iff, reasonField_eq, mapError_eq_error_iff, truthy_ofText?_eq_false_iff,
    hlast, exists_false, or_false]
  constructor
  · rintro (⟨h, -⟩ | ⟨-, -, ⟨hm, rfl⟩ | ⟨-, hthere, h⟩⟩)
    · cases h
    · exact .noMethodName hm
    · obtain ⟨s, rfl, hs⟩ := Datum.truthy_ofText?_iff.mp hthere
      rcases h with h | ⟨p, hp, h⟩
      · obtain ⟨why, hwhy, rfl⟩ := compilePattern_eq_fault_iff.mp h
        exact .badMethodName rfl hs hwhy
      · have hgives : GivesName (some s) p := ⟨s, rfl, hs, compilePattern_eq_ok_iff.mp hp⟩
        rcases h with ⟨hmissing, rfl⟩ | ⟨-, hthere, t, why, rfl, ht, hwhy, rfl⟩
        · exact .noReason hgives hmissing
        · exact .badCount hgives hthere rfl ht hwhy
  · intro h
    refine Or.inr ⟨(), trivial, ?_⟩
    cases h with
    | noMethodName hm => exact Or.inl ⟨hm, rfl⟩
    | badMethodName hm hs hwhy =>
      subst hm
      exact Or.inr ⟨(), Datum.truthy_ofText?_iff.mpr ⟨_, rfl, hs⟩,
        Or.inl (compilePattern_eq_fault_iff.mpr ⟨_, hwhy, rfl⟩)⟩
    | noReason hgives hmissing =>
      obtain ⟨s, rfl, hs, hp⟩ := hgives
      exact Or.inr ⟨(), Datum.truthy_ofText?_iff.mpr ⟨s, rfl, hs⟩,
        Or.inr ⟨_, compilePattern_eq_ok_iff.mpr hp, Or.inl ⟨hmissing, rfl⟩⟩⟩
    | badCount hgives hthere hc ht hwhy =>
      obtain ⟨s, rfl, hs, hp⟩ := hgives
      exact Or.inr ⟨(), Datum.truthy_ofText?_iff.mpr ⟨s, rfl, hs⟩,
        Or.inr ⟨_, compilePattern_eq_ok_iff.mpr hp, Or.inr ⟨(), hthere, _, _, hc, ht, hwhy, rfl⟩⟩⟩

end

/-! ## Entries of rules files -/

section

variable {source : String} {index : Int} {attributes : List (String × String)}

/-- An entry with a name to match is a rule of texts, named after its file and place. -/
theorem filed_of_method {m : String} (hm : attributes.lookup "methodName" = some m) :
    filed source index (attributes.map fun (k, v) => (.text k, .text v)) =
      compile ⟨.text (filedName source index), .text m,
        Datum.ofText? (attributes.lookup "argCount"), .null, false, false⟩ := by
  rw [filed, field_map_text, field_map_text, hm]
  rfl

theorem filed_of_no_method (hm : attributes.lookup "methodName" = none) :
    filed source index (attributes.map fun (k, v) => (.text k, .text v)) =
      .error (.fault .noMethodAttribute) := by
  rw [filed, field_map_text, field_map_text, hm]
  rfl

theorem filed_eq_ok_iff {made : Rule} :
    filed source index (attributes.map fun (k, v) => (.text k, .text v)) = .ok made ↔
      GivesName (attributes.lookup "methodName") made.namePattern ∧
        GivesCount (attributes.lookup "argCount") made.countPattern ∧
        made.name = filedName source index ∧ made.reason = none := by
  cases hm : attributes.lookup "methodName" with
  | none =>
    rw [filed_of_no_method hm]
    constructor
    · intro h; cases h
    · rintro ⟨⟨m, h, -⟩, -⟩; cases h
  | some m =>
    rw [filed_of_method hm]
    refine (compile_eq_ok_iff (m := some m) (r := none) rfl (filedName_ne_empty source index) rfl
      rfl rfl).trans ?_
    simp

theorem filed_eq_fault_iff {f : Fault} :
    filed source index (attributes.map fun (k, v) => (.text k, .text v)) = .error (.fault f) ↔
      attributes.lookup "methodName" = none ∧ f = .noMethodAttribute ∨
      ∃ m, attributes.lookup "methodName" = some m ∧
        Spoils (filedName source index) (some m) (attributes.lookup "argCount") True f := by
  cases hm : attributes.lookup "methodName" with
  | none => simp [filed_of_no_method hm, eq_comm]
  | some m =>
    rw [filed_of_method hm]
    refine (compile_eq_fault_iff (m := some m) (r := none) rfl (filedName_ne_empty source index) rfl
      rfl rfl).trans ?_
    simp

end

/-! ## Named blocks -/

theorem declared_eq_ok_iff {name : String} (hname : name ≠ "")
    {attributes : List (Datum × Datum)} {made : Rule} :
    declared (.text name) (.mapping attributes) = .ok made ↔
      unknownAttributes attributes = [] ∧
      (∃ m, Datum.field "methodName" attributes = Datum.ofText? m ∧
        GivesName m made.namePattern) ∧
      (∃ c, WritesCount (Datum.field "argumentCount" attributes) c ∧
        GivesCount c made.countPattern) ∧
      (∃ t, Datum.field "reason" attributes = .text t ∧ t ≠ "" ∧ made.reason = some t) ∧
      made.name = name := by
  have hmethodKey : "methodName" ≠ "argumentCount" := by decide
  have hreasonKey : "reason" ≠ "argumentCount" := by decide
  simp only [declared, bind_eq_ok_iff, checkAttributes_eq_ok_iff,
    attributeText_eq_ok_iff hmethodKey, attributeText_eq_ok_iff hreasonKey,
    attributeText_count_eq_ok_iff]
  constructor
  · rintro ⟨-, hknown, -, ⟨m, hm, rfl⟩, -, ⟨c, hc, rfl⟩, -, ⟨r, hr, rfl⟩, h⟩
    obtain ⟨hgives, hreason, hcount, hmadeName, hmadeReason⟩ :=
      (compile_eq_ok_iff rfl hname rfl rfl rfl).mp h
    obtain ⟨t, rfl, ht⟩ := hreason rfl
    rw [some_filter_of_ne_empty ht] at hmadeReason
    exact ⟨hknown, ⟨m, hm, hgives⟩, ⟨c, hc, hcount⟩, ⟨t, hr, ht, hmadeReason⟩, hmadeName⟩
  · rintro ⟨hknown, ⟨m, hm, hgives⟩, ⟨c, hc, hcount⟩, ⟨t, hr, ht, hmadeReason⟩, hmadeName⟩
    rw [← some_filter_of_ne_empty ht] at hmadeReason
    refine ⟨(), hknown, _, ⟨m, hm, rfl⟩, _, ⟨c, hc, rfl⟩, _, ⟨some t, hr, rfl⟩, ?_⟩
    exact (compile_eq_ok_iff rfl hname rfl rfl rfl).mpr
      ⟨hgives, fun _ => ⟨t, rfl, ht⟩, hcount, hmadeName, hmadeReason⟩

end Rule
end CallPolicy

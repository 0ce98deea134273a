import CallPolicy.Finding
import CallPolicy.Proofs.RuleForms

/-!
# CallPolicy.Proofs.Counterparts

The two written forms of one rule: a block and an entry of a rules file that write the same
patterns.

* `declared_eq_ok_iff_of_writes`, `filed_eq_ok_iff_of_writes`: what each of the two makes.
* `counterparts_decide_alike`: one is accepted if the other is, and rules may be replaced by their
  counterparts without a change in which rule a call breaks.
-/

namespace CallPolicy

open Config

theorem Datum.ofText?_inj {a b : Option String} : ofText? a = ofText? b ↔ a = b := by
  cases a <;> cases b <;> simp [ofText?]

namespace Rule

/-- A block writes these patterns, and a reason. -/
structure BlockWrites (block : List (Datum × Datum)) (m : String) (c : Option String) : Prop where
  known : unknownAttributes block = []
  methodName : Datum.field "methodName" block = .text m
  argumentCount : Datum.field "argumentCount" block = Datum.ofText? c
  reason : ∃ t, Datum.field "reason" block = .text t ∧ t ≠ ""

/-- An entry of a rules file writes these patterns. -/
structure EntryWrites (entry : List (Datum × Datum)) (m : String) (c : Option String) : Prop where
  methodName : Datum.field "methodName" entry = .text m
  argumentCount : Datum.field "argCount" entry = Datum.ofText? c

/-- A block and an entry that write the same patterns make these two rules. -/
inductive AreForms : Rule → Rule → Prop
  | mk {name m source : String} {c : Option String} {index : Int}
      {block entry : List (Datum × Datum)} {r r' : Rule} (hname : name ≠ "")
      (hblock : BlockWrites block m c) (hentry : EntryWrites entry m c)
      (hdeclared : declared (.text name) (.mapping block) = .ok r)
      (hfiled : filed source index entry = .ok r') : AreForms r r'

/-- A rule and what may stand in its place: itself, or what its other form makes. -/
inductive Counterparts : Rule → Rule → Prop
  | same (r : Rule) : Counterparts r r
  | filed {r r' : Rule} (h : AreForms r r') : Counterparts r r'
  | declared {r r' : Rule} (h : AreForms r r') : Counterparts r' r

/-- What two findings say, about breaches of two rules, is the same but for the rule's name and the
reason. -/
structure TellAlike (f f' : Finding) (r r' : Rule) : Prop where
  line : f.line = f'.line
  column : f.column = f'.column
  form : f.form = f'.form
  args : ∃ shared, shared.length = f.form.arity ∧ f.args = shared ++ r.reason.toList.map .text ∧
    f'.args = shared ++ r'.reason.toList.map .text

section

variable {name m source : String} {c c' : Option String} {index : Int}
  {block entry : List (Datum × Datum)} {r r' : Rule} {rules rules' : List Rule}

/-! ## The two forms -/

theorem writesCount_ofText?_iff : WritesCount (Datum.ofText? c) c' ↔ c = c' := by
  constructor
  · rintro (h | ⟨n, h, -⟩)
    · exact Datum.ofText?_inj.mp h
    · cases c <;> cases h
  · rintro rfl
    exact Or.inl rfl

/-- A rule from a block that writes its patterns as texts. -/
theorem declared_eq_ok_iff_of_writes (hname : name ≠ "") (h : BlockWrites block m c) :
    declared (.text name) (.mapping block) = .ok r ↔
      GivesName (some m) r.namePattern ∧ GivesCount c r.countPattern ∧
        (∃ t, Datum.field "reason" block = .text t ∧ t ≠ "" ∧ r.reason = some t) ∧
        r.name = name := by
  have hmethod : Datum.text m = Datum.ofText? (some m) := rfl
  simp only [declared_eq_ok_iff hname, h.known, h.methodName, h.argumentCount, hmethod, true_and,
    Datum.ofText?_inj, writesCount_ofText?_iff, exists_eq_left']

/-- A rule from an entry that writes its patterns. -/
theorem filed_eq_ok_iff_of_writes (h : EntryWrites entry m c) :
    filed source index entry = .ok r ↔
      GivesName (some m) r.namePattern ∧ GivesCount c r.countPattern ∧
        r.name = filedName source index ∧ r.reason = none := by
  have hfiled : filed source index entry =
      compile ⟨.text (filedName source index), .text m, Datum.ofText? c, .null, false, false⟩ := by
    rw [filed, h.methodName, h.argumentCount]
  rw [hfiled]
  refine (compile_eq_ok_iff (m := some m) (r := none) rfl (filedName_ne_empty source index) rfl
    rfl rfl).trans ?_
  simp

/-- Both make a rule if the patterns can be read, and nothing else is asked of them. -/
theorem exists_declared_iff_exists_filed (hname : name ≠ "") (hblock : BlockWrites block m c)
    (hentry : EntryWrites entry m c) :
    (∃ r, declared (.text name) (.mapping block) = .ok r) ↔
      ∃ r, filed source index entry = .ok r := by
  simp only [declared_eq_ok_iff_of_writes hname hblock, filed_eq_ok_iff_of_writes hentry]
  constructor
  · rintro ⟨r, hmethod, hcount, -⟩
    exact ⟨⟨filedName source index, r.namePattern, r.countPattern, none⟩, hmethod, hcount, rfl, rfl⟩
  · rintro ⟨r, hmethod, hcount, -⟩
    obtain ⟨t, ht, hne⟩ := hblock.reason
    exact ⟨⟨name, r.namePattern, r.countPattern, some t⟩, hmethod, hcount, ⟨t, ht, hne, rfl⟩, rfl⟩

/-! ## The same patterns -/

theorem GivesName.unique {p p' : Pattern} {text : Option String} (h : GivesName text p)
    (h' : GivesName text p') : p = p' := by
  obtain ⟨s, rfl, -, hp⟩ := h
  obtain ⟨s', hs, -, hp'⟩ := h'
  cases hs
  rw [hp] at hp'
  exact Except.ok.inj hp'

theorem GivesCount.unique {p p' : Option Pattern} (h : GivesCount c p) (h' : GivesCount c p') :
    p = p' := by
  cases h with
  | absent => cases h'; rfl
  | empty =>
    cases h' with
    | empty => rfl
    | pattern hne _ => exact absurd rfl hne
  | pattern hne hp =>
    cases h' with
    | empty => exact absurd rfl hne
    | pattern _ hp' => rw [hp] at hp'; cases hp'; rfl

theorem AreForms.patterns_eq (h : AreForms r r') :
    r.namePattern = r'.namePattern ∧ r.countPattern = r'.countPattern := by
  cases h with
  | mk hname hblock hentry hdeclared hfiled =>
    obtain ⟨hmethod, hcount, -⟩ := (declared_eq_ok_iff_of_writes hname hblock).mp hdeclared
    obtain ⟨hmethod', hcount', -⟩ := (filed_eq_ok_iff_of_writes hentry).mp hfiled
    exact ⟨hmethod.unique hmethod', hcount.unique hcount'⟩

theorem Counterparts.patterns_eq (h : Counterparts r r') :
    r.namePattern = r'.namePattern ∧ r.countPattern = r'.countPattern := by
  cases h with
  | same => exact ⟨rfl, rfl⟩
  | filed h => exact h.patterns_eq
  | declared h => exact ⟨h.patterns_eq.1.symm, h.patterns_eq.2.symm⟩

theorem Counterparts.forbids_eq (h : Counterparts r r') (called count : String) :
    r.forbids called count = r'.forbids called count := by
  obtain ⟨hname, hcount⟩ := h.patterns_eq
  rw [forbids, forbids, hname, hcount]

theorem Counterparts.tellAlike (h : Counterparts r r') (called : String) (count : Int)
    (line column : Coordinate) :
    TellAlike (.ofCall called count line column r) (.ofCall called count line column r') r r' := by
  obtain ⟨hname, hcount⟩ := h.patterns_eq
  rw [Finding.ofCall, Finding.ofCall, ← hname, ← hcount]
  cases r.countPattern with
  | none => exact ⟨rfl, rfl, rfl, _, rfl, rfl, rfl⟩
  | some p => exact ⟨rfl, rfl, rfl, _, rfl, rfl, rfl⟩

/-! ## Lists of rules -/

/-- The first rule that a call breaks stands at the same place. -/
theorem violationIndex?_eq (h : List.Forall₂ Counterparts rules rules') (called count : String) :
    violationIndex? rules called count = violationIndex? rules' called count := by
  simp only [violationIndex?]
  induction h with
  | nil => rfl
  | cons hrule _ ih => rw [List.findIdx?_cons, List.findIdx?_cons, hrule.forbids_eq, ih]

theorem findViolation_eq_bind (called count : String) :
    findViolation rules called count =
      (violationIndex? rules called count).bind fun k => rules[k]? :=
  List.find?_eq_bind_findIdx?_getElem?

theorem exists_rule_at {called count : String} {k : Nat}
    (h : violationIndex? rules called count = some k) : ∃ r, rules[k]? = some r := by
  obtain ⟨hk, -⟩ := List.findIdx?_eq_some_iff_getElem.mp h
  exact ⟨rules[k], List.getElem?_eq_getElem hk⟩

/-- **The two forms of a rule decide alike.** A block makes a rule if and only if an entry that
writes the same patterns does. Where any of the rules in a list are replaced by their counterparts,
a call breaks the rule at the same place first, and the findings differ in the rule's name and
reason only. -/
theorem counterparts_decide_alike (hname : name ≠ "") (hblock : BlockWrites block m c)
    (hentry : EntryWrites entry m c) (hrules : List.Forall₂ Counterparts rules rules')
    (called : String) (count : Int) (line column : Coordinate) :
    ((∃ r, declared (.text name) (.mapping block) = .ok r) ↔
      ∃ r, filed source index entry = .ok r) ∧
    violationIndex? rules called (toString count) =
      violationIndex? rules' called (toString count) ∧
    ∀ k, violationIndex? rules called (toString count) = some k →
      ∃ r r', rules[k]? = some r ∧ rules'[k]? = some r' ∧
        findViolation rules called (toString count) = some r ∧
        findViolation rules' called (toString count) = some r' ∧
        TellAlike (.ofCall called count line column r) (.ofCall called count line column r')
          r r' := by
  have hindex := violationIndex?_eq hrules called (toString count)
  refine ⟨exists_declared_iff_exists_filed hname hblock hentry, hindex, ?_⟩
  intro k hk
  have hk' := hindex.symm.trans hk
  obtain ⟨r, hr⟩ := exists_rule_at hk
  obtain ⟨r', hr'⟩ := exists_rule_at hk'
  have hcounterparts : Counterparts r r' := by
    obtain ⟨hlt, rfl⟩ := List.getElem?_eq_some_iff.mp hr
    obtain ⟨hlt', rfl⟩ := List.getElem?_eq_some_iff.mp hr'
    exact hrules.get hlt hlt'
  refine ⟨r, r', hr, hr', ?_, ?_, hcounterparts.tellAlike called count line column⟩
  · rw [findViolation_eq_bind, hk, Option.bind_some, hr]
  · rw [findViolation_eq_bind, hk', Option.bind_some, hr']

end

/-- A rule against calls of `stop` with one argument, in a list behind another rule. -/
theorem counterparts_decide_alike_behind_other :
    let block : List (Datum × Datum) := [(.text "reason", .text "ends the run"),
      (.text "methodName", .text "stop"), (.text "argumentCount", .text "1")]
    let entry : List (Datum × Datum) :=
      [(.text "methodName", .text "stop"), (.text "argCount", .text "1")]
    let stop (name : String) (reason : Option String) : Rule :=
      ⟨name, .plain "stop", some (.plain "1"), reason⟩
    let quit : Rule := ⟨"no quit", .plain "quit", none, none⟩
    let rules := [quit, stop "no stop" (some "ends the run")]
    let rules' := [quit, stop "r.xml:2" none]
    BlockWrites block "stop" (some "1") ∧ EntryWrites entry "stop" (some "1") ∧
      List.Forall₂ Counterparts rules rules' ∧ violationIndex? rules "stop" "1" = some 1 ∧
      violationIndex? rules' "stop" "1" = some 1 := by
  intro block entry stop quit rules rules'
  have hname : "no stop" ≠ "" := by decide
  have hblock : BlockWrites block "stop" (some "1") :=
    ⟨rfl, rfl, rfl, "ends the run", rfl, by decide⟩
  have hentry : EntryWrites entry "stop" (some "1") := ⟨rfl, rfl⟩
  have hmethod : GivesName (some "stop") (.plain "stop") :=
    ⟨"stop", rfl, by decide, Pattern.compile_plain (by simp [Pattern.IsPlain, Pattern.special])⟩
  have hcount : GivesCount (some "1") (some (.plain "1")) :=
    .pattern (by decide) (Pattern.compile_plain (by simp [Pattern.IsPlain, Pattern.special]))
  have hdeclared : declared (.text "no stop") (.mapping block) =
      .ok (stop "no stop" (some "ends the run")) :=
    (declared_eq_ok_iff_of_writes hname hblock).mpr
      ⟨hmethod, hcount, ⟨"ends the run", rfl, by decide, rfl⟩, rfl⟩
  have hfiled : filed "r.xml" 2 entry = .ok (stop "r.xml:2" none) :=
    (filed_eq_ok_iff_of_writes hentry).mpr ⟨hmethod, hcount, rfl, rfl⟩
  have hrules : List.Forall₂ Counterparts rules rules' :=
    .cons (.same quit) (.cons (.filed ⟨hname, hblock, hentry, hdeclared, hfiled⟩) .nil)
  have hindex : violationIndex? rules "stop" "1" = some 1 := by decide +kernel
  have halike : ((∃ r, declared (.text "no stop") (.mapping block) = .ok r) ↔
      ∃ r, filed "r.xml" 2 entry = .ok r) ∧ _ :=
    counterparts_decide_alike hname hblock hentry hrules "stop" 1 .absent .absent
  exact ⟨hblock, hentry, hrules, hindex, halike.2.1.symm.trans hindex⟩

end Rule
end CallPolicy

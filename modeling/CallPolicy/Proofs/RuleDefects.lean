import CallPolicy.Proofs.Loading

/-!
# CallPolicy.Proofs.RuleDefects

When the making of a rule comes to a defect: told from what the rule is made from, not from the
steps that make it.

* `compile_eq_defect_iff`: a rule whose fields are texts comes to a defect exactly when one of its
  patterns does.
* `declared_eq_defect_iff`: a named block does exactly when its attributes cannot be read.
* `filed_eq_defect_iff`: an entry of a rules file does exactly when one of its patterns does.
-/

namespace CallPolicy

open Config

/-! ## Data -/

namespace Datum

theorem areWritable_eq_all (items : List Datum) : areWritable items = items.all isWritable := by
  induction items with
  | nil => rw [areWritable]; rfl
  | cons d rest ih => rw [areWritable, ih]; rfl

theorem isWritable_text (s : String) : (text s).isWritable = true := by simp [isWritable]

/-- There are two or more values, and no family holds them all: some two have no order. -/
def Unordered (items : List Datum) : Prop :=
  2 ≤ items.length ∧ ¬ ∃ f, ∀ d ∈ items, d.family? = some f

theorem sorted?_eq_none_iff {items : List Datum} : sorted? items = none ↔ Unordered items := by
  match items with
  | [] => simp [sorted?, Unordered]
  | [d] => simp [sorted?, Unordered]
  | d :: e :: rest =>
    have hlength : 2 ≤ (d :: e :: rest).length := by simp
    simp only [Unordered, hlength, true_and]
    cases hf : d.family? with
    | none =>
      simp only [sorted?, hf, true_iff]
      rintro ⟨f, h⟩
      rw [h d List.mem_cons_self] at hf
      cases hf
    | some f =>
      have hall : (e :: rest).all (fun x => decide (x.family? = some f)) = true ↔
          ∃ f, ∀ x ∈ d :: e :: rest, x.family? = some f := by
        rw [List.all_eq_true]
        constructor
        · intro h
          refine ⟨f, ?_⟩
          intro x hx
          rcases List.mem_cons.mp hx with rfl | hx
          · exact hf
          · exact of_decide_eq_true (h x hx)
        · rintro ⟨g, h⟩ x hx
          have hg : g = f := Option.some.inj ((h d List.mem_cons_self).symm.trans hf)
          exact decide_eq_true (hg ▸ h x (List.mem_cons_of_mem _ hx))
      rw [← hall]
      simp [sorted?, hf]

theorem sorted?_perm {items ordered : List Datum} (h : sorted? items = some ordered) :
    ordered.Perm items := by
  unfold sorted? at h
  split at h
  · cases h; exact .nil
  · cases h; exact .refl _
  · split at h
    · cases h
    · split at h
      · cases h; exact List.mergeSort_perm _ _
      · cases h

theorem truthy_ofText?_iff {t : Option String} :
    (ofText? t).truthy = true ↔ ∃ s, t = some s ∧ s ≠ "" := by
  cases t <;> simp [ofText?, truthy]

end Datum

/-! ## Patterns -/

/-- Reading the text stops, and not at a fault in it. -/
def Pattern.Upsets (text : String) : Defect → Prop
  | .repeatTooLarge => compile text = .error .repeatTooLarge
  | .numberTooLong => compile text = .error .numberTooLong
  | .alphabetConflict => compile text = .error .alphabetConflict
  | _ => False

namespace Rule

/-- The patterns of a rule cannot be read: that of the name cannot, or that one can, the rule is
complete, and that of the number of arguments cannot. Empty patterns are not read. -/
def PatternsUpset (methodName argumentCount : Option String) (complete : Prop) (d : Defect) :
    Prop :=
  ∃ m, methodName = some m ∧ m ≠ "" ∧
    (Pattern.Upsets m d ∨
      (∃ p, Pattern.compile m = .ok p) ∧ complete ∧
        ∃ c, argumentCount = some c ∧ c ≠ "" ∧ Pattern.Upsets c d)

section

variable {rule s : String} {role : PatternRole} {d : Defect}

theorem compilePattern_eq_ok_iff {p : Pattern} :
    compilePattern rule role (.text s) = .ok p ↔ Pattern.compile s = .ok p := by
  simp only [compilePattern]
  cases Pattern.compile s with
  | ok q => simp
  | error e => cases e <;> simp

theorem compilePattern_eq_defect_iff :
    compilePattern rule role (.text s) = .error (.defect d) ↔ Pattern.Upsets s d := by
  simp only [compilePattern]
  cases h : Pattern.compile s with
  | ok q => cases d <;> simp [Pattern.Upsets, h]
  | error e => cases e <;> cases d <;> simp [Pattern.Upsets, h]

theorem require_eq_ok_iff {isThere : Bool} {f : Fault} {u : Unit} :
    require isThere f = .ok u ↔ isThere = true := by
  cases isThere <;> simp [require]

theorem require_ne_defect {isThere : Bool} {f : Fault} :
    require isThere f ≠ .error (.defect d) := by
  cases isThere <;> simp [require]

theorem compileCount_eq_defect_iff {c : Option String} :
    compileCount rule (Datum.ofText? c) = .error (.defect d) ↔
      ∃ t, c = some t ∧ t ≠ "" ∧ Pattern.Upsets t d := by
  by_cases hgiven : (Datum.ofText? c).truthy = true
  · obtain ⟨t, rfl, ht⟩ := Datum.truthy_ofText?_iff.mp hgiven
    rw [compileCount, if_pos hgiven, Datum.ofText?, map_eq_error_iff, compilePattern_eq_defect_iff]
    constructor
    · intro hupsets
      exact ⟨t, rfl, ht, hupsets⟩
    · rintro ⟨t', h, -, hupsets⟩
      cases h
      exact hupsets
  · rw [compileCount, if_neg hgiven]
    constructor
    · intro h; cases h
    · rintro ⟨t, h, ht, -⟩
      exact absurd (Datum.truthy_ofText?_iff.mpr ⟨t, h, ht⟩) hgiven

/-- Of the steps of `compile`, only the reading of patterns can come to a defect. -/
theorem compile_eq_defect_iff {spec : Spec} {m c : Option String}
    (hname : spec.name.truthy = true) (hm : spec.namePattern = Datum.ofText? m)
    (hc : spec.countPattern = Datum.ofText? c) :
    compile spec = .error (.defect d) ↔
      PatternsUpset m c (spec.requireReason = true → spec.reason.truthy = true) d := by
  have hlast (np : Pattern) (cp : Given) (reason : Datum) :
      (make spec.name (.pattern np) cp reason).mapError Failure.fault ≠ .error (.defect d) := by
    intro h
    obtain ⟨f, -, hf⟩ := mapError_eq_error_iff.mp h
    cases hf
  have hnamed : (!spec.requireName || spec.name.truthy) = true := by rw [hname, Bool.or_true]
  -- Each step is replaced by what its outcome means; what is left is their order.
  simp only [compile, bind_eq_error_iff, require_ne_defect, require_eq_ok_iff, hnamed, hm, hc,
    compileCount_eq_defect_iff, hlast, false_or, or_false, and_false, exists_false]
  have hcomplete : (!spec.requireReason || spec.reason.truthy) = true ↔
      (spec.requireReason = true → spec.reason.truthy = true) := by
    cases spec.requireReason <;> simp
  constructor
  · rintro ⟨-, -, -, hthere, h⟩
    obtain ⟨s, rfl, hs⟩ := Datum.truthy_ofText?_iff.mp hthere
    refine ⟨s, rfl, hs, ?_⟩
    rcases h with hname | ⟨p, hp, -, hreason, hcount⟩
    · exact Or.inl (compilePattern_eq_defect_iff.mp hname)
    · exact Or.inr ⟨⟨p, compilePattern_eq_ok_iff.mp hp⟩, hcomplete.mp hreason, hcount⟩
  · rintro ⟨s, rfl, hs, h⟩
    refine ⟨(), trivial, (), Datum.truthy_ofText?_iff.mpr ⟨s, rfl, hs⟩, ?_⟩
    rcases h with hname | ⟨⟨p, hp⟩, hreason, hcount⟩
    · exact Or.inl (compilePattern_eq_defect_iff.mpr hname)
    · exact Or.inr ⟨p, compilePattern_eq_ok_iff.mpr hp, (), hcomplete.mpr hreason, hcount⟩

end

/-! ## Named blocks -/

/-- What stands for a number of arguments: a text, or a number that can be written out. -/
def WritesCount (value : Datum) (c : Option String) : Prop :=
  value = Datum.ofText? c ∨
    ∃ n : Int, value = .int n ∧ n.natAbs < 10 ^ Datum.digitLimit ∧ c = some (toString n)

/-- The attributes of a block that it may not have. -/
def unknownAttributes (attributes : List (Datum × Datum)) : List Datum :=
  (attributes.map (·.1)).filter fun key => !isKnownAttribute key

/-- The attributes of a block cannot be read: unknown ones have no order, unknown ones in order hold
a number that cannot be written out, the number of arguments is one, or the patterns cannot be
read. -/
inductive AttributesUpset (attributes : List (Datum × Datum)) : Defect → Prop
  | unordered (h : Datum.Unordered (unknownAttributes attributes)) :
      AttributesUpset attributes .unorderedNames
  | longName {key : Datum} (hordered : ¬ Datum.Unordered (unknownAttributes attributes))
      (hkey : key ∈ unknownAttributes attributes) (hlong : key.isWritable = false) :
      AttributesUpset attributes .numberTooLong
  | longCount {m : Option String} {n : Int} (hknown : unknownAttributes attributes = [])
      (hmethod : Datum.field "methodName" attributes = Datum.ofText? m)
      (hcount : Datum.field "argumentCount" attributes = .int n)
      (hlong : 10 ^ Datum.digitLimit ≤ n.natAbs) : AttributesUpset attributes .numberTooLong
  | patterns {m c r : Option String} {d : Defect} (hknown : unknownAttributes attributes = [])
      (hmethod : Datum.field "methodName" attributes = Datum.ofText? m)
      (hcount : WritesCount (Datum.field "argumentCount" attributes) c)
      (hreason : Datum.field "reason" attributes = Datum.ofText? r)
      (h : PatternsUpset m c (∃ s, r = some s ∧ s ≠ "") d) : AttributesUpset attributes d

section

variable {rule key : String} {value v : Datum} {attributes : List (Datum × Datum)} {d : Defect}

theorem attributeText_eq_ok_iff (hkey : key ≠ "argumentCount") :
    attributeText rule key value = .ok v ↔ ∃ t, value = Datum.ofText? t ∧ v = Datum.ofText? t := by
  cases value <;> simp [attributeText, hkey, Option.exists, Datum.ofText?, eq_comm]

theorem attributeText_ne_defect (hkey : key ≠ "argumentCount") :
    attributeText rule key value ≠ .error (.defect d) := by
  cases value <;> simp [attributeText, hkey]

theorem attributeText_count_eq_ok_iff :
    attributeText rule "argumentCount" value = .ok v ↔
      ∃ c, WritesCount value c ∧ v = Datum.ofText? c := by
  cases value with
  | int n =>
    by_cases hn : n.natAbs < 10 ^ Datum.digitLimit
    · simp [attributeText, WritesCount, Option.exists, Datum.ofText?, Datum.isWritable, hn, eq_comm]
    · simp [attributeText, WritesCount, Option.exists, Datum.ofText?, Datum.isWritable, hn]
  | _ => simp [attributeText, WritesCount, Option.exists, Datum.ofText?, eq_comm]

theorem attributeText_count_eq_defect_iff :
    attributeText rule "argumentCount" value = .error (.defect d) ↔
      d = .numberTooLong ∧ ∃ n : Int, value = .int n ∧ 10 ^ Datum.digitLimit ≤ n.natAbs := by
  cases value with
  | int n =>
    by_cases hn : n.natAbs < 10 ^ Datum.digitLimit
    · have hshort : ¬ 10 ^ Datum.digitLimit ≤ n.natAbs := by omega
      simp [attributeText, Datum.isWritable, hn, hshort]
    · have hlong : 10 ^ Datum.digitLimit ≤ n.natAbs := by omega
      simp [attributeText, Datum.isWritable, hn, hlong, eq_comm]
  | _ => simp [attributeText]

theorem checkAttributes_eq_ok_iff {u : Unit} :
    checkAttributes rule attributes = .ok u ↔ unknownAttributes attributes = [] := by
  unfold checkAttributes
  rw [← unknownAttributes]
  split
  · rename_i h
    have hmany := (Datum.sorted?_eq_none_iff.mp h).1
    constructor
    · intro h; cases h
    · intro h; rw [h] at hmany; simp at hmany
  · rename_i h
    simpa using (Datum.sorted?_perm h).symm.eq_nil
  · rename_i names hne h
    have hperm := Datum.sorted?_perm h
    constructor
    · intro h; split at h <;> cases h
    · intro hnil
      rw [hnil] at hperm
      exact absurd hperm.eq_nil hne

theorem checkAttributes_eq_defect_iff :
    checkAttributes rule attributes = .error (.defect d) ↔
      d = .unorderedNames ∧ Datum.Unordered (unknownAttributes attributes) ∨
      d = .numberTooLong ∧ ¬ Datum.Unordered (unknownAttributes attributes) ∧
        ∃ key ∈ unknownAttributes attributes, key.isWritable = false := by
  unfold checkAttributes
  rw [← unknownAttributes]
  split
  · rename_i h
    have hunordered := Datum.sorted?_eq_none_iff.mp h
    simp [hunordered, eq_comm (a := d)]
  · rename_i h
    have hnil := (Datum.sorted?_perm h).symm.eq_nil
    simp [hnil, Datum.Unordered]
  · rename_i names hne h
    have hordered : ¬ Datum.Unordered (unknownAttributes attributes) := by
      rw [← Datum.sorted?_eq_none_iff, h]
      exact fun h => nomatch h
    have hwritable : Datum.areWritable names = true ↔
        ¬ ∃ key ∈ unknownAttributes attributes, key.isWritable = false := by
      rw [Datum.areWritable_eq_all, List.all_eq_true]
      simp [(Datum.sorted?_perm h).mem_iff]
    by_cases hw : Datum.areWritable names = true
    · simp only [hw, if_true, hordered, hwritable.mp hw, and_false, or_false, iff_false]
      exact fun h => nomatch h
    · have hlong := Classical.not_not.mp (mt hwritable.mpr hw)
      simp only [hw, Bool.false_eq_true, if_false, hordered, hlong, and_false, false_or,
        not_false_eq_true, and_true, Except.error.injEq, Failure.defect.injEq]
      exact eq_comm

/-- A block comes to a defect exactly when its attributes cannot be read. -/
theorem declared_eq_defect_iff {name : String} (hname : name ≠ "") :
    declared (.text name) (.mapping attributes) = .error (.defect d) ↔
      AttributesUpset attributes d := by
  have hmethodKey : "methodName" ≠ "argumentCount" := by decide
  have hreasonKey : "reason" ≠ "argumentCount" := by decide
  have hnamed : (Datum.text name).truthy = true :=
    Datum.truthy_ofText?_iff.mpr ⟨name, rfl, hname⟩
  simp only [declared, bind_eq_error_iff, checkAttributes_eq_ok_iff, checkAttributes_eq_defect_iff,
    attributeText_eq_ok_iff hmethodKey, attributeText_ne_defect hmethodKey,
    attributeText_eq_ok_iff hreasonKey, attributeText_ne_defect hreasonKey,
    attributeText_count_eq_ok_iff, attributeText_count_eq_defect_iff, false_or]
  constructor
  · rintro ((⟨rfl, h⟩ | ⟨rfl, hordered, key, hkey, hlong⟩) | ⟨-, hknown, -, ⟨m, hm, rfl⟩, h⟩)
    · exact .unordered h
    · exact .longName hordered hkey hlong
    · rcases h with ⟨rfl, n, hn, hlong⟩ | ⟨-, ⟨c, hc, rfl⟩, -, ⟨r, hr, rfl⟩, h⟩
      · exact .longCount hknown hm hn hlong
      · have hpatterns := (compile_eq_defect_iff hnamed rfl rfl).mp h
        simp only [true_implies, Datum.truthy_ofText?_iff] at hpatterns
        exact .patterns hknown hm hc hr hpatterns
  · intro h
    cases h with
    | unordered h => exact Or.inl (Or.inl ⟨rfl, h⟩)
    | longName hordered hkey hlong => exact Or.inl (Or.inr ⟨rfl, hordered, _, hkey, hlong⟩)
    | longCount hknown hm hn hlong =>
      exact Or.inr ⟨(), hknown, _, ⟨_, hm, rfl⟩, Or.inl ⟨rfl, _, hn, hlong⟩⟩
    | patterns hknown hm hc hr h =>
      refine Or.inr ⟨(), hknown, _, ⟨_, hm, rfl⟩, Or.inr ⟨_, ⟨_, hc, rfl⟩, _, ⟨_, hr, rfl⟩, ?_⟩⟩
      rw [compile_eq_defect_iff hnamed rfl rfl]
      simpa only [true_implies, Datum.truthy_ofText?_iff] using h

end

/-! ## Entries of rules files -/

theorem field_map_text (key : String) (attributes : List (String × String)) :
    Datum.field key (attributes.map fun (k, v) => (.text k, .text v)) =
      Datum.ofText? (attributes.lookup key) := by
  induction attributes with
  | nil => rfl
  | cons a rest ih =>
    obtain ⟨k, v⟩ := a
    rw [List.map_cons, Datum.field, Datum.field?, List.lookup_cons]
    by_cases hk : k = key
    · simp [hk, Datum.ofText?]
    · simp only [hk, if_false, beq_eq_false_iff_ne.mpr (Ne.symm hk)]
      exact ih

theorem filedName_ne_empty (source : String) (index : Int) : filedName source index ≠ "" := by
  intro h
  have hlength := congrArg String.length h
  simp [filedName] at hlength

/-- An entry comes to a defect exactly when one of its patterns does. -/
theorem filed_eq_defect_iff {source : String} {index : Int} {attributes : List (String × String)}
    {d : Defect} :
    filed source index (attributes.map fun (k, v) => (.text k, .text v)) = .error (.defect d) ↔
      PatternsUpset (attributes.lookup "methodName") (attributes.lookup "argCount") True d := by
  have hnamed : (Datum.text (filedName source index)).truthy = true :=
    Datum.truthy_ofText?_iff.mpr ⟨_, rfl, filedName_ne_empty source index⟩
  rw [filed, field_map_text, field_map_text]
  cases hm : attributes.lookup "methodName" with
  | none => simp [Datum.ofText?, PatternsUpset]
  | some m =>
    have hcompile : compile ⟨.text (filedName source index), .text m,
        Datum.ofText? (attributes.lookup "argCount"), .null, false, false⟩ = .error (.defect d) ↔
          PatternsUpset (some m) (attributes.lookup "argCount") (false = true → _) d :=
      compile_eq_defect_iff hnamed rfl rfl
    simpa [Datum.ofText?] using hcompile

end Rule
end CallPolicy

import CallPolicy.Proofs.Defects
import CallPolicy.Proofs.RuleForms

/-!
# CallPolicy.Proofs.Acceptance

Which configurations give a policy. `Documented` tells it from the data alone, key by key and block
by block, together with the policy that the data stands for.

* `blockRule_eq_ok_iff`, `declaredRules_eq_ok_iff`, `ofEntriesOutcome_eq_ok_iff`: the parts.
* `build_eq_ok_iff`: a configuration is accepted exactly if it is documented and no number of
  arguments is too long to be written out.
-/

namespace CallPolicy

theorem Datum.sameKey_text_iff {key : Datum} {s : String} :
    key.sameKey (.text s) = true ↔ key = .text s := by
  cases key <;> simp [sameKey, whole?, real?]

namespace Config

/-- The pattern that a value for the number of arguments stands for. A whole number stands for
itself. -/
inductive CountGives : Datum → Option Pattern → Prop
  | null : CountGives .null none
  | empty : CountGives (.text "") none
  | pattern {t : String} {p : Pattern} (hne : t ≠ "") (hp : Pattern.compile t = .ok p) :
      CountGives (.text t) (some p)
  | number (n : Int) : CountGives (.int n) (some (Pattern.plain (toString n)))

/-- The rule that a block of a configuration stands for. -/
structure BlockGives (entries : List (Datum × Datum)) (r : Rule) : Prop where
  known : ∀ e ∈ entries, ∃ key ∈ "name" :: ruleAttributes, e.1 = .text key
  name : Datum.field "name" entries = .text r.name
  name_ne_empty : r.name ≠ ""
  methodName : Datum.field "methodName" entries = .text r.namePattern.text
  methodName_ne_empty : r.namePattern.text ≠ ""
  compiles : Pattern.compile r.namePattern.text = .ok r.namePattern
  argumentCount : CountGives (Datum.field "argumentCount" entries) r.countPattern
  reason : ∃ t, Datum.field "reason" entries = .text t ∧ t ≠ "" ∧ r.reason = some t

/-- The rules that a list of blocks stands for, one for each block at its place. -/
inductive BlocksGive : Datum → List Rule → Prop
  | null : BlocksGive .null []
  | list {blocks : List Datum} {rules : List Rule} (hlength : rules.length = blocks.length)
      (hall : ∀ (k : Nat) block r, blocks[k]? = some block → rules[k]? = some r →
        ∃ entries, block = .mapping entries ∧ BlockGives entries r) :
      BlocksGive (.list blocks) rules

/-- The value of a switch, off where it is absent. -/
def SwitchGives (key : String) (entries : List (Datum × Datum)) (b : Bool) : Prop :=
  Datum.field? key entries = none ∧ b = false ∨ Datum.field? key entries = some (.bool b)

/-- The rules that a reference to a rules file stands for. -/
inductive FileGives (fs : Files) (isOptional : Bool) (base : Option String) :
    Datum → List Rule → Prop
  | null : FileGives fs isOptional base .null []
  | file {reference : String} {rules : List Rule} (hne : reference ≠ "")
      (h : (RulesFile.load fs reference isOptional base).start.1 = .ok rules) :
      FileGives fs isOptional base (.text reference) rules

/-- Entries are those that a configuration may have, and stand for a policy. -/
structure Documented (fs : Files) (base : Option String) (entries : List (Datum × Datum))
    (p : Policy) : Prop where
  known : ∀ e ∈ entries, ∃ key ∈ configKeys, e.1 = .text key
  constructors : SwitchGives "checkConstructors" entries p.checkConstructors
  rules : ∃ isOptional declared filed, SwitchGives "optional" entries isOptional ∧
    BlocksGive (Datum.field "rules" entries) declared ∧
    FileGives fs isOptional base (Datum.field "file" entries) filed ∧ p.rules = declared ++ filed

/-- The entries of a configuration: none where there is no data at all. -/
inductive Holds : Datum → List (Datum × Datum) → Prop
  | null : Holds .null []
  | mapping (entries : List (Datum × Datum)) : Holds (.mapping entries) entries

/-- The number of arguments of a block can be written out, if it is a number. -/
def CountIsShort (entries : List (Datum × Datum)) : Prop :=
  ∀ n, Datum.field "argumentCount" entries = .int n → n.natAbs < 10 ^ Datum.digitLimit

/-- So can those of all blocks. -/
def CountsAreShort (entries : List (Datum × Datum)) : Prop :=
  ∀ blocks block, Datum.field "rules" entries = .list blocks → .mapping block ∈ blocks →
    CountIsShort block

/-! ## Blocks -/

section

variable {source : String} {entries : List (Datum × Datum)} {p : Option Pattern} {r : Rule}

/-- Only the name is taken out of a block before its attributes are read. -/
theorem field_withoutName (key : String) (hkey : key ≠ "name") :
    Datum.field key (entries.filter fun (k, _) => !Datum.sameKey k (.text "name")) =
      Datum.field key entries := by
  suffices hfield : Datum.field? key
      (entries.filter fun (k, _) => !Datum.sameKey k (.text "name")) =
        Datum.field? key entries by
    rw [Datum.field, Datum.field, hfield]
  induction entries with
  | nil => rfl
  | cons e rest ih =>
    obtain ⟨k, v⟩ := e
    by_cases hk : k = .text "name"
    · have hdropped : (!Datum.sameKey k (.text "name")) = false := by
        rw [Datum.sameKey_text_iff.mpr hk]; rfl
      rw [List.filter_cons_of_neg (by simp [hdropped]), ih, hk, Datum.field?,
        if_neg (Ne.symm hkey)]
    · have hkept : (!Datum.sameKey k (.text "name")) = true := by
        simpa using mt Datum.sameKey_text_iff.mp hk
      rw [List.filter_cons_of_pos (by simpa using hkept)]
      cases k <;> simp [Datum.field?, ih]

theorem isKnownAttribute_iff {key : Datum} :
    Rule.isKnownAttribute key = true ↔ ∃ s ∈ ruleAttributes, key = .text s := by
  cases key <;> simp [Rule.isKnownAttribute]

theorem unknownAttributes_withoutName :
    Rule.unknownAttributes (entries.filter fun (k, _) => !Datum.sameKey k (.text "name")) = [] ↔
      ∀ e ∈ entries, ∃ key ∈ "name" :: ruleAttributes, e.1 = .text key := by
  have hknown (e : Datum × Datum) :
      (∃ key ∈ "name" :: ruleAttributes, e.1 = .text key) ↔
        (Datum.sameKey e.1 (.text "name") = true ∨ Rule.isKnownAttribute e.1 = true) := by
    rw [Datum.sameKey_text_iff, isKnownAttribute_iff]
    simp
  simp only [hknown, Rule.unknownAttributes, List.filter_eq_nil_iff, List.mem_map, List.mem_filter]
  grind

theorem givesName_iff {value : Datum} {np : Pattern} :
    (∃ m, value = Datum.ofText? m ∧ Rule.GivesName m np) ↔
      value = .text np.text ∧ np.text ≠ "" ∧ Pattern.compile np.text = .ok np := by
  constructor
  · rintro ⟨_, rfl, m, rfl, hne, hp⟩
    rw [Pattern.compile_text hp]
    exact ⟨rfl, hne, hp⟩
  · rintro ⟨rfl, hne, hp⟩
    exact ⟨some np.text, rfl, np.text, rfl, hne, hp⟩

/-- A number of arguments is read by way of its decimal text, if it has one that is short enough. -/
theorem countGives_iff {value : Datum} :
    (∃ c, Rule.WritesCount value c ∧ Rule.GivesCount c p) ↔
      CountGives value p ∧ ∀ n, value = .int n → n.natAbs < 10 ^ Datum.digitLimit := by
  constructor
  · rintro ⟨c, rfl | ⟨n, rfl, hn, rfl⟩, hc⟩
    · cases hc with
      | absent => exact ⟨.null, fun _ h => nomatch h⟩
      | empty => exact ⟨.empty, fun _ h => nomatch h⟩
      | pattern hne hp => exact ⟨.pattern hne hp, fun _ h => nomatch h⟩
    · refine ⟨?_, fun _ h => by cases h; exact hn⟩
      generalize ht : toString n = t at hc
      cases hc with
      | empty => exact absurd ht (Pattern.decimal_ne_empty n)
      | pattern hne hp =>
        subst ht
        rw [Pattern.compile_decimal] at hp
        cases hp
        exact .number n
  · rintro ⟨h, hshort⟩
    cases h with
    | null => exact ⟨none, Or.inl rfl, .absent⟩
    | empty => exact ⟨some "", Or.inl rfl, .empty⟩
    | pattern hne hp => exact ⟨some _, Or.inl rfl, .pattern hne hp⟩
    | number n =>
      exact ⟨_, Or.inr ⟨n, rfl, hshort n rfl, rfl⟩,
        .pattern (Pattern.decimal_ne_empty n) (Pattern.compile_decimal n)⟩

theorem declared_withoutName_eq_ok_iff {name : String}
    (hname : Datum.field "name" entries = .text name) (hne : name ≠ "") :
    Rule.declared (.text name)
        (.mapping (entries.filter fun (k, _) => !Datum.sameKey k (.text "name"))) = .ok r ↔
      BlockGives entries r ∧ CountIsShort entries := by
  rw [Rule.declared_eq_ok_iff hne, unknownAttributes_withoutName,
    field_withoutName "methodName" (by decide), field_withoutName "argumentCount" (by decide),
    field_withoutName "reason" (by decide), givesName_iff, countGives_iff]
  constructor
  · rintro ⟨hknown, ⟨hmethod, hmethodNe, hp⟩, ⟨hcount, hshort⟩, hreason, rfl⟩
    exact ⟨⟨hknown, hname, hne, hmethod, hmethodNe, hp, hcount, hreason⟩, hshort⟩
  · rintro ⟨h, hshort⟩
    have hsame : Datum.text r.name = .text name := h.name.symm.trans hname
    exact ⟨h.known, ⟨h.methodName, h.methodName_ne_empty, h.compiles⟩, ⟨h.argumentCount, hshort⟩,
      h.reason, Datum.text.inj hsame⟩

theorem blockRule_eq_ok_iff {index : Nat} {block : Datum} :
    blockRule source index block = .ok r ↔
      ∃ entries, block = .mapping entries ∧ BlockGives entries r ∧ CountIsShort entries := by
  -- A name that is empty, absent or no text rules out both sides.
  cases block with
  | mapping entries =>
    simp only [blockRule, Datum.mapping.injEq, exists_eq_left']
    split
    · rename_i hname
      refine iff_of_false (fun h => nomatch h) fun ⟨h, _⟩ => ?_
      exact h.name_ne_empty (Datum.text.inj (h.name.symm.trans hname))
    · rename_i hname
      exact iff_of_false (fun h => nomatch h) fun ⟨h, _⟩ => nomatch h.name.symm.trans hname
    · rename_i name hempty hname
      exact declared_withoutName_eq_ok_iff hname fun h => hempty (by rw [h])
    · rename_i hother
      refine iff_of_false (fun h => nomatch h) fun ⟨h, _⟩ => ?_
      exact hother _ h.name
  | _ => simp [blockRule]

theorem blockRules_eq_ok_iff {index : Nat} {blocks : List Datum} {rules : List Rule} :
    blockRules source index blocks = .ok rules ↔
      BlocksGive (.list blocks) rules ∧
        ∀ block, .mapping block ∈ blocks → CountIsShort block := by
  rw [readEach_eq_ok_iff (f := blockRule source) (g := blockRules source) (fun _ => rfl)
    (fun _ _ _ => rfl)]
  simp only [blockRule_eq_ok_iff]
  constructor
  · rintro ⟨hlength, hall⟩
    constructor
    · refine .list hlength fun k block r hb hr => ?_
      obtain ⟨entries, hentries, hgives, -⟩ := hall k block r hb hr
      exact ⟨entries, hentries, hgives⟩
    · intro block hblock
      obtain ⟨k, hk, hkb⟩ := List.mem_iff_getElem.mp hblock
      obtain ⟨entries, hentries, -, hshort⟩ := hall k _ rules[k] (List.getElem?_eq_getElem hk)
        (List.getElem?_eq_getElem (hlength ▸ hk))
      cases hkb.symm.trans hentries
      exact hshort
  · rintro ⟨hgive, hshort⟩
    cases hgive with
    | list hlength hall =>
      refine ⟨hlength, fun k block r hb hr => ?_⟩
      obtain ⟨entries, rfl, hgives⟩ := hall k block r hb hr
      exact ⟨entries, rfl, hgives, hshort entries (List.mem_of_getElem? hb)⟩

end

/-! ## Configurations -/

section

variable {fs : Files} {source : String} {base : Option String} {entries : List (Datum × Datum)}
  {p : Policy}

theorem declaredRules_eq_ok_iff {rules : List Rule} :
    declaredRules source (Datum.field "rules" entries) = .ok rules ↔
      BlocksGive (Datum.field "rules" entries) rules ∧ CountsAreShort entries := by
  unfold CountsAreShort
  cases Datum.field "rules" entries with
  | null =>
    have hnone : declaredRules source .null = .ok [] := rfl
    rw [hnone]
    constructor
    · intro h; cases h; exact ⟨.null, fun _ _ h => nomatch h⟩
    · rintro ⟨h, -⟩; cases h; rfl
  | list blocks =>
    rw [declaredRules, blockRules_eq_ok_iff]
    refine and_congr_right fun _ => ⟨?_, fun h block hblock => h blocks block rfl hblock⟩
    rintro h blocks block heq hblock
    cases heq
    exact h block hblock
  | _ =>
    constructor
    · intro h; cases h
    · rintro ⟨h, -⟩; cases h

theorem exists_referred_eq_ok_iff {isOptional : Bool} {value : Datum} {rules : List Rule} :
    (∃ reference, fileReference source value = .ok reference ∧
      referred fs isOptional base reference = .ok rules) ↔
      FileGives fs isOptional base value rules := by
  constructor
  · rintro ⟨reference, hreference, h⟩
    cases reference with
    | none =>
      cases h
      cases value with
      | null => exact .null
      | text s =>
        unfold fileReference at hreference
        split at hreference <;> cases hreference
        contradiction
      | _ => cases hreference
    | some reference =>
      obtain ⟨rfl, hne⟩ := fileReference_eq_some_iff.mp hreference
      exact .file hne ((RulesFile.load_gives fs reference isOptional base).start.trans h)
  · intro h
    cases h with
    | null => exact ⟨none, rfl, rfl⟩
    | file hne h =>
      exact ⟨_, fileReference_eq_some_iff.mpr ⟨rfl, hne⟩,
        (RulesFile.load_gives fs _ isOptional base).start.symm.trans h⟩

theorem isKnownKey_iff {key : Datum} :
    isKnownKey key = true ↔ ∃ s ∈ configKeys, key = .text s := by
  cases key <;> simp [isKnownKey]

theorem ofEntriesOutcome_eq_ok_iff :
    ofEntriesOutcome fs source base entries = .ok p ↔
      Documented fs base entries p ∧ CountsAreShort entries := by
  simp only [ofEntriesOutcome, bind_eq_ok_iff, checkKeys_eq_ok_iff, isKnownKey_iff,
    switch_eq_ok_iff, declaredRules_eq_ok_iff]
  constructor
  · rintro ⟨-, hknown, on, hon, optional, hoptional, declared, ⟨hblocks, hshort⟩, reference,
      hreference, filed, hfiled, h⟩
    cases h
    have hfile := exists_referred_eq_ok_iff.mp ⟨reference, hreference, hfiled⟩
    exact ⟨⟨hknown, hon, optional, declared, filed, hoptional, hblocks, hfile, rfl⟩, hshort⟩
  · rintro ⟨h, hshort⟩
    obtain ⟨optional, declared, filed, hoptional, hblocks, hfile, hrules⟩ := h.rules
    obtain ⟨reference, hreference, hfiled⟩ := exists_referred_eq_ok_iff.mpr hfile
    refine ⟨(), h.known, _, h.constructors, optional, hoptional, declared, ⟨hblocks, hshort⟩,
      reference, hreference, filed, hfiled, ?_⟩
    rw [← hrules]
    rfl

/-- **Which configurations are accepted.** A configuration gives a policy exactly if it is one of
the documented ones and each of its numbers of arguments that is a whole number can be written out.
The policy is the one that the documentation tells. -/
theorem build_eq_ok_iff {data : Datum} :
    (build fs data source base).start.1 = .ok p ↔
      ∃ entries, Holds data entries ∧ Documented fs base entries p ∧ CountsAreShort entries := by
  rw [(build_gives fs data source base).start]
  constructor
  · intro h
    cases data with
    | null => exact ⟨[], .null, ofEntriesOutcome_eq_ok_iff.mp h⟩
    | mapping entries => exact ⟨entries, .mapping entries, ofEntriesOutcome_eq_ok_iff.mp h⟩
    | _ => cases h
  · rintro ⟨entries, hholds, h⟩
    cases hholds with
    | null => exact ofEntriesOutcome_eq_ok_iff.mpr h
    | mapping => exact ofEntriesOutcome_eq_ok_iff.mpr h

end

/-- A number with more digits than can be written out. -/
def longNumber : Int := (16 ^ 3600 : Nat)

/-- A rule for that many arguments. -/
def longBlock : List (Datum × Datum) :=
  [(.text "name", .text "many"), (.text "methodName", .text "stop"),
    (.text "argumentCount", .int longNumber), (.text "reason", .text "too many")]

/-- A configuration with this rule alone. -/
def longCount : List (Datum × Datum) := [(.text "rules", .list [.mapping longBlock])]

/-- The policy that it stands for. -/
def longCountPolicy : Policy :=
  ⟨[⟨"many", .plain "stop", some (.plain (toString longNumber)), some "too many"⟩], false⟩

theorem longBlock_gives : BlockGives longBlock
    ⟨"many", .plain "stop", some (.plain (toString longNumber)), some "too many"⟩ where
  known := by simp [longBlock, ruleAttributes]
  name := rfl
  name_ne_empty := by decide
  methodName := rfl
  methodName_ne_empty := by decide
  compiles := Pattern.compile_plain (by simp [Pattern.plain, Pattern.IsPlain, Pattern.special])
  argumentCount := .number longNumber
  reason := ⟨"too many", rfl, by decide, rfl⟩

/-- A documented configuration that gives no policy. -/
theorem build_eq_ok_iff_needs_short_counts :
    Holds (.mapping longCount) longCount ∧ Documented ⟨[]⟩ none longCount longCountPolicy ∧
      (build ⟨[]⟩ (.mapping longCount) "c.yml" none).start.1 = .error (.defect .numberTooLong) := by
  have hblocks : BlocksGive (.list [.mapping longBlock]) longCountPolicy.rules := by
    refine .list rfl fun k block r hb hr => ?_
    cases k with
    | zero => cases hb; cases hr; exact ⟨longBlock, rfl, longBlock_gives⟩
    | succ k => cases hb
  have hupsets : BlockUpsets (.mapping longBlock) .numberTooLong := by
    have hlong : 10 ^ Datum.digitLimit ≤ longNumber.natAbs := by
      rw [longNumber, Int.natAbs_natCast]
      decide +kernel
    exact ⟨longBlock, "many", rfl, rfl, by decide, .longCount (m := some "stop")
      (unknownAttributes_withoutName.mpr longBlock_gives.known)
      (field_withoutName "methodName" (by decide)) (field_withoutName "argumentCount" (by decide))
      hlong⟩
  have hrules : Datum.field "rules" longCount = .list ([] ++ .mapping longBlock :: []) := rfl
  have hbefore : blockRules "c.yml" 0 [] = .ok [] := rfl
  have hknown : ∀ e ∈ longCount, isKnownKey e.1 = true := by
    simp [longCount, isKnownKey, configKeys]
  refine ⟨.mapping longCount, ⟨?_, Or.inl ⟨rfl, rfl⟩, false, longCountPolicy.rules, [],
    Or.inl ⟨rfl, rfl⟩, hblocks, .null, (List.append_nil _).symm⟩, ?_⟩
  · exact fun e he => isKnownKey_iff.mp (hknown e he)
  · rw [(build_gives _ _ _ _).start]
    exact buildOutcome_eq_defect_iff.mpr ⟨longCount, rfl, .block hknown (fun _ h => nomatch h)
      (fun _ h => nomatch h) hrules hbefore hupsets⟩

end Config
end CallPolicy

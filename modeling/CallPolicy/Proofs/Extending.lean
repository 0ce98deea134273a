import CallPolicy.Proofs.Loading
import CallPolicy.Proofs.Reporting

/-!
# CallPolicy.Proofs.Extending

A policy with further rules after its own, and with constructor calls covered where they were not,
finds all that it found before, and names the same rules.

* `extend_addsTo`: what an extended policy finds, place by place and over a run.
* `resolve_addsTo`: a command line extends the policy of its configuration file in this way.
-/

namespace CallPolicy

/-- Rules in front are tried first. -/
theorem Rule.findViolation_append (rules further : List Rule) (name count : String) :
    findViolation (rules ++ further) name count =
      (findViolation rules name count).or (findViolation further name count) :=
  List.find?_append

theorem Rule.findViolation_eq_none_iff {rules : List Rule} {name count : String} :
    findViolation rules name count = none ↔ ∀ e ∈ rules, e.forbids name count = false := by
  simp [findViolation]

/-- A call that rules are checked against stays one when constructor calls are added. -/
theorem Call.site?_or {b : Bool} {place : Place} {site : Site} (h : site? b place = some site)
    (b' : Bool) : site? (b || b') place = some site := by
  rw [site?_eq_some_iff] at h ⊢
  obtain ⟨hshape, hswitch, hrest⟩ := h
  refine ⟨hshape, ?_, hrest⟩
  rcases hswitch with rfl | hplain
  · exact Or.inl rfl
  · exact Or.inr hplain

namespace Policy

/-- The policy with further rules after its own, and constructor calls covered if `constructors`
says so. -/
def extend (p : Policy) (further : List Rule) (constructors : Bool) : Policy :=
  ⟨p.rules ++ further, p.checkConstructors || constructors⟩

/-- Why a call of `name` at a place breaks `r` under an extended policy and nothing before: no rule
of `p` forbids it and `r` is the first of the further rules that does, or it is a constructor call,
which `p` does not cover. -/
inductive Gains (p : Policy) (further : List Rule) (place : Place) (name : String) (r : Rule) :
    Prop where
  | byRule
      (unforbidden : ∀ e ∈ p.rules,
        e.forbids name (toString (Call.describe place).argumentCount) = false)
      (first : ∃ k : Nat, further[k]? = some r ∧
        r.forbids name (toString (Call.describe place).argumentCount) = true ∧
        ∀ j < k, ∀ e : Rule, further[j]? = some e →
          e.forbids name (toString (Call.describe place).argumentCount) = false)
  | bySwitch
      (construction : (Call.describe place).shape = .construction)
      (uncovered : p.checkConstructors = false)

/-- `q` finds what `p` finds, with the same rules and messages, and beyond that only what further
rules or the constructor switch bring. -/
structure AddsTo (q p : Policy) (further : List Rule) : Prop where
  /-- What is found at a place stays. -/
  stays : ∀ place f, p.findingAt place = some f → q.findingAt place = some f
  /-- What a run gave is given again, in the same order. -/
  sublist : ∀ places start start',
    ((p.run places).run start).1.Sublist ((q.run places).run start').1
  /-- The rest of a run comes from the places at which nothing was found. -/
  perm : ∀ places start start', ((q.run places).run start').1.Perm
    (((p.run places).run start).1 ++
      (places.filter fun x => (p.findingAt x).isNone).filterMap q.findingAt)
  /-- What is found at such a place has a reason. -/
  gains : ∀ place f, p.findingAt place = none → q.findingAt place = some f →
    ∃ name r, q.Forbids place name r ∧ Tells f place name r ∧ p.Gains further place name r

section

variable {p : Policy} {further : List Rule} {constructors : Bool}

theorem violation?_extend {place : Place} {v : Violation} (h : p.violation? place = some v) :
    (p.extend further constructors).violation? place = some v := by
  obtain ⟨hsite, hrule⟩ := violation?_eq_some_iff.mp h
  refine violation?_eq_some_iff.mpr ⟨Call.site?_or hsite constructors, ?_⟩
  rw [extend, Rule.findViolation_append, hrule]
  rfl

theorem findingAt_extend {place : Place} {f : Finding} (h : p.findingAt place = some f) :
    (p.extend further constructors).findingAt place = some f := by
  obtain ⟨v, hv, hf⟩ := Option.map_eq_some_iff.mp h
  exact Option.map_eq_some_iff.mpr ⟨v, violation?_extend hv, hf⟩

/-- A call that only the extended policy finds to break a rule is not covered by `p`, or broken by
none of its rules. -/
theorem gains_of_forbids {place : Place} {name : String} {r : Rule}
    (hnone : p.findingAt place = none)
    (h : (p.extend further constructors).Forbids place name r) :
    p.Gains further place name r := by
  by_cases hcovered : p.Covers (Call.describe place).shape
  · have hunforbidden : Rule.findViolation p.rules name
        (toString (Call.describe place).argumentCount) = none := by
      cases hr : Rule.findViolation p.rules name
          (toString (Call.describe place).argumentCount) with
      | none => rfl
      | some r' =>
        have hforbids : p.Forbids place name r' :=
          ⟨hcovered, h.named, Rule.findViolation_eq_some_iff.mp hr⟩
        have hfound := findingAt_eq_some_iff.mpr ⟨name, r', hforbids, tells_iff.mpr rfl⟩
        rw [hnone] at hfound
        cases hfound
    have hfirst := Rule.findViolation_eq_some_iff.mpr h.first
    rw [extend, Rule.findViolation_append, hunforbidden, Option.none_or] at hfirst
    exact .byRule (Rule.findViolation_eq_none_iff.mp hunforbidden)
      (Rule.findViolation_eq_some_iff.mp hfirst)
  · rcases h.covered with hplain | hqualified | ⟨hconstruction, -⟩
    · exact absurd (Or.inl hplain) hcovered
    · exact absurd (Or.inr (Or.inl hqualified)) hcovered
    · have hoff : p.checkConstructors ≠ true := fun hon =>
        hcovered (Or.inr (Or.inr ⟨hconstruction, hon⟩))
      exact .bySwitch hconstruction (Bool.eq_false_iff.mpr hoff)

/-- What `p` finds is what the extended policy finds at the same places. -/
theorem filterMap_findingAt_extend (places : List Place) :
    places.filterMap p.findingAt =
      (places.filter fun x => (p.findingAt x).isSome).filterMap
        (p.extend further constructors).findingAt := by
  rw [List.filterMap_filter]
  congr 1
  funext place
  cases h : p.findingAt place with
  | none => rfl
  | some f => exact (findingAt_extend h).symm

/-- Places apart by whether something was found there before. -/
theorem filterMap_extend_perm (places : List Place) :
    (places.filterMap (p.extend further constructors).findingAt).Perm
      (places.filterMap p.findingAt ++
        (places.filter fun x => (p.findingAt x).isNone).filterMap
          (p.extend further constructors).findingAt) := by
  have hsplit := (List.filter_append_perm (fun x => (p.findingAt x).isSome) places).filterMap
    (p.extend further constructors).findingAt
  rw [List.filterMap_append, ← filterMap_findingAt_extend] at hsplit
  simpa using hsplit.symm

theorem extend_addsTo : (p.extend further constructors).AddsTo p further where
  stays _ _ h := findingAt_extend h
  sublist places start start' := by
    rw [run_eq, run_eq]
    refine Check.sublist_inSourceOrder _ ?_
    have hkept : (places.filter fun x => (p.findingAt x).isSome).Sublist places :=
      List.filter_sublist
    have hfound := hkept.filterMap (p.extend further constructors).findingAt
    rwa [← filterMap_findingAt_extend] at hfound
  perm places start start' := by
    rw [run_eq, run_eq]
    have hbefore := (Check.inSourceOrder_arranges Finding.rank (places.filterMap p.findingAt)).perm
    exact (Check.inSourceOrder_arranges _ _).perm.trans
      ((filterMap_extend_perm places).trans (hbefore.symm.append_right _))
  gains place f hnone hf := by
    obtain ⟨name, r, hforbids, htells⟩ := findingAt_eq_some_iff.mp hf
    exact ⟨name, r, hforbids, htells, gains_of_forbids hnone hforbids⟩

end

end Policy

namespace Config

/-- The rules that a command line adds: none without a further file, and otherwise those of the
file, which may be missing if the command line says so. -/
def Adds (fs : Files) (r : Request) (further : List Rule) : Prop :=
  match given? r.rulesFile with
  | none => further = []
  | some path => ∃ isOptional, r.isOptional = .bool isOptional ∧
      (RulesFile.load fs path isOptional none).start.1 = .ok further

theorem given?_ne_empty {name : Option String} {path : String} (h : given? name = some path) :
    path ≠ "" := by
  have hkept := (Option.filter_eq_some_iff.mp h).2
  simpa using hkept

/-- Of the entries for a further file, only the switch and the file itself can fail. -/
theorem ofEntriesOutcome_further (fs : Files) {path : String} (hpath : path ≠ "")
    (isOptional : Datum) :
    ofEntriesOutcome fs "command line" none (furtherEntries path isOptional) = (do
      let optional ← switch "command line" "optional" (furtherEntries path isOptional)
      let filed ← RulesFile.loaded fs path optional none
      return ⟨filed, false⟩) := by
  have hreference : fileReference "command line" (.text path) = .ok (some path) :=
    fileReference_eq_some_iff.mpr ⟨rfl, hpath⟩
  have hfile : Datum.field "file" (furtherEntries path isOptional) = .text path := rfl
  rw [ofEntriesOutcome, hfile, hreference]
  rfl

theorem switch_further_eq_ok_iff {path : String} {isOptional : Datum} {b : Bool} :
    switch "command line" "optional" (furtherEntries path isOptional) = .ok b ↔
      isOptional = .bool b := by
  have hfield : Datum.field? "optional" (furtherEntries path isOptional) = some isOptional := rfl
  rw [switch_eq_ok_iff, hfield]
  simp

theorem furtherOutcome_eq_ok_iff {fs : Files} {r : Request} {policy : Policy} :
    furtherOutcome fs r.isOptional (given? r.rulesFile) = .ok policy ↔
      ∃ further, Adds fs r further ∧ policy = ⟨further, false⟩ := by
  unfold Adds furtherOutcome
  cases hgiven : given? r.rulesFile with
  | none => simp [eq_comm]
  | some path =>
    simp only [ofEntriesOutcome_further fs (given?_ne_empty hgiven), bind_eq_ok_iff,
      switch_further_eq_ok_iff, (RulesFile.load_gives fs path _ none).start]
    constructor
    · rintro ⟨b, hb, filed, hfiled, heq⟩
      cases heq
      exact ⟨filed, ⟨b, hb, hfiled⟩, rfl⟩
    · rintro ⟨further, ⟨b, hb, hfurther⟩, rfl⟩
      exact ⟨b, hb, further, hfurther, rfl⟩

theorem resolve_eq_ok_iff {fs : Files} {r : Request} {q : Policy} :
    (resolve fs r).start.1 = .ok q ↔
      ∃ configured further, configuredOutcome fs (given? r.configPath) = .ok configured ∧
        Adds fs r further ∧ q = configured.extend further r.checkConstructors := by
  rw [(resolve_gives fs r).start, resolveOutcome]
  simp only [bind_eq_ok_iff, furtherOutcome_eq_ok_iff]
  constructor
  · rintro ⟨configured, hconfigured, -, ⟨further, hadds, rfl⟩, heq⟩
    cases heq
    exact ⟨configured, further, hconfigured, hadds, rfl⟩
  · rintro ⟨configured, further, hconfigured, hadds, rfl⟩
    exact ⟨configured, hconfigured, _, ⟨further, hadds, rfl⟩, rfl⟩

/-- **A command line only adds.** Where a configuration file gives a policy alone and together with
what the command line asks for, the second policy finds all that the first one finds, by the same
rules and with the same messages, and beyond that only calls that the rules of the further file
forbid and no rule before them, or constructor calls that were not covered. -/
theorem resolve_addsTo (fs : Files) (r : Request) {p q : Policy}
    (hp : (resolve fs { configPath := r.configPath }).start.1 = .ok p)
    (hq : (resolve fs r).start.1 = .ok q) :
    ∃ further, Adds fs r further ∧ q = p.extend further r.checkConstructors ∧
      q.AddsTo p further := by
  rw [resolve_alone] at hp
  obtain ⟨configured, further, hconfigured, hadds, rfl⟩ := resolve_eq_ok_iff.mp hq
  obtain rfl : p = configured := Except.ok.inj (hp.symm.trans hconfigured)
  exact ⟨further, hadds, rfl, Policy.extend_addsTo⟩

/-- A configuration that refers to one rules file, and a second rules file. -/
def twoRulesFiles : Files :=
  let octets (text : String) := Text.Utf8.encode text.toList
  ⟨[(["c.yml"], .file (octets "\"file\": \"own.xml\"")),
    (["own.xml"], .file (octets
      "<ForbiddenMethods><ForbiddenMethod name='own' methodName='stop'/></ForbiddenMethods>")),
    (["more.xml"], .file (octets
      "<ForbiddenMethods><ForbiddenMethod name='more' methodName='st.*'/></ForbiddenMethods>"))]⟩

/-- A command line that asks for the second file and for constructor calls. -/
def secondFile : Request :=
  { configPath := some "/c.yml", rulesFile := some "/more.xml", checkConstructors := true }

/-- A rule of the second file comes after that of the first, also where both forbid a call. -/
theorem resolve_addsTo_second_file :
    ∃ p q further, (resolve twoRulesFiles { configPath := secondFile.configPath }).start.1 = .ok p ∧
      (resolve twoRulesFiles secondFile).start.1 = .ok q ∧ p.rules.length = 1 ∧
      further.length = 1 ∧ q = p.extend further true ∧ q.AddsTo p further := by
  have hcount (r : Request) (n : Nat)
      (h : (resolve twoRulesFiles r).start.1.toOption.map (·.rules.length) = some n) :
      ∃ p, (resolve twoRulesFiles r).start.1 = .ok p ∧ p.rules.length = n := by
    cases hp : (resolve twoRulesFiles r).start.1 with
    | error e => rw [hp] at h; cases h
    | ok p => rw [hp] at h; exact ⟨p, rfl, Option.some.inj h⟩
  obtain ⟨p, hp, hone⟩ := hcount { configPath := secondFile.configPath } 1 (by decide +kernel)
  obtain ⟨q, hq, htwo⟩ := hcount secondFile 2 (by decide +kernel)
  obtain ⟨further, -, hextend, hadds⟩ := resolve_addsTo twoRulesFiles secondFile hp hq
  have hlength : q.rules.length = p.rules.length + further.length := by
    rw [hextend]; exact List.length_append
  exact ⟨p, q, further, hp, hq, hone, by omega, hextend, hadds⟩

end Config
end CallPolicy

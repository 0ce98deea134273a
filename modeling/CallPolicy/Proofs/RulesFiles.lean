import CallPolicy.Proofs.Defects
import CallPolicy.Proofs.RuleForms

/-!
# CallPolicy.Proofs.RulesFiles

A rules file gives a rule for each of its elements, or none at all and the fault of the first
element that is no rule.

* `ruleOf_eq_ok_iff`, `ruleOf_eq_fault_iff`: one element.
* `parse_all_or_nothing`: the whole document.
-/

namespace CallPolicy

open Config

/-- The text is read as a pattern, or there is a fault in it. -/
def Pattern.IsForeseen (text : String) : Prop :=
  (∃ p, compile text = .ok p) ∨ ∃ why, compile text = .error (.invalid why)

theorem Pattern.isForeseen_of_isPlain {text : String} (h : IsPlain text.toList) :
    IsForeseen text := Or.inl ⟨_, compile_plain h⟩

theorem Pattern.IsForeseen.not_upsets {text : String} (h : IsForeseen text) (d : Defect) :
    ¬ Upsets text d := by
  rcases h with ⟨p, h⟩ | ⟨why, h⟩ <;> cases d <;> simp [Upsets, h]

namespace Rule

theorem filedName_injective {source : String} {i j : Int}
    (h : filedName source i = filedName source j) : i = j := by
  have hlists := congrArg String.toList h
  simp only [filedName, String.toList_append, List.append_assoc,
    List.append_cancel_left_eq] at hlists
  exact Int.repr_injective (String.toList_inj.mp hlists)

end Rule

namespace Config
namespace RulesFile

/-- An element stands for a rule. -/
structure IsEntry (e : Xml.Element) : Prop where
  isRule : e.name = ruleElement
  named : ∃ p, Rule.GivesName (e.attributes.lookup "methodName") p
  counted : ∃ p, Rule.GivesCount (e.attributes.lookup "argCount") p

/-- The rule that an element stands for, with its place among the others. -/
structure EntryGives (source : String) (index : Nat) (e : Xml.Element) (r : Rule) : Prop where
  isRule : e.name = ruleElement
  name : r.name = source ++ ":" ++ toString index
  methodName : e.attributes.lookup "methodName" = some r.namePattern.text
  namePattern : Rule.GivesName (e.attributes.lookup "methodName") r.namePattern
  countPattern : Rule.GivesCount (e.attributes.lookup "argCount") r.countPattern
  reason : r.reason = none

/-- What is wrong with an element that stands for no rule. -/
inductive Offends (source : String) (index : Nat) (e : Xml.Element) : Fault → Prop
  | element (h : e.name ≠ ruleElement) : Offends source index e (.unexpectedElement source e.name)
  | noMethod (hname : e.name = ruleElement) (h : e.attributes.lookup "methodName" = none) :
      Offends source index e (.inRulesFile source .noMethodAttribute)
  | rule {m : String} {f : Fault} (hname : e.name = ruleElement)
      (hm : e.attributes.lookup "methodName" = some m)
      (h : Rule.Spoils (Rule.filedName source index) (some m) (e.attributes.lookup "argCount") True
        f) : Offends source index e (.inRulesFile source f)

section

variable {source : String} {index : Nat} {e : Xml.Element} {r : Rule} {f : Fault}

theorem ruleOf_eq_ok_iff : ruleOf source index e = .ok r ↔ EntryGives source index e r := by
  by_cases hname : e.name = ruleElement
  · rw [ruleOf, if_neg (not_not_intro hname), mapError_eq_ok_iff, Rule.filed_eq_ok_iff]
    constructor
    · rintro ⟨⟨m, hm, hne, hp⟩, hcount, hnamed, hreason⟩
      have htext : e.attributes.lookup "methodName" = some r.namePattern.text :=
        hm.trans (congrArg some (Pattern.compile_text hp).symm)
      exact ⟨hname, hnamed, htext, ⟨m, hm, hne, hp⟩, hcount, hreason⟩
    · intro h
      exact ⟨h.namePattern, h.countPattern, h.name, h.reason⟩
  · rw [ruleOf, if_pos hname]
    constructor
    · intro h; cases h
    · intro h; exact absurd h.isRule hname

theorem exists_ruleOf_eq_ok_iff : (∃ r, ruleOf source index e = .ok r) ↔ IsEntry e := by
  constructor
  · rintro ⟨r, h⟩
    have hgives := ruleOf_eq_ok_iff.mp h
    exact ⟨hgives.isRule, ⟨_, hgives.namePattern⟩, ⟨_, hgives.countPattern⟩⟩
  · rintro ⟨hname, ⟨p, hp⟩, ⟨c, hc⟩⟩
    obtain ⟨m, hm, -, hcompiled⟩ := id hp
    refine ⟨⟨Rule.filedName source index, p, c, none⟩, ruleOf_eq_ok_iff.mpr ?_⟩
    exact ⟨hname, rfl, hm.trans (congrArg some (Pattern.compile_text hcompiled).symm), hp, hc, rfl⟩

theorem ruleOf_eq_fault_iff :
    ruleOf source index e = .error (.fault f) ↔ Offends source index e f := by
  by_cases hname : e.name = ruleElement
  · have hwithin (failure : Failure) : within source failure = .fault f ↔
        ∃ f', failure = .fault f' ∧ f = .inRulesFile source f' := by
      cases failure <;> simp [within, eq_comm]
    rw [ruleOf, if_neg (not_not_intro hname), mapError_eq_error_iff]
    simp only [hwithin]
    constructor
    · rintro ⟨_, h, f', rfl, rfl⟩
      rcases Rule.filed_eq_fault_iff.mp h with ⟨hm, rfl⟩ | ⟨m, hm, h⟩
      · exact .noMethod hname hm
      · exact .rule hname hm h
    · intro h
      cases h with
      | element h => exact absurd hname h
      | noMethod _ hm => exact ⟨_, Rule.filed_eq_fault_iff.mpr (Or.inl ⟨hm, rfl⟩), _, rfl, rfl⟩
      | rule _ hm h => exact ⟨_, Rule.filed_eq_fault_iff.mpr (Or.inr ⟨_, hm, h⟩), _, rfl, rfl⟩
  · rw [ruleOf, if_pos hname]
    constructor
    · intro h; cases h; exact .element hname
    · intro h
      cases h with
      | element => rfl
      | noMethod h => exact absurd h hname
      | rule h => exact absurd h hname

theorem Offends.message_eq (h : Offends source index e f) :
    ∃ what, f.message = "Unable to parse " ++ source ++ " - " ++ what := by
  cases h <;> exact ⟨_, rfl⟩

/-- The patterns of an element are read, or there is a fault in them. -/
def IsForeseen (e : Xml.Element) : Prop :=
  ∀ key text, key = "methodName" ∨ key = "argCount" → e.attributes.lookup key = some text →
    Pattern.IsForeseen text

theorem IsForeseen.ruleOf_ne_defect (h : IsForeseen e) (d : Defect) :
    ruleOf source index e ≠ .error (.defect d) := by
  rw [Ne, ruleOf_eq_defect_iff]
  rintro ⟨-, m, hm, -, hupsets | ⟨-, -, c, hc, -, hupsets⟩⟩
  · exact (h _ m (Or.inl rfl) hm).not_upsets d hupsets
  · exact (h _ c (Or.inr rfl) hc).not_upsets d hupsets

end

/-! ## Documents -/

/-- A document stands for rules. -/
structure IsDocument (root : Xml.Element) : Prop where
  isRules : root.name = rootElement
  entries : ∀ e ∈ root.children, IsEntry e

/-- An element of a document with nothing but entries before it. -/
def IsReached (root e : Xml.Element) : Prop :=
  ∃ before after, root.children = before ++ e :: after ∧ ∀ e' ∈ before, IsEntry e'

/-- What is wrong with a document that stands for no rules: its root, or the first element that
stands for no rule. -/
inductive DocumentOffends (source : String) (root : Xml.Element) : Fault → Prop
  | root (h : root.name ≠ rootElement) :
      DocumentOffends source root (.wrongRoot source root.name)
  | child {before after : List Xml.Element} {e : Xml.Element} {f : Fault}
      (hname : root.name = rootElement) (hchildren : root.children = before ++ e :: after)
      (hbefore : ∀ e' ∈ before, IsEntry e') (h : Offends source (before.length + 1) e f) :
      DocumentOffends source root f

section

variable {source : String} {root : Xml.Element} {es : List Xml.Element} {rules : List Rule}

theorem rulesFrom_eq_ok_iff {index : Nat} :
    rulesFrom source index es = .ok rules ↔
      rules.length = es.length ∧
        ∀ (k : Nat) e r, es[k]? = some e → rules[k]? = some r →
          EntryGives source (index + k) e r := by
  rw [readEach_eq_ok_iff (f := ruleOf source) (g := rulesFrom source) (fun _ => rfl)
    (fun _ _ _ => rfl)]
  simp only [ruleOf_eq_ok_iff]

theorem isEntry_of_rulesFrom {index : Nat} (h : rulesFrom source index es = .ok rules) :
    ∀ e ∈ es, IsEntry e := by
  obtain ⟨hlength, hall⟩ := rulesFrom_eq_ok_iff.mp h
  intro e he
  obtain ⟨k, hk, hek⟩ := List.mem_iff_getElem.mp he
  have hgives := hall k e rules[k] (hek ▸ List.getElem?_eq_getElem hk)
    (List.getElem?_eq_getElem (hlength ▸ hk))
  exact exists_ruleOf_eq_ok_iff.mp ⟨_, ruleOf_eq_ok_iff.mpr hgives⟩

/-- Elements that are all entries give rules: the first that fails would be an entry that fails. -/
theorem exists_rulesFrom_eq_ok_iff {index : Nat} :
    (∃ rules, rulesFrom source index es = .ok rules) ↔ ∀ e ∈ es, IsEntry e := by
  constructor
  · rintro ⟨rules, h⟩
    exact isEntry_of_rulesFrom h
  · intro hall
    cases h : rulesFrom source index es with
    | ok rules => exact ⟨rules, rfl⟩
    | error failure =>
      obtain ⟨before, e, after, -, rfl, -, he⟩ := (readEach_eq_error_iff (f := ruleOf source)
        (fun _ => rfl) (fun _ _ _ => rfl)).mp h
      obtain ⟨r, hr⟩ := exists_ruleOf_eq_ok_iff.mpr (hall e (by simp))
      exact absurd (hr.symm.trans he) (by simp)

theorem rulesOf_eq_ok_iff :
    rulesOf source root = .ok rules ↔
      root.name = rootElement ∧ rulesFrom source 1 root.children = .ok rules := by
  by_cases hname : root.name = rootElement <;> simp [rulesOf, hname]

/-- Reading stops at the root, or at the first element that is no entry. -/
theorem rulesOf_eq_error_iff {failure : Failure} :
    rulesOf source root = .error failure ↔
      root.name ≠ rootElement ∧ failure = .fault (.wrongRoot source root.name) ∨
      root.name = rootElement ∧ ∃ before e after, root.children = before ++ e :: after ∧
        (∀ e' ∈ before, IsEntry e') ∧ ruleOf source (before.length + 1) e = .error failure := by
  by_cases hname : root.name = rootElement
  · rw [rulesOf, if_neg (not_not_intro hname), readEach_eq_error_iff (f := ruleOf source)
      (g := rulesFrom source) (fun _ => rfl) (fun _ _ _ => rfl)]
    simp only [hname, ne_eq, not_true_eq_false, false_and, false_or, true_and, Nat.add_comm 1]
    constructor
    · rintro ⟨before, e, after, rules, hchildren, hbefore, he⟩
      exact ⟨before, e, after, hchildren, isEntry_of_rulesFrom hbefore, he⟩
    · rintro ⟨before, e, after, hchildren, hbefore, he⟩
      obtain ⟨rules, hrules⟩ := exists_rulesFrom_eq_ok_iff.mpr hbefore
      exact ⟨before, e, after, rules, hchildren, hrules, he⟩
  · simp [rulesOf, hname, eq_comm]

theorem exists_rulesOf_eq_ok_iff :
    (∃ rules, rulesOf source root = .ok rules) ↔ IsDocument root := by
  constructor
  · rintro ⟨rules, h⟩
    obtain ⟨hname, hrules⟩ := rulesOf_eq_ok_iff.mp h
    exact ⟨hname, isEntry_of_rulesFrom hrules⟩
  · intro h
    obtain ⟨rules, hrules⟩ := exists_rulesFrom_eq_ok_iff.mpr h.entries
    exact ⟨rules, rulesOf_eq_ok_iff.mpr ⟨h.isRules, hrules⟩⟩

theorem rulesOf_eq_fault_iff {f : Fault} :
    rulesOf source root = .error (.fault f) ↔ DocumentOffends source root f := by
  rw [rulesOf_eq_error_iff]
  simp only [ruleOf_eq_fault_iff, Failure.fault.injEq]
  constructor
  · rintro (⟨hname, rfl⟩ | ⟨hname, before, e, after, hchildren, hbefore, h⟩)
    · exact .root hname
    · exact .child hname hchildren hbefore h
  · intro h
    cases h with
    | root hname => exact Or.inl ⟨hname, rfl⟩
    | child hname hchildren hbefore h => exact Or.inr ⟨hname, _, _, _, hchildren, hbefore, h⟩

theorem rulesOf_ne_defect (hforeseen : ∀ e, IsReached root e → IsForeseen e) (d : Defect) :
    rulesOf source root ≠ .error (.defect d) := by
  rw [Ne, rulesOf_eq_error_iff]
  rintro (⟨-, h⟩ | ⟨-, before, e, after, hchildren, hbefore, h⟩)
  · cases h
  · exact (hforeseen e ⟨before, after, hchildren, hbefore⟩).ruleOf_ne_defect d h

theorem DocumentOffends.message_eq {f : Fault} (h : DocumentOffends source root f) :
    ∃ what, f.message = "Unable to parse " ++ source ++ " - " ++ what := by
  cases h with
  | root => exact ⟨_, rfl⟩
  | child _ _ _ h => exact h.message_eq

/-- Rules of one file have names of their own. -/
theorem nodup_names {index : Nat} (h : rulesFrom source index es = .ok rules) :
    (rules.map (·.name)).Nodup := by
  obtain ⟨hlength, hall⟩ := rulesFrom_eq_ok_iff.mp h
  have hname (k : Nat) (hk : k < rules.length) :
      rules[k].name = Rule.filedName source (index + k : Nat) :=
    (hall k _ _ (List.getElem?_eq_getElem (hlength ▸ hk)) (List.getElem?_eq_getElem hk)).name
  rw [List.nodup_iff_injective_get]
  intro i j hij
  have hi : (i : Nat) < rules.length := by simpa using i.isLt
  have hj : (j : Nat) < rules.length := by simpa using j.isLt
  have hsame :
      Rule.filedName source (index + i : Nat) = Rule.filedName source (index + j : Nat) := by
    rw [← hname i hi, ← hname j hj]
    simpa using hij
  have hplace := Rule.filedName_injective hsame
  exact Fin.ext (by omega)

end

/-- **All rules of a document or none.** A document gives rules exactly if its root is the one
expected and each of its elements is an entry. There is one rule for each element then, at its
place, made of the element's own texts and named after the file and the place. A document that gives
none is answered with a fault that names the file and is about the root or the first element that is
no entry; what comes after that element plays no part. -/
theorem parse_all_or_nothing (source : String) (root : Xml.Element) :
    ((∃ rules, (parse source (.ok root)).start.1 = .ok rules) ↔ IsDocument root) ∧
    (∀ rules, (parse source (.ok root)).start.1 = .ok rules →
      rules.length = root.children.length ∧
      (∀ (k : Nat) e r, root.children[k]? = some e → rules[k]? = some r →
        EntryGives source (k + 1) e r) ∧
      (rules.map (·.name)).Nodup) ∧
    ((∀ e, IsReached root e → IsForeseen e) → ¬ IsDocument root →
      ∃ f, (parse source (.ok root)).start.1 = .error (.fault f) ∧
        (∃ what, f.message = "Unable to parse " ++ source ++ " - " ++ what) ∧
        DocumentOffends source root f) := by
  have houtcome : (parse source (.ok root)).start.1 = rulesOf source root :=
    (parse_gives source (.ok root)).start
  rw [houtcome]
  refine ⟨exists_rulesOf_eq_ok_iff, ?_, ?_⟩
  · intro rules hrules
    obtain ⟨-, hfrom⟩ := rulesOf_eq_ok_iff.mp hrules
    obtain ⟨hlength, hall⟩ := rulesFrom_eq_ok_iff.mp hfrom
    refine ⟨hlength, ?_, nodup_names hfrom⟩
    intro k e r he hr
    rw [Nat.add_comm]
    exact hall k e r he hr
  · intro hforeseen hnot
    cases h : rulesOf source root with
    | ok rules => exact absurd (exists_rulesOf_eq_ok_iff.mp ⟨rules, h⟩) hnot
    | error failure =>
      cases failure with
      | defect d => exact absurd h (rulesOf_ne_defect hforeseen d)
      | fault f =>
        have hoffends := rulesOf_eq_fault_iff.mp h
        exact ⟨f, rfl, hoffends.message_eq, hoffends⟩

/-- What is told of an outcome that is a fault. -/
def message? : Except Failure (List Rule) → Option String
  | .error (.fault f) => some f.message
  | _ => none

/-- An entry, an entry without a name to match, and an element that is no entry. -/
def mixedDocument : Xml.Element :=
  .node rootElement [] [
    .node ruleElement [("methodName", "stop"), ("argCount", "")] [],
    .node ruleElement [("methodName", "")] [],
    .node "Other" [] []]

/-- The second element is told of: the third one is never looked at, and the first gives no rule on
its own. -/
theorem parse_all_or_nothing_mixed :
    ∃ f, (parse "r.xml" (.ok mixedDocument)).start.1 = .error (.fault f) ∧
      f.message = "Unable to parse r.xml - Rule 'r.xml:2': missing required 'methodName'" := by
  have hstop : Pattern.IsForeseen "stop" :=
    Pattern.isForeseen_of_isPlain (by simp [Pattern.IsPlain, Pattern.special])
  have hempty : Pattern.IsForeseen "" :=
    Pattern.isForeseen_of_isPlain (by simp [Pattern.IsPlain, Pattern.special])
  have hforeseen : ∀ e, IsReached mixedDocument e → IsForeseen e := by
    rintro e ⟨before, after, hchildren, -⟩ key text - hlookup
    have he : e ∈ mixedDocument.children := by rw [hchildren]; simp
    obtain ⟨front, rest, hattributes, -⟩ := List.lookup_eq_some_iff.mp hlookup
    have ha : (key, text) ∈ e.attributes := by rw [hattributes]; simp
    have htext : text = "stop" ∨ text = "" := by
      simp only [mixedDocument, Xml.Element.children, List.mem_cons, List.not_mem_nil,
        or_false] at he
      rcases he with rfl | rfl | rfl <;> grind [Xml.Element.attributes]
    rcases htext with rfl | rfl
    · exact hstop
    · exact hempty
  have hnot : ¬ IsDocument mixedDocument := by
    intro h
    have hother : .node "Other" [] [] ∈ mixedDocument.children := by
      simp [mixedDocument, Xml.Element.children]
    exact absurd (h.entries _ hother).isRule (by decide)
  obtain ⟨f, hf, -, -⟩ := (parse_all_or_nothing "r.xml" mixedDocument).2.2 hforeseen hnot
  have hmessage : message? (parse "r.xml" (.ok mixedDocument)).start.1 =
      some "Unable to parse r.xml - Rule 'r.xml:2': missing required 'methodName'" := by
    decide +kernel
  rw [hf] at hmessage
  exact ⟨f, hf, Option.some.inj hmessage⟩

end RulesFile
end Config
end CallPolicy

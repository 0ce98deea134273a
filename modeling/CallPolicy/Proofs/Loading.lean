import CallPolicy.Config
import Mathlib

/-!
# CallPolicy.Proofs.Loading

What work on a configuration comes to, without what it tells on the way. Nothing of what was told
before plays a part in it, so each function of `Config` that loads has an outcome that is a plain
`Except`; `Gives` ties the two together.

* `resolve_gives`: the outcome of a command line is `resolveOutcome`, step by step that of the
  configuration file and that of the further rules file.
-/

namespace CallPolicy
namespace Config

/-! ## Steps that may fail -/

section

variable {ε α β : Type} {x : Except ε α} {f : α → Except ε β}

theorem bind_eq_ok_iff {b : β} : (x >>= f) = .ok b ↔ ∃ a, x = .ok a ∧ f a = .ok b := by
  cases x with
  | error e =>
    constructor
    · intro h; cases h
    · rintro ⟨a, h, -⟩; cases h
  | ok a =>
    constructor
    · intro h; exact ⟨a, rfl, h⟩
    · rintro ⟨a', h, hf⟩; cases h; exact hf

theorem bind_eq_error_iff {e : ε} :
    (x >>= f) = .error e ↔ x = .error e ∨ ∃ a, x = .ok a ∧ f a = .error e := by
  cases x with
  | error e' =>
    constructor
    · intro h; cases h; exact Or.inl rfl
    · rintro (h | ⟨a, h, -⟩)
      · cases h; rfl
      · cases h
  | ok a =>
    constructor
    · intro h; exact Or.inr ⟨a, rfl, h⟩
    · rintro (h | ⟨a', h, hf⟩)
      · cases h
      · cases h; exact hf

theorem pure_ne_error {a : α} {e : ε} : (pure a : Except ε α) ≠ .error e := fun h => nomatch h

theorem map_eq_ok_iff {g : α → β} {b : β} : (g <$> x) = .ok b ↔ ∃ a, x = .ok a ∧ g a = b := by
  cases x <;> simp [Functor.map, Except.map]

theorem map_eq_error_iff {g : α → β} {e : ε} : (g <$> x) = .error e ↔ x = .error e := by
  cases x <;> simp [Functor.map, Except.map]

theorem mapError_eq_ok_iff {ε' : Type} {g : ε → ε'} {a : α} :
    x.mapError g = .ok a ↔ x = .ok a := by
  cases x <;> simp [Except.mapError]

theorem mapError_eq_error_iff {ε' : Type} {g : ε → ε'} {e : ε'} :
    x.mapError g = .error e ↔ ∃ e', x = .error e' ∧ g e' = e := by
  cases x <;> simp [Except.mapError]

/-- Work on all of a list succeeds with one result for each element. -/
theorem mapM_eq_ok_iff {xs : List α} {bs : List β} :
    xs.mapM f = .ok bs ↔ List.Forall₂ (fun a b => f a = .ok b) xs bs := by
  induction xs generalizing bs with
  | nil =>
    rw [List.mapM_nil, List.forall₂_nil_left_iff]
    constructor
    · intro h; cases h; rfl
    · rintro rfl; rfl
  | cons a xs ih =>
    rw [List.mapM_cons, bind_eq_ok_iff, List.forall₂_cons_left_iff]
    simp only [bind_eq_ok_iff, ih]
    constructor
    · rintro ⟨b, hb, bs', hrest, h⟩
      cases h
      exact ⟨b, bs', hb, hrest, rfl⟩
    · rintro ⟨b, bs', hb, hrest, rfl⟩
      exact ⟨b, hb, bs', hrest, rfl⟩

/-- It fails at the first element that does. -/
theorem mapM_eq_error_iff {xs : List α} {e : ε} :
    xs.mapM f = .error e ↔ ∃ before a after, xs = before ++ a :: after ∧
      (∀ a' ∈ before, ∃ b, f a' = .ok b) ∧ f a = .error e := by
  induction xs with
  | nil =>
    constructor
    · intro h; cases h
    · rintro ⟨before, a, after, h, -⟩
      cases before <;> cases h
  | cons a xs ih =>
    rw [List.mapM_cons, bind_eq_error_iff]
    constructor
    · rintro (h | ⟨b, hb, h⟩)
      · exact ⟨[], a, xs, rfl, by simp, h⟩
      · rcases bind_eq_error_iff.mp h with h | ⟨bs, -, h⟩
        · obtain ⟨before, a', after, rfl, hbefore, ha'⟩ := ih.mp h
          refine ⟨a :: before, a', after, rfl, ?_, ha'⟩
          exact List.forall_mem_cons.mpr ⟨⟨b, hb⟩, hbefore⟩
        · cases h
    · rintro ⟨before, a', after, hsplit, hbefore, ha'⟩
      cases before with
      | nil => cases hsplit; exact Or.inl ha'
      | cons a'' before =>
        cases hsplit
        obtain ⟨⟨b, hb⟩, hbefore⟩ := List.forall_mem_cons.mp hbefore
        exact Or.inr ⟨b, hb, bind_eq_error_iff.mpr
          (Or.inl (ih.mpr ⟨before, a', after, rfl, hbefore, ha'⟩))⟩

end

/-- Work that keeps a state and may fail goes on in the state that was left, or fails there. -/
theorem run_bind_run {ε σ α β : Type} (x : ExceptT ε (StateM σ) α) (f : α → ExceptT ε (StateM σ) β)
    (s : σ) :
    (ExceptT.run (x >>= f)).run s =
      match (ExceptT.run x).run s with
      | (.ok a, s₁) => (ExceptT.run (f a)).run s₁
      | (.error e, s₁) => (.error e, s₁) := by
  rw [ExceptT.run_bind, StateT.run_bind]
  cases (ExceptT.run x).run s with
  | mk result s₁ => cases result <;> rfl

namespace Loading

/-- The work comes to an outcome, whatever was told before it. -/
def Gives {α : Type} (work : Loading α) (outcome : Except Failure α) : Prop :=
  ∀ log, ((ExceptT.run work).run log).1 = outcome

section

variable {α β : Type}

theorem Gives.start {work : Loading α} {outcome : Except Failure α} (h : Gives work outcome) :
    work.start.1 = outcome := h []

theorem gives_pure (a : α) : Gives (pure a) (.ok a) := fun _ => rfl

theorem gives_ofExcept (outcome : Except Failure α) : Gives (ofExcept outcome) outcome := by
  intro log
  cases outcome <;> rfl

theorem gives_fail (f : Fault) : Gives (fail f : Loading α) (.error (.fault f)) := fun _ => rfl

theorem gives_bind {work : Loading α} {outcome : Except Failure α} {next : α → Loading β}
    {nextOutcome : α → Except Failure β} (h : Gives work outcome)
    (hnext : ∀ a, Gives (next a) (nextOutcome a)) :
    Gives (work >>= next) (outcome >>= nextOutcome) := by
  intro log
  rw [run_bind_run, ← h log]
  cases (ExceptT.run work).run log with
  | mk result told =>
    cases result with
    | error e => rfl
    | ok a => exact hnext a told

end

end Loading

open Loading

/-! ## Rules files -/

namespace RulesFile

/-- The rules of a document, or why there are none. -/
def parsed (source : String) (document : Except Xml.Failure Xml.Element) :
    Except Failure (List Rule) := do
  let root ← document.mapError (unread source)
  rulesOf source root

/-- The rules of a file, or why there are none. -/
def loaded (fs : Files) (reference : String) (isOptional : Bool) (base : Option String) :
    Except Failure (List Rule) := do
  let path ← (Reference.path reference base).mapError Failure.defect
  match fs.read path with
  | .ok octets => parsed reference (Xml.Document.ofOctets octets)
  | .error .notPath => .error (.defect .notPath)
  | .error (.unopenable _) => if isOptional then .ok [] else .error (.fault (.notFound reference))

theorem parse_gives (source : String) (document : Except Xml.Failure Xml.Element) :
    Gives (parse source document) (parsed source document) := by
  refine gives_bind (gives_ofExcept _) fun root log => ?_
  cases hrules : rulesOf source root <;> rfl

theorem load_gives (fs : Files) (reference : String) (isOptional : Bool) (base : Option String) :
    Gives (load fs reference isOptional base) (loaded fs reference isOptional base) := by
  refine gives_bind (gives_ofExcept _) fun path => ?_
  cases fs.read path with
  | ok octets => exact parse_gives _ _
  | error fault =>
    cases fault with
    | notPath => exact fun _ => rfl
    | unopenable why =>
      cases isOptional with
      | true => exact fun _ => rfl
      | false => exact gives_fail _

end RulesFile

/-! ## Configurations -/

/-- The rules of the file that is referred to, none where there is no reference. -/
def referred (fs : Files) (isOptional : Bool) (base : Option String) :
    Option String → Except Failure (List Rule)
  | some reference => RulesFile.loaded fs reference isOptional base
  | none => .ok []

section

variable {source key : String} {entries : List (Datum × Datum)}

theorem switch_eq_ok_iff {b : Bool} :
    switch source key entries = .ok b ↔
      Datum.field? key entries = none ∧ b = false ∨ Datum.field? key entries = some (.bool b) := by
  unfold switch
  split
  · rename_i h; cases b <;> simp [h]
  · rename_i b' h; simp [h]
  · rename_i v hne h
    rw [h]
    constructor
    · intro h; split at h <;> cases h
    · rintro (⟨h, -⟩ | h)
      · cases h
      · cases h; exact absurd rfl (hne b)

theorem fileReference_eq_some_iff {value : Datum} {reference : String} :
    fileReference source value = .ok (some reference) ↔
      value = .text reference ∧ reference ≠ "" := by
  unfold fileReference
  split
  · simp
  · simp [eq_comm]
  · rename_i s hne
    have hs : s ≠ "" := fun h => hne (by rw [h])
    constructor
    · intro h; cases h; exact ⟨rfl, hs⟩
    · rintro ⟨h, -⟩; cases h; rfl
  · rename_i h
    constructor
    · intro h; cases h
    · rintro ⟨rfl, -⟩; exact absurd rfl (h reference)

end

/-- The policy of entries, or why there is none. -/
def ofEntriesOutcome (fs : Files) (source : String) (base : Option String)
    (entries : List (Datum × Datum)) : Except Failure Policy := do
  checkKeys source entries
  let checkConstructors ← switch source "checkConstructors" entries
  let isOptional ← switch source "optional" entries
  let declared ← declaredRules source (Datum.field "rules" entries)
  let reference ← fileReference source (Datum.field "file" entries)
  let filed ← referred fs isOptional base reference
  return ⟨declared ++ filed, checkConstructors⟩

theorem ofEntries_gives (fs : Files) (source : String) (base : Option String)
    (entries : List (Datum × Datum)) :
    Gives (ofEntries fs source base entries) (ofEntriesOutcome fs source base entries) := by
  refine gives_bind (gives_ofExcept _) fun _ => gives_bind (gives_ofExcept _) fun _ =>
    gives_bind (gives_ofExcept _) fun isOptional => gives_bind (gives_ofExcept _) fun _ =>
    gives_bind (gives_ofExcept _) fun reference => ?_
  cases reference with
  | none => exact gives_bind (gives_pure _) fun _ _ => rfl
  | some reference => exact gives_bind (RulesFile.load_gives _ _ _ _) fun _ _ => rfl

/-- The policy of data, or why there is none. -/
def buildOutcome (fs : Files) (data : Datum) (source : String) (base : Option String) :
    Except Failure Policy :=
  match data with
  | .null => ofEntriesOutcome fs source base []
  | .mapping entries => ofEntriesOutcome fs source base entries
  | _ => .error (.fault (.notMapping source))

theorem build_gives (fs : Files) (data : Datum) (source : String) (base : Option String) :
    Gives (build fs data source base) (buildOutcome fs data source base) := by
  cases data with
  | null | mapping => exact ofEntries_gives _ _ _ _
  | _ => exact gives_fail _

/-- The policy of a configuration file, or why there is none. -/
def loadOutcome (fs : Files) (path : String) : Except Failure Policy := do
  let data ← readFile fs path
  buildOutcome fs data (Path.baseName path) (some (Path.directory (Path.absolute path)))

theorem load_gives (fs : Files) (path : String) : Gives (load fs path) (loadOutcome fs path) :=
  gives_bind (gives_ofExcept _) fun _ => build_gives _ _ _ _

/-! ## Command lines -/

/-- The policy of the configuration file, the empty one where none is given. -/
def configuredOutcome (fs : Files) : Option String → Except Failure Policy
  | some path => loadOutcome fs path
  | none => .ok {}

/-- The entries that stand for a further rules file. -/
def furtherEntries (path : String) (isOptional : Datum) : List (Datum × Datum) :=
  [(.text "file", .text path), (.text "optional", isOptional)]

/-- The policy of the further rules file, the empty one where none is given. -/
def furtherOutcome (fs : Files) (isOptional : Datum) : Option String → Except Failure Policy
  | some path => ofEntriesOutcome fs "command line" none (furtherEntries path isOptional)
  | none => .ok {}

/-- The policy of a command line, or why there is none. -/
def resolveOutcome (fs : Files) (r : Request) : Except Failure Policy := do
  let configured ← configuredOutcome fs (given? r.configPath)
  let further ← furtherOutcome fs r.isOptional (given? r.rulesFile)
  return ⟨configured.rules ++ further.rules, configured.checkConstructors || r.checkConstructors⟩

theorem resolve_gives (fs : Files) (r : Request) :
    Gives (resolve fs r) (resolveOutcome fs r) := by
  have hfurther (configured : Policy) :
      Gives (do
        let further : Policy ←
          match given? r.rulesFile with
          | some path => ofEntries fs "command line" none (furtherEntries path r.isOptional)
          | none => pure {}
        return Policy.mk (configured.rules ++ further.rules)
          (configured.checkConstructors || r.checkConstructors))
        (do
          let further ← furtherOutcome fs r.isOptional (given? r.rulesFile)
          return Policy.mk (configured.rules ++ further.rules)
            (configured.checkConstructors || r.checkConstructors)) := by
    cases given? r.rulesFile with
    | none => exact gives_bind (gives_pure _) fun _ _ => rfl
    | some path => exact gives_bind (ofEntries_gives _ _ _ _) fun _ _ => rfl
  rw [resolve, resolveOutcome]
  cases given? r.configPath with
  | none => exact gives_bind (gives_pure _) hfurther
  | some path => exact gives_bind (load_gives _ _) hfurther

/-- A configuration file alone, without anything that a command line adds. -/
theorem resolve_alone (fs : Files) (path : Option String) :
    (resolve fs { configPath := path }).start.1 = configuredOutcome fs (given? path) := by
  rw [(resolve_gives fs _).start, resolveOutcome]
  cases configuredOutcome fs (given? path) with
  | error e => rfl
  | ok p =>
    have hsame : (⟨p.rules ++ [], p.checkConstructors || false⟩ : Policy) = p := by simp
    exact congrArg Except.ok hsame

end Config
end CallPolicy

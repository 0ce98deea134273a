import CallPolicy.Proofs.Acceptance
import CallPolicy.Proofs.Extending

/-!
# CallPolicy.Proofs.LiteralRules

Rules that spell one call: a block whose method name is a word, and whose number of arguments is a
whole number or is left open.

* `allows_iff_accepted`: a number of arguments is accepted exactly if it is the one written, or if
  none is written.
* `declared_forbids_exactly_iff`: the block gives the rule that forbids the calls it spells and no
  others, as long as its number can be written out.
-/

namespace CallPolicy

open Config

namespace Rule

/-- Letters, digits and underscores of ASCII, at least one. -/
structure IsWord (s : String) : Prop where
  ne_empty : s ≠ ""
  all : ∀ c ∈ s.toList, c.isAlphanum = true ∨ c = '_'

/-- A number of arguments is left open, or it is a whole number. -/
def IsLiteralCount (value : Datum) : Prop :=
  value = .null ∨ value = .text "" ∨ ∃ n, value = .int n

/-- The numbers of arguments that such a value stands for: all, or the one it is. -/
inductive Allows : Datum → Nat → Prop
  | null (k : Nat) : Allows .null k
  | empty (k : Nat) : Allows (.text "") k
  | number (k : Nat) : Allows (.int k) k

/-- The attributes of a block that spells calls of `word`, with `count` for the number of their
arguments. They may stand in any order, and one that is not there is null. -/
structure SpellsCall (attributes : List (Datum × Datum)) (word : String) (count : Datum) :
    Prop where
  known : unknownAttributes attributes = []
  methodName : Datum.field "methodName" attributes = .text word
  argumentCount : Datum.field "argumentCount" attributes = count
  reason : ∃ t, Datum.field "reason" attributes = .text t ∧ t ≠ ""
  word : IsWord word
  count : IsLiteralCount count

/-- Among other rules, none of them broken before it, the rule is the one that a call breaks exactly
if the call is one of `word` with a number of arguments that `count` allows. -/
def ForbidsExactly (r : Rule) (word : String) (count : Datum) : Prop :=
  ∀ (before after : List Rule) (name : String) (k : Nat),
    (∀ e ∈ before, e.forbids name (toString k) = false) →
      (findViolation (before ++ r :: after) name (toString k) = some r ↔
        name = word ∧ Allows count k)

theorem IsWord.isPlain {s : String} (h : IsWord s) : Pattern.IsPlain s.toList := by
  intro c hc hspecial
  have hnone : Pattern.special.all (fun c => !c.isAlphanum && c != '_') = true := by decide
  have hother := List.all_eq_true.mp hnone c hspecial
  rcases h.all c hc with hc | hc <;> simp [hc] at hother

/-- Decimal texts are equal only if the numbers are. -/
theorem decimal_eq_iff {k : Nat} {n : Int} : toString k = toString n ↔ n = k := by
  have hcast : toString k = Int.repr k := rfl
  have hrepr : toString n = n.repr := rfl
  rw [hcast, hrepr]
  exact ⟨fun h => (Int.repr_injective h).symm, fun h => by rw [h]⟩

/-- The pattern that a literal number of arguments stands for accepts the texts of the numbers that
it allows. -/
theorem allows_iff_accepted {count : Datum} {p : Option Pattern} (hcount : IsLiteralCount count)
    (hp : CountGives count p) (k : Nat) :
    p.all (·.accepts (toString k)) = true ↔ Allows count k := by
  rcases hcount with rfl | rfl | ⟨n, rfl⟩
  · cases hp
    exact ⟨fun _ => .null k, fun _ => rfl⟩
  · cases hp with
    | empty => exact ⟨fun _ => .empty k, fun _ => rfl⟩
    | pattern hne _ => exact absurd rfl hne
  · cases hp
    rw [Option.all_some, Pattern.accepts_plain_iff, decimal_eq_iff]
    constructor
    · rintro rfl; exact .number k
    · intro h; cases h; rfl

/-- A rule behind rules that are not broken is found if it is broken itself. -/
theorem findViolation_behind {before after : List Rule} {r : Rule} {name count : String}
    (hbefore : ∀ e ∈ before, e.forbids name count = false) :
    findViolation (before ++ r :: after) name count = some r ↔ r.forbids name count = true := by
  rw [findViolation_append, findViolation_eq_none_iff.mpr hbefore, Option.none_or]
  constructor
  · intro h
    exact List.find?_some (p := fun e : Rule => e.forbids name count) h
  · intro h
    exact List.find?_cons_of_pos h

theorem forbidsExactly_of_plain {r : Rule} {word : String} {count : Datum}
    (hcount : IsLiteralCount count) (hname : r.namePattern = Pattern.plain word)
    (hp : CountGives count r.countPattern) : r.ForbidsExactly word count := by
  intro before after name k hbefore
  rw [findViolation_behind hbefore, forbids, Bool.and_eq_true, hname, Pattern.accepts_plain_iff,
    allows_iff_accepted hcount hp]

/-- Every literal number of arguments stands for a pattern. -/
theorem exists_countGives {count : Datum} (h : IsLiteralCount count) : ∃ p, CountGives count p := by
  rcases h with rfl | rfl | ⟨n, rfl⟩
  · exact ⟨none, .null⟩
  · exact ⟨none, .empty⟩
  · exact ⟨_, .number n⟩

/-- **A block forbids what it spells.** The block of a named rule whose method name is a word gives
a rule that forbids exactly the calls of this word with the number of arguments that is written, or
with any number where none is written, if and only if the number can be written out. -/
theorem declared_forbids_exactly_iff {name word : String} {attributes : List (Datum × Datum)}
    {count : Datum} (hname : name ≠ "") (h : SpellsCall attributes word count) :
    (∃ r, declared (.text name) (.mapping attributes) = .ok r ∧ r.ForbidsExactly word count) ↔
      ∀ n, count = .int n → n.natAbs < 10 ^ Datum.digitLimit := by
  constructor
  · rintro ⟨r, hr, -⟩
    obtain ⟨-, -, hcount, -⟩ := (declared_eq_ok_iff hname).mp hr
    rw [h.argumentCount] at hcount
    exact (countGives_iff.mp hcount).2
  · intro hshort
    obtain ⟨p, hp⟩ := exists_countGives h.count
    obtain ⟨t, hreason, ht⟩ := h.reason
    have hmethod : GivesName (some word) (Pattern.plain word) :=
      ⟨word, rfl, h.word.ne_empty, Pattern.compile_plain h.word.isPlain⟩
    refine ⟨⟨name, .plain word, p, some t⟩, (declared_eq_ok_iff hname).mpr ?_,
      forbidsExactly_of_plain h.count rfl hp⟩
    refine ⟨h.known, ⟨some word, h.methodName, hmethod⟩, ?_, ⟨t, hreason, ht, rfl⟩, rfl⟩
    rw [h.argumentCount]
    exact countGives_iff.mpr ⟨hp, hshort⟩

/-- A block for calls of `stop_2` with a number of arguments. -/
def stopBlock (count : Datum) : List (Datum × Datum) :=
  [(.text "reason", .text "ends the run"), (.text "argumentCount", count),
    (.text "methodName", .text "stop_2")]

theorem stopBlock_spells {count : Datum} (h : IsLiteralCount count) :
    SpellsCall (stopBlock count) "stop_2" count where
  known := rfl
  methodName := rfl
  argumentCount := rfl
  reason := ⟨"ends the run", rfl, by decide⟩
  word := ⟨by decide, by simp⟩
  count := h

/-- No arguments is a number of arguments like any other. -/
theorem declared_forbids_exactly_no_arguments :
    "no stop" ≠ "" ∧ SpellsCall (stopBlock (.int 0)) "stop_2" (.int 0) ∧
      ∃ r, declared (.text "no stop") (.mapping (stopBlock (.int 0))) = .ok r ∧
        r.ForbidsExactly "stop_2" (.int 0) := by
  have hname : "no stop" ≠ "" := by decide
  have hspells : SpellsCall (stopBlock (.int 0)) "stop_2" (.int 0) :=
    stopBlock_spells (Or.inr (Or.inr ⟨0, rfl⟩))
  refine ⟨hname, hspells, (declared_forbids_exactly_iff hname hspells).mpr ?_⟩
  rintro n hn
  cases hn
  decide +kernel

/-- A block that gives no rule at all. -/
theorem declared_long_number_lost :
    SpellsCall (stopBlock (.int longNumber)) "stop_2" (.int longNumber) ∧
      declared (.text "no stop") (.mapping (stopBlock (.int longNumber))) =
        .error (.defect .numberTooLong) := by
  have hspells : SpellsCall (stopBlock (.int longNumber)) "stop_2" (.int longNumber) :=
    stopBlock_spells (Or.inr (Or.inr ⟨longNumber, rfl⟩))
  have hlong : 10 ^ Datum.digitLimit ≤ longNumber.natAbs := by
    rw [longNumber, Int.natAbs_natCast]
    decide +kernel
  refine ⟨hspells, (declared_eq_defect_iff (by decide)).mpr ?_⟩
  exact .longCount (m := some "stop_2") hspells.known hspells.methodName hspells.argumentCount hlong

end Rule
end CallPolicy

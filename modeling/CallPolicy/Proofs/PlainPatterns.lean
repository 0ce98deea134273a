import CallPolicy.Pattern
import Mathlib

/-!
# CallPolicy.Proofs.PlainPatterns

Patterns in which every character stands for itself. They are always read, whatever their length,
and what is read is their characters one by one.

* `readSequence_plain`: a run of plain characters is read as it stands.
* `compile_plain`: so is a whole pattern of them.
* `accepts_plain_iff`: such a pattern accepts its own text and no other.
* `compile_decimal`: whole numbers in decimal are such patterns.
-/

namespace CallPolicy
namespace Pattern

/-- Characters that mean more than themselves in a sequence. -/
def special : List Char := ['\\', '[', '*', '+', '?', '\x7b', '.', '^', '$', '(', ')', '|']

/-- All characters stand for themselves. -/
def IsPlain (cs : List Char) : Prop := ∀ c ∈ cs, c ∉ special

def literals (cs : List Char) : List Node := cs.map fun c => .literal c.toNat

/-- The pattern of a text that is taken as it stands. -/
def plain (text : String) : Pattern := ⟨text, ⟨{}, [none], literals text.toList⟩⟩

section

variable {c : Char} {cs : List Char}

theorem tokenize_plain (h : IsPlain (c :: cs)) (position : Nat) :
    tokenize position (c :: cs) = ⟨.char c, position⟩ :: tokenize (position + 1) cs := by
  have hc : c ≠ '\\' := fun heq => h c List.mem_cons_self (by rw [heq]; decide)
  rw [tokenize]
  · intro heq; exact absurd heq hc
  · intro d ds heq; exact absurd heq hc

theorem IsPlain.tail (h : IsPlain (c :: cs)) : IsPlain cs :=
  fun d hd => h d (List.mem_cons_of_mem _ hd)

/-- A reader that succeeds hands its value and state on. -/
theorem run_bind_of_ok {α β : Type} {x : Reader α} {f : α → Reader β} {s s' : ReadState} {a : α}
    (h : x.run s = .ok (a, s')) : (x >>= f).run s = (f a).run s' := by
  rw [StateT.run_bind, h]
  rfl

/-- The state before a run of characters. -/
def ReadState.before (s : ReadState) (position : Nat) (cs : List Char) : ReadState :=
  { s with tokens := tokenize position cs }

/-- No backslash stands alone before a plain run. -/
theorem checkNext_plain (h : IsPlain cs) (position : Nat) (s : ReadState) :
    Reader.checkNext.run (s.before position cs) = .ok ((), s.before position cs) := by
  cases cs with
  | nil => rfl
  | cons c cs => rw [ReadState.before, tokenize_plain h]; rfl

theorem peek_plain (h : IsPlain (c :: cs)) (position : Nat) (s : ReadState) :
    Reader.peek.run (s.before position (c :: cs)) =
      .ok (some (.char c), s.before position (c :: cs)) := by
  rw [ReadState.before, tokenize_plain h]
  rfl

theorem take_plain (h : IsPlain (c :: cs)) (position : Nat) (s : ReadState) :
    Reader.take.run (s.before position (c :: cs)) =
      .ok (some (.char c), s.before (position + 1) cs) := by
  have hnext := checkNext_plain h.tail (position + 1) s
  have htokens : s.before position (c :: cs) =
      { s with tokens := ⟨.char c, position⟩ :: tokenize (position + 1) cs } := by
    rw [ReadState.before, tokenize_plain h]
  rw [htokens, Reader.take, run_bind_of_ok rfl]
  exact (run_bind_of_ok rfl).trans (run_bind_of_ok hnext)

theorem readSequence_plain (h : IsPlain cs) (first : Bool) {fuel : Nat} (hfuel : cs.length < fuel)
    (position : Nat) (before : List Node) (s : ReadState) :
    (readSequence false first fuel before).run (s.before position cs) =
      .ok (before.reverse ++ literals cs, s.before 0 []) := by
  induction cs generalizing fuel position before with
  | nil =>
    obtain ⟨n, rfl⟩ := Nat.exists_eq_add_one_of_ne_zero (Nat.ne_of_gt hfuel)
    rw [readSequence, literals, List.map_nil, List.append_nil]
    rfl
  | cons c cs ih =>
    obtain ⟨n, rfl⟩ := Nat.exists_eq_add_one_of_ne_zero (Nat.ne_of_gt (Nat.zero_lt_of_lt hfuel))
    have hc := h c List.mem_cons_self
    simp only [special, List.mem_cons, not_or] at hc
    have hrest := ih h.tail (Nat.lt_of_succ_lt_succ hfuel) (position + 1)
      (.literal c.toNat :: before)
    rw [readSequence, run_bind_of_ok rfl, run_bind_of_ok (peek_plain h position s)]
    split
    next heq => cases heq
    next heq => cases heq; simp at hc
    next heq => cases heq; simp at hc
    next heq => cases heq
    next heq => cases heq
    next d _ _ heq =>
      cases heq
      rw [run_bind_of_ok (take_plain h position s)]
      simp [hc, hrest, literals]

/-- A plain run to the end is the only alternative. -/
theorem readBody_plain (h : IsPlain cs) (top : Bool) {fuel : Nat} (hfuel : cs.length + 2 < fuel)
    (position : Nat) (s : ReadState) :
    (readBody false top fuel).run (s.before position cs) = .ok (literals cs, s.before 0 []) := by
  obtain ⟨n, rfl⟩ : ∃ n, fuel = n + 2 := ⟨fuel - 2, by omega⟩
  have hfuel' : cs.length < n := by omega
  have hsequence := readSequence_plain h (top && true) hfuel' position [] s
  rw [List.reverse_nil, List.nil_append] at hsequence
  have halternatives : (readAlternatives false top true (n + 1)).run (s.before position cs) =
      .ok ([literals cs], s.before 0 []) := by
    rw [readAlternatives, run_bind_of_ok hsequence]
    rfl
  rw [readBody, run_bind_of_ok halternatives]
  rfl

theorem checkShapes_literals (template : Bool) (widths : List (Option Width)) (cs : List Char) :
    checkShapes template widths (literals cs) = .ok () := by
  induction cs with
  | nil => rfl
  | cons c cs ih =>
    rw [literals, List.map_cons, checkShapes, Node.checkShape, ← literals, ih]
    rfl

theorem length_tokenize_plain (h : IsPlain cs) (position : Nat) :
    (tokenize position cs).length = cs.length := by
  induction cs generalizing position with
  | nil => rfl
  | cons c cs ih => rw [tokenize_plain h, List.length_cons, List.length_cons, ih h.tail]

theorem readPattern_plain (h : IsPlain cs) :
    readPattern cs = .ok ⟨{}, [none], literals cs⟩ := by
  let start : ReadState := { tokens := [], length := cs.length }
  have hbody : (readBody false true (4 * (start.before 0 cs).tokens.length + 8)).run
      (start.before 0 cs) = .ok (literals cs, start.before 0 []) := by
    refine readBody_plain h true ?_ 0 start
    have hlength : (start.before 0 cs).tokens.length = cs.length := length_tokenize_plain h 0
    omega
  have hall : readAll.run (start.before 0 cs) =
      .ok (⟨{}, [none], literals cs⟩, start.before 0 []) := by
    rw [readAll, run_bind_of_ok (checkNext_plain h 0 start), run_bind_of_ok rfl,
      run_bind_of_ok hbody, run_bind_of_ok rfl]
    simp only [checkShapes_literals]
    rfl
  have hstart : start.before 0 cs = { tokens := tokenize 0 cs, length := cs.length } := rfl
  rw [readPattern, ← hstart, hall]
  rfl

/-- A pattern of plain characters is read as it stands. -/
theorem compile_plain {text : String} (h : IsPlain text.toList) :
    compile text = .ok (plain text) := by
  rw [compile, readPattern_plain h]
  rfl

end

/-! ## What they match -/

/-- Without options a literal takes its own character alone. -/
theorem matchesCode_default_iff {c d : Char} : matchesCode {} c.toNat d = true ↔ d = c := by
  have hcode : matchesCode {} c.toNat d = (c.toNat == d.toNat) := rfl
  rw [hcode, beq_iff_eq, Char.toNat_inj, eq_comm]

/-- Literals take their characters one after another, and nothing else. -/
theorem matchSequence_literals_eq_some_iff {widths : List (Option Width)} {cs : List Char}
    {s : Spot} {caps : Captures} {k : Continuation} {r : Spot × Captures} :
    matchSequence widths {} (literals cs) s caps k = some r ↔
      ∃ rest, s.rest = cs ++ rest ∧ k ⟨cs.reverse ++ s.before, rest⟩ caps = some r := by
  induction cs generalizing s with
  | nil => simp [literals, matchSequence]
  | cons c cs ih =>
    obtain ⟨before, text⟩ := s
    rw [literals, List.map_cons, ← literals, matchSequence, matchNode]
    cases text with
    | nil => simp [takeChar]
    | cons d text =>
      by_cases hd : d = c
      · simp only [takeChar, if_pos (matchesCode_default_iff.mpr hd), ih]
        simp [hd]
      · simp only [takeChar, if_neg (mt matchesCode_default_iff.mp hd)]
        simp [hd]

/-- A plain pattern accepts its own text and no other. -/
theorem accepts_plain_iff {text s : String} : (plain text).accepts s = true ↔ s = text := by
  rw [accepts, fullMatch, Option.isSome_iff_exists]
  simp only [plain, matchSequence_literals_eq_some_iff, atEnd]
  constructor
  · rintro ⟨r, rest, hrest, h⟩
    cases rest with
    | nil => exact String.toList_inj.mp (hrest.trans (List.append_nil _))
    | cons _ _ => cases h
  · rintro rfl
    exact ⟨_, [], (List.append_nil _).symm, rfl⟩

theorem isPlain_of_isDigit {cs : List Char} (h : ∀ c ∈ cs, c.isDigit = true) : IsPlain cs := by
  intro c hc hspecial
  have hdigit := h c hc
  have hnone : special.all (fun c => !c.isDigit) = true := by decide
  rw [List.all_eq_true] at hnone
  have hother := hnone c hspecial
  rw [hdigit] at hother
  cases hother

theorem isPlain_repr (n : Nat) : IsPlain n.repr.toList := by
  refine isPlain_of_isDigit ?_
  rw [Nat.repr_eq_ofList_toDigits, String.toList_ofList]
  intro c hc
  exact Nat.isDigit_of_mem_toDigits (by decide) (by decide) hc

theorem isPlain_decimal (n : Int) : IsPlain (toString n).toList := by
  have hrepr : toString n = n.repr := rfl
  rw [hrepr, Int.repr_eq_if]
  split
  · exact isPlain_repr _
  · rw [String.toList_append]
    intro c hc
    rcases List.mem_append.mp hc with hc | hc
    · rw [List.mem_singleton.mp hc]
      decide
    · exact isPlain_repr _ c hc

theorem decimal_ne_empty (n : Int) : toString n ≠ "" := by
  have hrepr : toString n = n.repr := rfl
  rw [hrepr, Int.repr_eq_if]
  split
  · exact Nat.repr_ne_empty
  · intro h
    have hlist := congrArg String.toList h
    rw [String.toList_append] at hlist
    cases hlist

/-- Decimal numbers are read as they stand. -/
theorem compile_decimal (n : Int) : compile (toString n) = .ok (plain (toString n)) :=
  compile_plain (isPlain_decimal n)

end Pattern
end CallPolicy

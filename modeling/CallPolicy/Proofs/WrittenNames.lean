import CallPolicy.Call.Callee
import CallPolicy.Proofs.Creations

/-!
# CallPolicy.Proofs.WrittenNames

Names as they are written in a source: segments, each with its template arguments, and qualifiers
between them.

* `mem_outsideAngles_iff`: what stands outside template arguments, told by what stands in front.
* `outsideAngles_tokens`: outside the template arguments of a written name stand its words alone.
* `isLastWord_tokens`: the last of them is the identifier of the last segment.
-/

namespace CallPolicy
namespace Call

/-! ## Outside template arguments -/

section

variable {depth : Int} {u v w : List String} {t : String}

theorem isAngle_eq_false_iff : isAngle t = false ↔ angleStep t = 0 := by
  simp [isAngle]

theorem isAngle_eq_true_iff : isAngle t = true ↔ t = "<" ∨ t = ">" ∨ t = ">>" := by
  unfold isAngle angleStep
  split <;> simp_all

theorem outsideAngles_append :
    outsideAngles depth (u ++ v) =
      outsideAngles depth u ++ outsideAngles (depth + angleDepth u) v := by
  induction u generalizing depth with
  | nil => simp [outsideAngles, angleDepth]
  | cons t u ih =>
    rw [List.cons_append, outsideAngles, outsideAngles, angleDepth_cons]
    split
    · rw [ih, Int.add_assoc]
    · rename_i hangle
      rw [isAngle_eq_false_iff.mp (by simpa using hangle), Int.zero_add]
      split <;> rw [ih]
      rfl

theorem outsideAngles_cons_inside (h : isAngle t = true ∨ 0 < depth) :
    outsideAngles depth (t :: w) = outsideAngles (depth + angleStep t) w := by
  rw [outsideAngles]
  split
  · rfl
  · rename_i hangle
    have hopen := h.resolve_left hangle
    rw [if_neg (by omega), isAngle_eq_false_iff.mp (by simpa using hangle), Int.add_zero]

theorem outsideAngles_cons_congr
    (h : outsideAngles (depth + angleStep t) u = outsideAngles (depth + angleStep t) v) :
    outsideAngles depth (t :: u) = outsideAngles depth (t :: v) := by
  rw [outsideAngles, outsideAngles]
  split
  · exact h
  · rename_i hangle
    rw [isAngle_eq_false_iff.mp (by simpa using hangle), Int.add_zero] at h
    rw [h]

theorem mem_outsideAngles_cons {x : String} (h : x ∈ outsideAngles (depth + angleStep t) w) :
    x ∈ outsideAngles depth (t :: w) := by
  rw [outsideAngles]
  split
  · exact h
  · rename_i hangle
    rw [isAngle_eq_false_iff.mp (by simpa using hangle), Int.add_zero] at h
    split
    · exact List.mem_cons_of_mem _ h
    · exact h

/-- The token stands somewhere in the word where no more template argument lists have been opened
than closed, `depth` of which are open in front. -/
def IsOutsideAngles (depth : Int) (w : List String) (t : String) : Prop :=
  isAngle t = false ∧ ∃ before after, w = before ++ t :: after ∧ depth + angleDepth before ≤ 0

theorem isOutsideAngles_cons_iff {x : String} :
    IsOutsideAngles depth (x :: w) t ↔
      (x = t ∧ isAngle t = false ∧ depth ≤ 0) ∨ IsOutsideAngles (depth + angleStep x) w t := by
  constructor
  · rintro ⟨ht, before, after, hw, hdepth⟩
    cases before with
    | nil => exact Or.inl ⟨(List.cons.inj hw).1, ht, by simpa [angleDepth] using hdepth⟩
    | cons y before =>
      obtain ⟨rfl, hrest⟩ := List.cons.inj hw
      rw [angleDepth_cons, ← Int.add_assoc] at hdepth
      exact Or.inr ⟨ht, before, after, hrest, hdepth⟩
  · rintro (⟨rfl, ht, hdepth⟩ | ⟨ht, before, after, rfl, hdepth⟩)
    · exact ⟨ht, [], w, rfl, by simpa [angleDepth] using hdepth⟩
    · exact ⟨ht, x :: before, after, rfl, by rwa [angleDepth_cons, ← Int.add_assoc]⟩

theorem mem_outsideAngles_iff : t ∈ outsideAngles depth w ↔ IsOutsideAngles depth w t := by
  induction w generalizing depth with
  | nil => simp [outsideAngles, IsOutsideAngles]
  | cons x w ih =>
    rw [isOutsideAngles_cons_iff, outsideAngles]
    cases hangle : isAngle x with
    | true =>
      rw [if_pos rfl, ih]
      constructor
      · exact Or.inr
      · rintro (⟨rfl, ht, -⟩ | h)
        · exact absurd hangle (by simp [ht])
        · exact h
    | false =>
      rw [if_neg Bool.false_ne_true, isAngle_eq_false_iff.mp hangle, Int.add_zero]
      split
      · rename_i hdepth
        rw [List.mem_cons, ih]
        refine or_congr_left ?_
        constructor
        · rintro rfl
          exact ⟨rfl, hangle, hdepth⟩
        · rintro ⟨rfl, -⟩
          rfl
      · rename_i hdepth
        rw [ih]
        constructor
        · exact Or.inr
        · rintro (⟨-, -, h⟩ | h)
          · exact absurd h hdepth
          · exact h

/-- Tokens that are no angle brackets all stand outside. -/
theorem outsideAngles_of_no_angle (h : ∀ t ∈ w, isAngle t = false) : outsideAngles 0 w = w := by
  induction w with
  | nil => rfl
  | cons t w ih =>
    rw [outsideAngles, h t List.mem_cons_self, if_neg Bool.false_ne_true, if_pos (Int.le_refl 0),
      ih fun x hx => h x (List.mem_cons_of_mem _ hx)]

theorem angleDepth_of_no_angle (h : ∀ t ∈ w, isAngle t = false) : angleDepth w = 0 := by
  induction w with
  | nil => rfl
  | cons t w ih =>
    rw [angleDepth_cons, isAngle_eq_false_iff.mp (h t List.mem_cons_self),
      ih fun x hx => h x (List.mem_cons_of_mem _ hx)]
    rfl

theorem anglesBalance_iff : anglesBalance w = true ↔ angleDepth w = 0 := by
  have hcount : angleDepth w = w.count "<" - w.count ">" - 2 * w.count ">>" := by
    induction w with
    | nil => rfl
    | cons t w ih =>
      rw [angleDepth_cons, ih, List.count_cons, List.count_cons, List.count_cons]
      unfold angleStep
      split <;> simp_all <;> omega
  rw [hcount, anglesBalance, beq_iff_eq]
  omega

end

/-! ## Template arguments and words -/

/-- A template argument list: it is open up to its last token. -/
structure IsTemplateArguments (w : List String) : Prop where
  opens : ∃ rest, w = "<" :: rest
  inner : ∀ before t after, w = before ++ t :: after → before ≠ [] → 0 < angleDepth before
  closed : angleDepth w = 0

section

variable {w : List String} {t : String}

/-- A template argument list by the depths in it. -/
theorem IsTemplateArguments.of_take (hopens : ∃ rest, w = "<" :: rest)
    (hinner : ∀ i < w.length, i = 0 ∨ 0 < angleDepth (w.take i)) (hclosed : angleDepth w = 0) :
    IsTemplateArguments w := by
  refine ⟨hopens, ?_, hclosed⟩
  rintro before t after rfl hne
  have hbefore := hinner before.length (by simp)
  rw [List.take_left' rfl] at hbefore
  exact hbefore.resolve_left (by simpa using hne)

theorem IsTemplateArguments.outsideAngles_eq (h : IsTemplateArguments w) :
    outsideAngles 0 w = [] := by
  rw [List.eq_nil_iff_forall_not_mem]
  intro t ht
  obtain ⟨hangle, before, after, hw, hdepth⟩ := mem_outsideAngles_iff.mp ht
  obtain ⟨rest, hopen⟩ := h.opens
  cases before with
  | nil =>
    obtain ⟨rfl, -⟩ := List.cons.inj (hw.symm.trans hopen)
    cases hangle
  | cons x before =>
    have hpos := h.inner _ _ _ hw (List.cons_ne_nil _ _)
    omega

theorem isWordLike_of_isIdentifier (h : isIdentifier t = true) : isWordLike t = true := by
  rw [isIdentifier, Bool.and_eq_true] at h
  exact h.1

theorem isAngle_of_isWordLike (h : isWordLike t = true) : isAngle t = false :=
  isAngle_eq_false_iff.mpr (angleStep_of_isWordLike h)

theorem isOpener_of_isWordLike (h : isWordLike t = true) : isOpener t = false := by
  rw [isOpener_eq_false_iff]
  unfold closerOf
  split
  · exact absurd h (by decide)
  · exact absurd h (by decide)
  · exact absurd h (by decide)
  · rfl

theorem isOpener_of_isAngle (h : isAngle t = true) : isOpener t = false := by
  rcases isAngle_eq_true_iff.mp h with rfl | rfl | rfl <;> decide

/-- A type by what stands outside its template arguments. -/
theorem IsType.of_outsideAngles (hclosed : angleDepth w = 0)
    (hplain : ∀ t ∈ outsideAngles 0 w, isOpener t = false)
    (hnamed : ∃ before t after, StandsOutside 0 w before t after) : IsType w := by
  refine ⟨hclosed, ?_, hnamed⟩
  intro before t after hsplit hdepth
  cases hangle : isAngle t with
  | true => exact isOpener_of_isAngle hangle
  | false =>
    refine hplain t (mem_outsideAngles_iff.mpr ?_)
    exact ⟨hangle, before, after, hsplit, by omega⟩

end

/-! ## Written names -/

/-- An identifier, with the keyword that may stand in front and the template arguments that may
follow it. -/
structure Segment where
  templated : Bool
  name : String
  arguments : List String
  identifier : isIdentifier name = true
  closed : arguments = [] ∨ IsTemplateArguments arguments

inductive Qualifier where
  | dot
  | arrow
  | scope

/-- What a name may start with: nothing, the global scope, or the object itself. -/
inductive Lead where
  | nothing
  | global
  | this

/-- A possibly qualified name: segments followed by qualifiers, and a last segment. -/
structure WrittenName where
  lead : Lead
  path : List (Segment × Qualifier)
  last : Segment

/-- The token may stand in a written callee outside template arguments. -/
def IsCalleeWord (t : String) : Prop :=
  isQualifier t = true ∨ isCalleeKeyword t = true ∨ isIdentifier t = true

theorem IsCalleeWord.plain {t : String} (h : IsCalleeWord t) :
    isAngle t = false ∧ isOpener t = false ∧ isCloser t = false := by
  rcases h with h | h | h
  · simp only [isQualifier, Bool.or_eq_true, beq_iff_eq] at h
    rcases h with (rfl | rfl) | rfl <;> decide
  · simp only [isCalleeKeyword, Bool.or_eq_true, beq_iff_eq] at h
    rcases h with rfl | rfl <;> decide
  · have hword := isWordLike_of_isIdentifier h
    refine ⟨isAngle_of_isWordLike hword, isOpener_of_isWordLike hword, ?_⟩
    rw [Bool.eq_false_iff]
    intro hcloser
    simp only [isCloser, Bool.or_eq_true, beq_iff_eq] at hcloser
    rcases hcloser with (rfl | rfl) | rfl <;> exact absurd hword (by decide)

namespace Segment

def keyword (s : Segment) : List String := if s.templated then ["template"] else []

/-- The tokens in front of the template arguments. -/
def words (s : Segment) : List String := s.keyword ++ [s.name]

def tokens (s : Segment) : List String := s.words ++ s.arguments

variable (s : Segment)

theorem isCalleeWord_words : ∀ t ∈ s.words, IsCalleeWord t := by
  intro t ht
  rw [words, List.mem_append, List.mem_singleton] at ht
  rcases ht with ht | rfl
  · unfold keyword at ht
    split at ht
    · rw [List.mem_singleton.mp ht]
      exact Or.inr (Or.inl rfl)
    · cases ht
  · exact Or.inr (Or.inr s.identifier)

theorem angleDepth_words : angleDepth s.words = 0 :=
  angleDepth_of_no_angle fun t ht => (s.isCalleeWord_words t ht).plain.1

theorem angleDepth_arguments : angleDepth s.arguments = 0 := by
  rcases s.closed with h | h
  · rw [h]; rfl
  · exact h.closed

theorem angleDepth_tokens : angleDepth s.tokens = 0 := by
  rw [tokens, angleDepth_append, s.angleDepth_words, s.angleDepth_arguments]
  rfl

theorem outsideAngles_tokens : outsideAngles 0 s.tokens = s.words := by
  have hwords : outsideAngles 0 s.words = s.words :=
    outsideAngles_of_no_angle fun t ht => (s.isCalleeWord_words t ht).plain.1
  have harguments : outsideAngles 0 s.arguments = [] := by
    rcases s.closed with h | h
    · rw [h]; rfl
    · exact h.outsideAngles_eq
  rw [tokens, outsideAngles_append, s.angleDepth_words, Int.add_zero, hwords, harguments,
    List.append_nil]

theorem filter_isIdentifier_words : s.words.filter isIdentifier = [s.name] := by
  rw [words, List.filter_append, List.filter_cons_of_pos s.identifier]
  unfold keyword
  split <;> rfl

theorem any_isQualifier_words : s.words.any isQualifier = false := by
  have hname : isQualifier s.name = false := by
    rw [Bool.eq_false_iff]
    intro hqualifier
    simp only [isQualifier, Bool.or_eq_true, beq_iff_eq] at hqualifier
    rcases hqualifier with (h | h) | h <;> exact absurd s.identifier (by rw [h]; decide)
  rw [words, List.any_append, List.any_cons, hname]
  unfold keyword
  split <;> rfl

end Segment

namespace Qualifier

def text : Qualifier → String
  | dot => "."
  | arrow => "->"
  | scope => "::"

variable (q : Qualifier)

theorem isQualifier_text : isQualifier q.text = true := by
  cases q <;> rfl

theorem angleDepth_text : angleDepth [q.text] = 0 := by
  cases q <;> rfl

end Qualifier

namespace Lead

def tokens : Lead → List String
  | nothing => []
  | global => ["::"]
  | this => ["this", "->"]

variable (l : Lead)

theorem isCalleeWord_tokens : ∀ t ∈ l.tokens, IsCalleeWord t := by
  intro t ht
  cases l with
  | nothing => cases ht
  | global =>
    rw [List.mem_singleton.mp ht]
    exact Or.inl rfl
  | this =>
    simp only [tokens, List.mem_cons, List.not_mem_nil, or_false] at ht
    rcases ht with rfl | rfl
    · exact Or.inr (Or.inl rfl)
    · exact Or.inl rfl

theorem angleDepth_tokens : angleDepth l.tokens = 0 :=
  angleDepth_of_no_angle fun t ht => (l.isCalleeWord_tokens t ht).plain.1

theorem outsideAngles_tokens : outsideAngles 0 l.tokens = l.tokens :=
  outsideAngles_of_no_angle fun t ht => (l.isCalleeWord_tokens t ht).plain.1

end Lead

namespace WrittenName

/-- The segments and qualifiers before the last segment. -/
def pathTokens (path : List (Segment × Qualifier)) : List String :=
  path.flatMap fun (s, q) => s.tokens ++ [q.text]

def tokens (name : WrittenName) : List String :=
  name.lead.tokens ++ pathTokens name.path ++ name.last.tokens

/-- What stands outside template arguments on the way to the last segment. -/
def pathWords (path : List (Segment × Qualifier)) : List String :=
  path.flatMap fun (s, q) => s.words ++ [q.text]

def words (name : WrittenName) : List String :=
  name.lead.tokens ++ pathWords name.path ++ name.last.words

/-- There is a qualifier in the name. -/
def isQualified (name : WrittenName) : Bool :=
  match name.lead, name.path with
  | .nothing, [] => false
  | _, _ => true

variable (name : WrittenName) (path : List (Segment × Qualifier))

theorem angleDepth_pathTokens : angleDepth (pathTokens path) = 0 := by
  induction path with
  | nil => rfl
  | cons step path ih =>
    obtain ⟨s, q⟩ := step
    rw [pathTokens, List.flatMap_cons, angleDepth_append, angleDepth_append, s.angleDepth_tokens,
      q.angleDepth_text, Int.zero_add, Int.zero_add]
    exact ih

theorem outsideAngles_pathTokens : outsideAngles 0 (pathTokens path) = pathWords path := by
  induction path with
  | nil => rfl
  | cons step path ih =>
    obtain ⟨s, q⟩ := step
    have hout : outsideAngles 0 [q.text] = [q.text] := by cases q <;> rfl
    rw [pathTokens, List.flatMap_cons, outsideAngles_append, outsideAngles_append,
      angleDepth_append, s.angleDepth_tokens, q.angleDepth_text, Int.zero_add, Int.zero_add,
      s.outsideAngles_tokens, hout]
    exact congrArg _ ih

theorem angleDepth_tokens : angleDepth name.tokens = 0 := by
  rw [tokens, angleDepth_append, angleDepth_append, name.lead.angleDepth_tokens,
    angleDepth_pathTokens, name.last.angleDepth_tokens]
  rfl

theorem outsideAngles_tokens : outsideAngles 0 name.tokens = name.words := by
  rw [tokens, outsideAngles_append, outsideAngles_append, angleDepth_append,
    name.lead.angleDepth_tokens, angleDepth_pathTokens, Int.add_zero, Int.add_zero,
    name.lead.outsideAngles_tokens, outsideAngles_pathTokens, name.last.outsideAngles_tokens]
  rfl

theorem isCalleeWord_words : ∀ t ∈ name.words, IsCalleeWord t := by
  intro t ht
  simp only [words, pathWords, List.mem_append, List.mem_flatMap, List.mem_singleton] at ht
  rcases ht with (ht | ⟨⟨s, q⟩, -, ht | rfl⟩) | ht
  · exact name.lead.isCalleeWord_tokens t ht
  · exact s.isCalleeWord_words t ht
  · exact Or.inl q.isQualifier_text
  · exact name.last.isCalleeWord_words t ht

/-- The last name of the tokens is the identifier of the last segment. -/
theorem lastName_tokens : lastName name.tokens = some name.last.name := by
  rw [lastName, outsideAngles_tokens, words, List.filter_append,
    name.last.filter_isIdentifier_words, List.getLast?_append]
  rfl

theorem any_isQualifier_words : name.words.any isQualifier = name.isQualified := by
  obtain ⟨lead, path, last⟩ := name
  rw [words, List.any_append, List.any_append, last.any_isQualifier_words, Bool.or_false]
  cases path with
  | nil => cases lead <;> rfl
  | cons step path =>
    obtain ⟨s, q⟩ := step
    rw [pathWords, List.flatMap_cons, List.any_append, List.any_append, List.any_cons,
      q.isQualifier_text]
    cases lead <;> simp [isQualified]

/-! ## Names of types -/

/-- What stands in front of the identifier of the last segment. -/
def front : List String := name.lead.tokens ++ pathTokens name.path ++ name.last.keyword

theorem tokens_eq_front : name.tokens = name.front ++ name.last.name :: name.last.arguments := by
  simp [tokens, front, Segment.tokens, Segment.words]

theorem angleDepth_front : angleDepth name.front = 0 := by
  have hkeyword : angleDepth name.last.keyword = 0 := by
    unfold Segment.keyword
    split <;> rfl
  rw [front, angleDepth_append, angleDepth_append, name.lead.angleDepth_tokens,
    angleDepth_pathTokens, hkeyword]
  rfl

theorem standsOutside_last :
    StandsOutside 0 name.tokens name.front name.last.name name.last.arguments where
  split := name.tokens_eq_front
  outside := by rw [name.angleDepth_front]; rfl
  word := isWordLike_of_isIdentifier name.last.identifier

theorem isType : IsType name.tokens := by
  refine .of_outsideAngles name.angleDepth_tokens ?_ ⟨_, _, _, name.standsOutside_last⟩
  intro t ht
  rw [outsideAngles_tokens] at ht
  exact (name.isCalleeWord_words t ht).plain.2.1

theorem isLastWord_tokens : IsLastWord 0 name.tokens name.last.name := by
  refine ⟨_, _, name.standsOutside_last, ?_⟩
  intro between t rest h
  -- behind the identifier stand its template arguments, which hold no word outside of them
  rw [name.tokens_eq_front, standsOutside_append_iff, name.angleDepth_front,
    standsOutside_cons_iff, angleStep_of_isWordLike name.standsOutside_last.word] at h
  obtain ⟨hsplit, houtside, hword⟩ := h
  rcases name.last.closed with hnil | harguments
  · rw [hnil] at hsplit
    simp at hsplit
  · have hmem : t ∈ outsideAngles 0 name.last.arguments := by
      rw [mem_outsideAngles_iff]
      exact ⟨isAngle_of_isWordLike hword, between, rest, hsplit, by omega⟩
    rw [harguments.outsideAngles_eq] at hmem
    cases hmem

end WrittenName

end Call
end CallPolicy

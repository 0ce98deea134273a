import CallPolicy.Proofs.WrittenNames
import CallPolicy.Proofs.Wrappers

/-!
# CallPolicy.Proofs.CvQualifiers

New-expressions of one type, with and without the words `const` and `volatile` beside its name. C++
allows them in front of the type and behind it, and they leave the type's simple name as it is.

* `Creates.describe_eq`: how a new-expression of a type is told, however the type is spelled.
* `lastWord_surrounded`: words in front of a type leave its last word, words behind it replace it.
* `describe_cv_qualified_iff`: so qualifiers in front change nothing, and those behind the type take
  the place of its name.
-/

namespace CallPolicy
namespace Call

/-- The words that may stand on either side of a type. -/
def isCvQualifier (t : String) : Bool := t == "const" || t == "volatile"

/-- The place is a new-expression of the type `ty`, however it is spelled, and `after` follows the
type: nothing, or a bracket with what it opens. -/
structure Creates (p : Place) (ty after : List String) : Prop where
  kind : p.hasKind .newExpr = true
  written : ∃ pre tokens, "new" ∉ pre ∧ p.facts.tokens = pre ++ "new" :: tokens ∧
    Spells ty after tokens
  ends : after = [] ∨ ∃ o rest, after = o :: rest ∧ isOpener o = true

section

variable {p q : Place} {ty before behind after w : List String} {name name' t : String}

/-! ## What a new-expression is told by -/

/-- The name has no part in the shape and in the number of arguments. -/
theorem Description.ofCreation_rename (child : Option Facts) :
    ofCreation name' after child = ⟨(ofCreation name after child).shape, some name',
      (ofCreation name after child).argumentCount⟩ := by
  unfold ofCreation
  split <;> rfl

theorem Description.ofCreation_name (child : Option Facts) :
    (ofCreation name after child).name = some name := by
  unfold ofCreation
  split <;> rfl

theorem Creates.ofTokens_eq (h : Creates p ty after) (hty : IsType ty) :
    Creation.ofTokens p.facts.tokens = Creation.ofParts ty after := by
  obtain ⟨pre, tokens, hpre, htokens, hspells⟩ := h.written
  rw [htokens, Creation.ofTokens_spelled hpre hty h.ends hspells]

theorem Creates.describe_eq (h : Creates p ty after) (hty : IsType ty)
    (hname : Creation.lastWord 0 none ty = some name) (hword : isWordLike name = true) :
    describe p = .ofCreation name after ((constructorChild? p).map Place.facts) :=
  describe_of_creation h.kind (h.ofTokens_eq hty) hname hword

/-- The constructor call is looked for among the children alone. -/
theorem constructorChild?_facts_eq (h : q.tree.children = p.tree.children) :
    (constructorChild? q).map Place.facts = (constructorChild? p).map Place.facts := by
  rw [constructorChild?_map_facts, constructorChild?_map_facts, h]

/-! ## Words beside a type -/

theorem isWordLike_of_isCvQualifier (h : isCvQualifier t = true) : isWordLike t = true := by
  simp only [isCvQualifier, Bool.or_eq_true, beq_iff_eq] at h
  rcases h with rfl | rfl <;> decide

theorem angleDepth_of_words (h : ∀ t ∈ w, isWordLike t = true) : angleDepth w = 0 :=
  angleDepth_of_no_angle fun t ht => isAngle_of_isWordLike (h t ht)

theorem outsideAngles_of_words (h : ∀ t ∈ w, isWordLike t = true) : outsideAngles 0 w = w :=
  outsideAngles_of_no_angle fun t ht => isAngle_of_isWordLike (h t ht)

/-- The last of some words is the last word. -/
theorem lastWord_of_words (h : ∀ t ∈ w, isWordLike t = true) :
    Creation.lastWord 0 (some name) w = some (w.getLastD name) := by
  induction w generalizing name with
  | nil => rfl
  | cons t w ih =>
    have ht : isWordLike t = true := h t List.mem_cons_self
    rw [Creation.lastWord_cons, angleStep_of_isWordLike ht, Int.add_zero, if_pos ⟨rfl, ht⟩,
      ih fun x hx => h x (List.mem_cons_of_mem _ hx), List.getLastD_cons]

theorem isWordLike_getLastD (h : ∀ t ∈ w, isWordLike t = true) (hname : isWordLike name = true) :
    isWordLike (w.getLastD name) = true := by
  have hmem : w.getLastD name ∈ name :: w := List.getLastD_mem_cons
  rcases List.mem_cons.mp hmem with hlast | hlast
  · rw [hlast]
    exact hname
  · exact h _ hlast

/-- The last of some qualifiers is no name of a type. -/
theorem getLastD_eq_iff (h : ∀ t ∈ w, isCvQualifier t = true)
    (hname : isCvQualifier name = false) : w.getLastD name = name ↔ w = [] := by
  cases w with
  | nil => simp
  | cons t rest =>
    have hlast : isCvQualifier (rest.getLastD t) = true := h _ List.getLastD_mem_cons
    rw [List.getLastD_cons]
    constructor
    · intro heq
      rw [heq, hname] at hlast
      cases hlast
    · intro hnil
      cases hnil

section

variable {ty : WrittenName} (hbefore : ∀ t ∈ before, isWordLike t = true)
  (hbehind : ∀ t ∈ behind, isWordLike t = true)

include hbefore

theorem lastWord_before : Creation.lastWord 0 none (before ++ ty.tokens) = some ty.last.name := by
  rw [Creation.lastWord_append, angleDepth_of_words hbefore, Int.zero_add]
  exact Creation.lastWord_eq ty.isLastWord_tokens

theorem angleDepth_before : angleDepth (before ++ ty.tokens) = 0 := by
  rw [angleDepth_append, angleDepth_of_words hbefore, ty.angleDepth_tokens]
  rfl

include hbehind

/-- The name read off a type with words on either side of it. -/
theorem lastWord_surrounded :
    Creation.lastWord 0 none (before ++ ty.tokens ++ behind) =
      some (behind.getLastD ty.last.name) := by
  rw [Creation.lastWord_append, angleDepth_before hbefore, lastWord_before hbefore, Int.zero_add]
  exact lastWord_of_words hbehind

theorem isType_surrounded : IsType (before ++ ty.tokens ++ behind) := by
  have houtside : outsideAngles 0 (before ++ ty.tokens ++ behind) =
      before ++ ty.words ++ behind := by
    rw [outsideAngles_append, outsideAngles_append, angleDepth_before hbefore,
      angleDepth_of_words hbefore, Int.add_zero, outsideAngles_of_words hbefore,
      ty.outsideAngles_tokens, outsideAngles_of_words hbehind]
  refine .of_outsideAngles ?_ ?_ ?_
  · rw [angleDepth_append, angleDepth_before hbefore, angleDepth_of_words hbehind]
    rfl
  · intro t ht
    rw [houtside, List.mem_append, List.mem_append] at ht
    rcases ht with (ht | ht) | ht
    · exact isOpener_of_isWordLike (hbefore t ht)
    · exact (ty.isCalleeWord_words t ht).plain.2.1
    · exact isOpener_of_isWordLike (hbehind t ht)
  · refine ⟨before ++ ty.front, ty.last.name, ty.last.arguments ++ behind, ?_, ?_, ?_⟩
    · simp [ty.tokens_eq_front]
    · rw [angleDepth_append, angleDepth_of_words hbefore, ty.angleDepth_front]
      rfl
    · exact ty.standsOutside_last.word

end

/-- **When cv-qualifiers leave a new-expression as it is.** Beside the type they change neither the
shape nor the number of arguments. The name stays with those in front of the type; the last of those
behind it is told in place of the name, so that everything stays exactly if there are none. -/
theorem describe_cv_qualified_iff {ty : WrittenName} (hp : Creates p ty.tokens after)
    (hq : Creates q (before ++ ty.tokens ++ behind) after)
    (hchildren : q.tree.children = p.tree.children)
    (hbefore : ∀ t ∈ before, isCvQualifier t = true)
    (hbehind : ∀ t ∈ behind, isCvQualifier t = true)
    (hname : isCvQualifier ty.last.name = false) :
    (describe p).name = some ty.last.name ∧
    describe q =
      ⟨(describe p).shape, some (behind.getLastD ty.last.name), (describe p).argumentCount⟩ ∧
    (describe q = describe p ↔ behind = []) := by
  have hwords : ∀ t ∈ before, isWordLike t = true :=
    fun t ht => isWordLike_of_isCvQualifier (hbefore t ht)
  have hwords' : ∀ t ∈ behind, isWordLike t = true :=
    fun t ht => isWordLike_of_isCvQualifier (hbehind t ht)
  have hword : isWordLike ty.last.name = true := ty.standsOutside_last.word
  have hdescribe := hp.describe_eq ty.isType (Creation.lastWord_eq ty.isLastWord_tokens) hword
  have hdescribe' := hq.describe_eq (isType_surrounded hwords hwords')
    (lastWord_surrounded hwords hwords') (isWordLike_getLastD hwords' hword)
  have htold : (describe p).name = some ty.last.name := by
    rw [hdescribe, Description.ofCreation_name]
  have hrename : describe q =
      ⟨(describe p).shape, some (behind.getLastD ty.last.name), (describe p).argumentCount⟩ := by
    rw [hdescribe', constructorChild?_facts_eq hchildren, hdescribe]
    exact Description.ofCreation_rename _
  refine ⟨htold, hrename, ?_⟩
  rw [← getLastD_eq_iff hbehind hname]
  constructor
  · intro hsame
    have hnames : some (behind.getLastD ty.last.name) = some ty.last.name := by
      rw [← htold, ← hsame, hrename]
    exact Option.some.inj hnames
  · intro hlast
    rw [hrename, hlast, ← htold]

/-- `new (buf) const volatile ns::Box<int>(1)` is told like `new (buf) ns::Box<int>(1)`. -/
theorem describe_cv_qualified_in_front :
    let ns : Segment := ⟨false, "ns", [], by decide, Or.inl rfl⟩
    let box : Segment :=
      ⟨false, "Box", ["<", "int", ">"], by decide, Or.inr (.of_take ⟨_, rfl⟩ (by decide) rfl)⟩
    let ty : WrittenName := ⟨.nothing, [(ns, .scope)], box⟩
    let qualifiers := ["const", "volatile"]
    let after := ["(", "1", ")"]
    let construct := constructTree "Box" (box.tokens ++ after) [.starting (some "a.cpp") 1]
    let created (ty : List String) : Place :=
      ⟨newTree ("new" :: "(" :: (["buf"] ++ ")" :: (ty ++ after))) [construct], []⟩
    (Creates (created ty.tokens) ty.tokens after ∧
      Creates (created (qualifiers ++ ty.tokens)) (qualifiers ++ ty.tokens) after ∧
      (∀ t ∈ qualifiers, isCvQualifier t = true) ∧ isCvQualifier ty.last.name = false) ∧
    describe (created ty.tokens) = ⟨.construction, some "Box", 1⟩ ∧
    describe (created (qualifiers ++ ty.tokens)) = describe (created ty.tokens) := by
  intro ns box ty qualifiers after construct created
  have hcreates (ty : List String) : Creates (created ty) ty after :=
    ⟨rfl, ⟨[], _, List.not_mem_nil, rfl, .placed (.token rfl rfl .nil)⟩, Or.inr ⟨_, _, rfl, rfl⟩⟩
  have hp := hcreates ty.tokens
  have hq : Creates (created (qualifiers ++ ty.tokens)) (qualifiers ++ ty.tokens ++ []) after := by
    rw [List.append_nil]
    exact hcreates _
  have hqualifiers : ∀ t ∈ qualifiers, isCvQualifier t = true := by decide
  have hname : isCvQualifier ty.last.name = false := by decide
  obtain ⟨-, -, hsame⟩ :=
    describe_cv_qualified_iff hp hq rfl hqualifiers (fun t ht => nomatch ht) hname
  exact ⟨⟨hp, hcreates _, hqualifiers, hname⟩, by decide, hsame.mpr rfl⟩

/-- `new Widget const(1)` is told as a constructor call of `const`. -/
theorem qualifier_behind_type_taken_for_name :
    let ty : WrittenName := ⟨.nothing, [], ⟨false, "Widget", [], by decide, Or.inl rfl⟩⟩
    let after := ["(", "1", ")"]
    let p : Place := ⟨newTree ("new" :: (ty.tokens ++ after)) [], []⟩
    let q : Place := ⟨newTree ("new" :: (ty.tokens ++ ["const"] ++ after)) [], []⟩
    (Creates p ty.tokens after ∧ Creates q (ty.tokens ++ ["const"]) after ∧
      q.tree.children = p.tree.children) ∧
    describe p = ⟨.construction, some "Widget", 1⟩ ∧
    describe q = ⟨.construction, some "const", 1⟩ := by
  intro ty after p q
  have hends : after = [] ∨ ∃ o rest, after = o :: rest ∧ isOpener o = true :=
    Or.inr ⟨_, _, rfl, rfl⟩
  exact ⟨⟨⟨rfl, ⟨[], _, List.not_mem_nil, rfl, .plain⟩, hends⟩,
    ⟨rfl, ⟨[], _, List.not_mem_nil, rfl, .plain⟩, hends⟩, rfl⟩, by decide, by decide⟩

end

end Call
end CallPolicy

import CallPolicy.Proofs.Ownership
import CallPolicy.Proofs.WrittenNames

/-!
# CallPolicy.Proofs.Temporaries

A temporary and a new-expression of the same written type, with the same arguments.

* `describe_new_of_name`: the new-expression is a constructor call, however the type is written.
* `hasWrittenArguments_of_name`: the temporary has an argument list of its own if and only if its
  type is written as one token.
* `describe_temporary_iff`: so the two are told alike for such a type, and for no other.
-/

namespace CallPolicy
namespace Call

theorem Segment.first (s : Segment) : ∃ t rest, s.tokens = t :: rest ∧ IsCalleeWord t := by
  have hword : ∀ t ∈ s.words, IsCalleeWord t := s.isCalleeWord_words
  cases h : s.words with
  | nil => simp [Segment.words] at h
  | cons t words =>
    refine ⟨t, words ++ s.arguments, by rw [Segment.tokens, h]; rfl, hword t ?_⟩
    rw [h]
    exact List.mem_cons_self

/-- A written name starts with a word, not with template arguments. -/
theorem WrittenName.first (name : WrittenName) :
    ∃ t rest, name.tokens = t :: rest ∧ IsCalleeWord t := by
  obtain ⟨lead, path, last⟩ := name
  cases lead with
  | global => exact ⟨_, _, rfl, Or.inl rfl⟩
  | this => exact ⟨_, _, rfl, Or.inr (Or.inl rfl)⟩
  | nothing =>
    cases path with
    | nil =>
      obtain ⟨t, rest, hfirst, hword⟩ := last.first
      exact ⟨t, rest, hfirst, hword⟩
    | cons step path =>
      obtain ⟨t, rest, hfirst, hword⟩ := step.1.first
      refine ⟨t, rest ++ [step.2.text] ++ pathTokens path ++ last.tokens, ?_, hword⟩
      simp [WrittenName.tokens, pathTokens, Lead.tokens, hfirst]

section

variable {n c child : Place} {ty : WrittenName} {o : String} {rest : List String}

/-- A new-expression with a constructor call is one, with the arguments written there. -/
theorem describe_new_of_name (hnew : n.hasKind .newExpr = true) (hopener : o = "(" ∨ o = "\x7b")
    (htokens : n.facts.tokens = "new" :: (ty.tokens ++ o :: rest))
    (hchild : constructorChild? n = some child) :
    describe n = ⟨.construction, some ty.last.name, writtenArguments child.facts⟩ := by
  have ho : isOpener o = true := by rcases hopener with rfl | rfl <;> rfl
  have hcreation : Creation.ofTokens n.facts.tokens = Creation.ofParts ty.tokens (o :: rest) := by
    have hstart : n.facts.tokens = [] ++ "new" :: (ty.tokens ++ o :: rest) := htokens
    rw [hstart, Creation.ofTokens_spelled List.not_mem_nil ty.isType (Or.inr ⟨o, rest, rfl, ho⟩)
      .plain]
  rw [describe_of_initializer hnew hopener hcreation ty.isLastWord_tokens, hchild, Option.elim_some]

theorem hasWrittenArguments_of_name (hopener : o = "(" ∨ o = "\x7b")
    (htokens : c.facts.tokens = ty.tokens ++ o :: rest) (hname : c.facts.name = some ty.last.name) :
    hasWrittenArguments c = true ↔ ty.tokens.length = 1 := by
  obtain ⟨t, more, hfirst, hword⟩ := ty.first
  have hbrace : t ≠ "\x7b" := by
    rintro rfl
    exact absurd hword.plain.2.1 (by decide)
  rw [hfirst] at htokens
  cases more with
  | nil =>
    -- the one token is the identifier of the last segment
    have hlast : ty.last.name = t := by
      have hmem : ty.last.name ∈ ty.tokens := by
        rw [ty.tokens_eq_front]
        simp
      rw [hfirst] at hmem
      exact List.mem_singleton.mp hmem
    unfold hasWrittenArguments
    simp [htokens, hopener, hname, hlast, hfirst]
  | cons t' more =>
    have hnext : isOpener t' = false := by
      refine ty.isType.unbracketed [t] t' more hfirst ?_
      rw [angleDepth_cons, isAngle_eq_false_iff.mp hword.plain.1]
      rfl
    have hnot : ¬ (t' = "(" ∨ t' = "\x7b") := by
      rintro (rfl | rfl) <;> exact absurd hnext (by decide)
    unfold hasWrittenArguments
    simp [htokens, hnot, hfirst]

theorem describe_construct_of_name {name : String} (hc : isConstruct c = true)
    (howner : (owner? c).any (·.hasKind .newExpr) = false) (hname : c.facts.name = some name)
    (hword : isWordLike name = true) :
    describe c = if hasWrittenArguments c then ⟨.construction, some name, writtenArguments c.facts⟩
      else ⟨.constructorReference, some name, 0⟩ := by
  obtain ⟨hkind, href⟩ := isConstruct_iff.mp hc
  have hcall : c.hasKind .call = true := by rw [Place.hasKind, hkind]; rfl
  have hnew : c.hasKind .newExpr = false := by rw [Place.hasKind, hkind]; rfl
  simp [describe, hcall, hnew, href, describeConstruct, howner, hname,
    nonEmpty?_of_isWordLike hword]

/-- **Which temporaries are told like new-expressions.** -/
theorem describe_temporary_iff (hopener : o = "(" ∨ o = "\x7b") (hnew : n.hasKind .newExpr = true)
    (hn : n.facts.tokens = "new" :: (ty.tokens ++ o :: rest))
    (hchild : constructorChild? n = some child)
    (harguments : child.facts.arguments = c.facts.arguments)
    (hc : isConstruct c = true) (howner : (owner? c).any (·.hasKind .newExpr) = false)
    (hname : c.facts.name = Creation.lastWord 0 none ty.tokens)
    (htokens : c.facts.tokens = ty.tokens ++ o :: rest) :
    describe n = ⟨.construction, some ty.last.name, writtenArguments c.facts⟩ ∧
      (describe c = describe n ↔ ty.tokens.length = 1) ∧
      (ty.tokens.length ≠ 1 → describe c = ⟨.constructorReference, some ty.last.name, 0⟩) := by
  have hdescribe : describe n = ⟨.construction, some ty.last.name, writtenArguments c.facts⟩ := by
    rw [describe_new_of_name hnew hopener hn hchild, writtenArguments, harguments]
    rfl
  rw [Creation.lastWord_eq ty.isLastWord_tokens] at hname
  have hconstruct := describe_construct_of_name hc howner hname
    (isWordLike_of_isIdentifier ty.last.identifier)
  have hwritten := hasWrittenArguments_of_name hopener htokens hname
  rw [hdescribe, hconstruct]
  by_cases hone : ty.tokens.length = 1
  · rw [if_pos (hwritten.mpr hone)]
    exact ⟨rfl, ⟨fun _ => hone, fun _ => rfl⟩, fun hmany => absurd hone hmany⟩
  · rw [if_neg fun h => hone (hwritten.mp h)]
    refine ⟨rfl, ⟨fun h => ?_, fun h => absurd h hone⟩, fun _ => rfl⟩
    cases (Description.mk.inj h).1

/-- `Widget(5)` beside `new Widget(5)`. -/
theorem describe_temporary_of_one_token :
    let argument : Argument := .starting (some "a.cpp") 1
    let tokens := ["Widget", "(", "5", ")"]
    let construct := constructTree "Widget" tokens [argument]
    let t := newTree ("new" :: tokens) [construct]
    let n : Place := ⟨t, []⟩
    let c : Place := ⟨construct, []⟩
    describe n = ⟨.construction, some "Widget", 1⟩ ∧ describe c = describe n := by
  intro argument tokens construct t n c
  let ty : WrittenName := ⟨.nothing, [], ⟨false, "Widget", [], by decide, Or.inl rfl⟩⟩
  have hn : n.facts.tokens = "new" :: (ty.tokens ++ "(" :: ["5", ")"]) := rfl
  have hname : c.facts.name = Creation.lastWord 0 none ty.tokens :=
    (Creation.lastWord_eq ty.isLastWord_tokens).symm
  let child : Place := ⟨construct, [(t, 0)]⟩
  have hchild : constructorChild? n = some child := rfl
  have harguments : child.facts.arguments = c.facts.arguments := rfl
  obtain ⟨hnew, hiff, -⟩ :=
    describe_temporary_iff (Or.inl rfl) rfl hn hchild harguments rfl rfl hname rfl
  exact ⟨hnew, hiff.mpr rfl⟩

/-- `ns::Widget(5)` has no argument list of its own, `new ns::Widget(5)` has one argument. -/
theorem temporary_of_qualified_type_lost :
    let ns : Segment := ⟨false, "ns", [], by decide, Or.inl rfl⟩
    let ty : WrittenName := ⟨.nothing, [(ns, .scope)], ⟨false, "Widget", [], by decide, Or.inl rfl⟩⟩
    let tokens := ty.tokens ++ ["(", "5", ")"]
    let construct := constructTree "Widget" tokens [.starting (some "a.cpp") 1]
    let t := newTree ("new" :: tokens) [construct]
    let n : Place := ⟨t, []⟩
    let c : Place := ⟨construct, []⟩
    (c.facts.name = Creation.lastWord 0 none ty.tokens ∧ owner? c = none ∧
      constructorChild? n = some ⟨construct, [(t, 0)]⟩) ∧
    describe n = ⟨.construction, some "Widget", 1⟩ ∧
    describe c = ⟨.constructorReference, some "Widget", 0⟩ := by
  intro ns ty tokens construct t n c
  exact ⟨⟨(Creation.lastWord_eq ty.isLastWord_tokens).symm, rfl, rfl⟩, by decide, by decide⟩

end

end Call
end CallPolicy

import CallPolicy.Call
import CallPolicy.Proofs.WrittenNames

/-!
# CallPolicy.Proofs.DependentCalls

Calls that depend on a template parameter. Nothing tells their name but the tokens in front of their
arguments.

* `describe_written_name`: a call of a possibly qualified name is told by its last segment.
* `lastName_eq_some_iff`: the last name of a word, told by what stands in front of it and behind.
* `dependent_name_last_iff`: a dependent call is named by what stands in front of its first
  parenthesis. In a chain of calls that is not its own name.
-/

namespace CallPolicy
namespace Call

/-- A call without a resolved name, neither of its own nor of what it calls. -/
structure IsDependent (p : Place) : Prop where
  call : p.hasKind .call = true
  notConstruct : p.facts.referenced ≠ some .constructor
  unnamed : nonEmpty? p.facts.name = none
  calleeUnnamed : nonEmpty? ((callee? p).bind (·.facts.name)) = none

/-- Tokens that are read as a written callee. -/
structure IsWrittenCallee (w : List String) : Prop where
  nonempty : w ≠ []
  closed : angleDepth w = 0
  words : ∀ t ∈ outsideAngles 0 w, IsCalleeWord t

section

variable {p : Place} {callee rest : List String} {name : String}

theorem isNamed_iff : isNamed callee = true ↔ ∀ t ∈ outsideAngles 0 callee, IsCalleeWord t := by
  simp [isNamed, IsCalleeWord, or_assoc]

theorem takeWhile_parenthesis :
    (callee ++ "(" :: rest).takeWhile (· != "(") = callee.takeWhile (· != "(") := by
  induction callee with
  | nil => simp
  | cons t callee ih => rw [List.cons_append, List.takeWhile_cons, List.takeWhile_cons, ih]

theorem writtenCallee_eq_some_iff {w : List String} :
    writtenCallee (callee ++ "(" :: rest) = some w ↔
      callee.takeWhile (· != "(") = w ∧ IsWrittenCallee w := by
  have hparen : (callee ++ "(" :: rest).contains "(" = true := by simp
  rw [writtenCallee, if_pos hparen, takeWhile_parenthesis]
  dsimp only
  split
  · rename_i hno
    constructor
    · intro h
      cases h
    · rintro ⟨rfl, hne, hclosed, hwords⟩
      simp [hne, anglesBalance_iff.mpr hclosed, isNamed_iff.mpr hwords] at hno
  · rename_i hyes
    simp only [Bool.or_eq_true, Bool.not_eq_true', not_or, Bool.not_eq_false,
      List.isEmpty_iff] at hyes
    obtain ⟨⟨hne, hclosed⟩, hnamed⟩ := hyes
    constructor
    · intro h
      cases h
      exact ⟨rfl, hne, anglesBalance_iff.mp hclosed, isNamed_iff.mp hnamed⟩
    · rintro ⟨rfl, -⟩
      rfl

theorem describe_of_dependent (hp : IsDependent p) : describe p = describeOther p := by
  have hnew : p.hasKind .newExpr = false := by
    have hkind : p.facts.kind = some .call := eq_of_beq hp.call
    rw [Place.hasKind, hkind]
    rfl
  have hconstruct : (p.facts.referenced == some .constructor) = false := by
    simpa using hp.notConstruct
  simp [describe, hnew, hp.call, hconstruct]

theorem describe_of_writtenCallee (hp : IsDependent p)
    (hcallee : writtenCallee p.facts.tokens = some callee) (hname : lastName callee = some name) :
    describe p = ⟨callShape (isQualified callee), some name, writtenArguments p.facts⟩ := by
  simp [describe_of_dependent hp, describeOther, hp.unnamed, hp.calleeUnnamed, hcallee, hname]

theorem name_of_dependent (hp : IsDependent p) :
    (describe p).name = (writtenCallee p.facts.tokens).bind lastName := by
  rw [describe_of_dependent hp]
  simp only [describeOther, hp.unnamed, hp.calleeUnnamed, Option.or_none]
  split
  · rename_i hnone
    rw [hnone]
    rfl
  · rename_i tokens hsome
    rw [hsome, Option.bind_some]
    split <;> simp_all [notACall]

end

/-! ## Possibly qualified names -/

theorem WrittenName.isWrittenCallee (name : WrittenName) : IsWrittenCallee name.tokens where
  nonempty := by simp [WrittenName.tokens, Segment.tokens, Segment.words]
  closed := name.angleDepth_tokens
  words := by
    rw [name.outsideAngles_tokens]
    exact name.isCalleeWord_words

theorem isQualified_iff {w : List String} :
    isQualified w = true ↔ ∃ t, isQualifier t = true ∧ IsOutsideAngles 0 w t := by
  simp only [isQualified, List.any_eq_true, mem_outsideAngles_iff]
  exact exists_congr fun t => and_comm

/-- **Every call written as a possibly qualified name is recognised.** It is told by the identifier
of the last segment, and is qualified exactly when a qualifier stands outside template arguments:
when there is more than the last segment. -/
theorem describe_written_name {p : Place} {name : WrittenName} {rest : List String}
    (hp : IsDependent p) (htokens : p.facts.tokens = name.tokens ++ "(" :: rest)
    (hparen : "(" ∉ name.tokens) :
    describe p = ⟨if name.isQualified then .qualified else .plain, some name.last.name,
        writtenArguments p.facts⟩ ∧
      (name.isQualified = true ↔ ∃ t, isQualifier t = true ∧ IsOutsideAngles 0 name.tokens t) := by
  have hfront : name.tokens.takeWhile (· != "(") = name.tokens := by
    rw [List.takeWhile_eq_self_iff]
    intro t ht
    rw [bne_iff_ne]
    rintro rfl
    exact hparen ht
  have hcallee : writtenCallee p.facts.tokens = some name.tokens := by
    rw [htokens, writtenCallee_eq_some_iff]
    exact ⟨hfront, name.isWrittenCallee⟩
  have hqualified : isQualified name.tokens = name.isQualified := by
    rw [isQualified, name.outsideAngles_tokens, name.any_isQualifier_words]
  refine ⟨?_, ?_⟩
  · rw [describe_of_writtenCallee hp hcallee name.lastName_tokens, hqualified]
    rfl
  · rw [← hqualified]
    exact isQualified_iff

/-- `t->template get<std::map<int, 0>>(x)` -/
theorem describe_written_name_nested_arguments :
    let list := ["<", "std", "::", "map", "<", "int", ",", "0", ">>"]
    let tokens := ["t", "->", "template", "get"] ++ list ++ ["(", "x", ")"]
    let p : Place :=
      ⟨.node { kind := some .call, tokens, arguments := [.starting (some "a.cpp") 1] } [], []⟩
    IsTemplateArguments list ∧ describe p = ⟨.qualified, some "get", 1⟩ := by
  intro list tokens p
  have hlist : IsTemplateArguments list := .of_take ⟨_, rfl⟩ (by decide) rfl
  let object : Segment := ⟨false, "t", [], by decide, Or.inl rfl⟩
  let get : Segment := ⟨true, "get", list, by decide, Or.inr hlist⟩
  let name : WrittenName := ⟨.nothing, [(object, .arrow)], get⟩
  have hp : IsDependent p := ⟨rfl, by decide, rfl, rfl⟩
  have htokens : p.facts.tokens = name.tokens ++ "(" :: ["x", ")"] := rfl
  have hparen : "(" ∉ ["t", "->", "template", "get"] ++ list := by decide
  obtain ⟨hdescribe, -⟩ := describe_written_name hp htokens hparen
  exact ⟨hlist, hdescribe⟩

/-! ## The last name -/

/-- The identifier `t` stands in `w` outside template arguments, `depth` of which are open in front
of `w`, and no identifier behind it does. -/
def IsLastName (depth : Int) (w : List String) (t : String) : Prop :=
  isIdentifier t = true ∧ ∃ before after, w = before ++ t :: after ∧
    depth + angleDepth before ≤ 0 ∧
    ∀ x, IsOutsideAngles (depth + angleDepth before) after x → isIdentifier x = false

section

variable {depth : Int} {u v w : List String} {t : String}

theorem isAngle_of_isIdentifier (h : isIdentifier t = true) : isAngle t = false :=
  isAngle_of_isWordLike (isWordLike_of_isIdentifier h)

theorem exists_isLastName (h : ∃ t, IsOutsideAngles depth w t ∧ isIdentifier t = true) :
    ∃ t, IsLastName depth w t := by
  -- The first token is the last such one exactly when there is none behind it.
  induction w generalizing depth with
  | nil =>
    obtain ⟨t, ⟨-, before, after, hsplit, -⟩, -⟩ := h
    simp at hsplit
  | cons x w ih =>
    by_cases hrest : ∃ t, IsOutsideAngles (depth + angleStep x) w t ∧ isIdentifier t = true
    · obtain ⟨t, ht, before, after, rfl, hdepth, hlast⟩ := ih hrest
      rw [Int.add_assoc, ← angleDepth_cons] at hdepth hlast
      exact ⟨t, ht, x :: before, after, rfl, hdepth, hlast⟩
    · obtain ⟨t, hout, ht⟩ := h
      rcases isOutsideAngles_cons_iff.mp hout with ⟨rfl, hangle, hdepth⟩ | hbehind
      · refine ⟨x, ht, [], w, rfl, by simpa [angleDepth] using hdepth, ?_⟩
        intro y hy
        rw [isAngle_eq_false_iff.mp hangle] at hrest
        rw [Bool.eq_false_iff]
        intro hid
        exact hrest ⟨y, hy, hid⟩
      · exact absurd ⟨t, hbehind, ht⟩ hrest

theorem getLast?_of_isLastName (h : IsLastName depth w t) :
    ((outsideAngles depth w).filter isIdentifier).getLast? = some t := by
  obtain ⟨ht, before, after, rfl, hdepth, hlast⟩ := h
  have hangle := isAngle_of_isIdentifier ht
  have hafter : (outsideAngles (depth + angleDepth before) after).filter isIdentifier = [] := by
    rw [List.filter_eq_nil_iff]
    intro x hx
    rw [hlast x (mem_outsideAngles_iff.mp hx)]
    exact Bool.false_ne_true
  rw [outsideAngles_append, outsideAngles, hangle, if_neg Bool.false_ne_true, if_pos hdepth,
    List.filter_append, List.filter_cons_of_pos ht, hafter, List.getLast?_append]
  rfl

theorem lastName_eq_some_iff : lastName w = some t ↔ IsLastName 0 w t := by
  constructor
  · intro h
    have hmem := List.mem_of_getLast? h
    rw [List.mem_filter, mem_outsideAngles_iff] at hmem
    obtain ⟨t', ht'⟩ := exists_isLastName ⟨t, hmem⟩
    have hlast : some t' = some t := (getLast?_of_isLastName ht').symm.trans h
    rwa [Option.some.inj hlast] at ht'
  · exact getLast?_of_isLastName

theorem lastName_append (hu : angleDepth u = 0) :
    lastName (u ++ v) = (lastName v).or (lastName u) := by
  rw [lastName, outsideAngles_append, hu, List.filter_append, List.getLast?_append]
  rfl

end

/-! ## Outside brackets -/

/-- How a token changes the depth of brackets. -/
def bracketStep (t : String) : Int := if isOpener t then 1 else if isCloser t then -1 else 0

def bracketDepth (w : List String) : Int := (w.map bracketStep).sum

/-- The tokens outside brackets, `depth` of which are open in front. The brackets are left out. -/
def outsideBrackets : Int → List String → List String
  | _, [] => []
  | depth, t :: rest =>
    if depth = 0 ∧ bracketStep t = 0 then t :: outsideBrackets depth rest
    else outsideBrackets (depth + bracketStep t) rest

/-- Brackets stand within template arguments, and what they enclose closes as many template argument
lists as it opens. -/
structure BracketsNest (w : List String) : Prop where
  enclosed : ∀ before, before <+: w → bracketDepth before ≠ 0 → 0 < angleDepth before
  balanced : ∀ before, before <+: w → bracketDepth before = 0 →
    angleDepth (outsideBrackets 0 before) = angleDepth before

section

variable {depth angles kept : Int} {u v w : List String} {t : String}

theorem bracketDepth_cons : bracketDepth (t :: w) = bracketStep t + bracketDepth w := by
  simp [bracketDepth]

theorem bracketStep_of_plain (h : isOpener t = false ∧ isCloser t = false) : bracketStep t = 0 := by
  simp [bracketStep, h.1, h.2]

theorem outsideBrackets_append :
    outsideBrackets depth (u ++ v) =
      outsideBrackets depth u ++ outsideBrackets (depth + bracketDepth u) v := by
  induction u generalizing depth with
  | nil => simp [outsideBrackets, bracketDepth]
  | cons t u ih =>
    rw [List.cons_append, outsideBrackets, outsideBrackets, bracketDepth_cons]
    split
    · rename_i h
      rw [ih, h.2, Int.zero_add]
      rfl
    · rw [ih, Int.add_assoc]

/-- The same by the prefixes of a length. -/
theorem BracketsNest.of_take
    (henclosed : ∀ i ≤ w.length, bracketDepth (w.take i) ≠ 0 → 0 < angleDepth (w.take i))
    (hbalanced : ∀ i ≤ w.length, bracketDepth (w.take i) = 0 →
      angleDepth (outsideBrackets 0 (w.take i)) = angleDepth (w.take i)) : BracketsNest w := by
  constructor
  · intro before hbefore
    rw [List.prefix_iff_eq_take.mp hbefore]
    exact henclosed _ hbefore.length_le
  · intro before hbefore
    rw [List.prefix_iff_eq_take.mp hbefore]
    exact hbalanced _ hbefore.length_le

/-- What is left out with the brackets stands in template arguments, of which `angles` are open in
front, `kept` of them opened outside brackets. -/
theorem outsideAngles_outsideBrackets (hwords : ∀ t ∈ outsideAngles angles w, IsCalleeWord t)
    (henclosed : ∀ before, before <+: w → depth + bracketDepth before ≠ 0 →
      0 < angles + angleDepth before)
    (hbalanced : ∀ before, before <+: w → depth + bracketDepth before = 0 →
      kept + angleDepth (outsideBrackets depth before) = angles + angleDepth before) :
    outsideAngles kept (outsideBrackets depth w) = outsideAngles angles w := by
  induction w generalizing angles kept depth with
  | nil => rfl
  | cons t w ih =>
    have hopen : depth ≠ 0 → 0 < angles := by
      simpa [bracketDepth, angleDepth] using henclosed [] List.nil_prefix
    -- both conditions for what follows `t`, whatever becomes of `t` itself
    have henclosed' : ∀ before, before <+: w → depth + bracketStep t + bracketDepth before ≠ 0 →
        0 < angles + angleStep t + angleDepth before := by
      intro before hbefore hne
      rw [Int.add_assoc, ← bracketDepth_cons] at hne
      rw [Int.add_assoc, ← angleDepth_cons]
      exact henclosed (t :: before) ((List.prefix_cons_inj t).mpr hbefore) hne
    have hrest := fun before (hbefore : before <+: w) =>
      hbalanced (t :: before) ((List.prefix_cons_inj t).mpr hbefore)
    simp only [bracketDepth_cons, angleDepth_cons, ← Int.add_assoc, outsideBrackets] at hrest
    have hwords' := fun x (hx : x ∈ outsideAngles (angles + angleStep t) w) =>
      hwords x (mem_outsideAngles_cons hx)
    by_cases hkept : depth = 0 ∧ bracketStep t = 0
    · obtain ⟨rfl, hstep⟩ := hkept
      obtain rfl : kept = angles := by
        simpa [outsideBrackets, angleDepth] using hbalanced [] List.nil_prefix rfl
      simp only [hstep, and_self, if_true, angleDepth_cons, ← Int.add_assoc] at hrest
      rw [hstep] at henclosed'
      rw [outsideBrackets, if_pos ⟨rfl, hstep⟩]
      exact outsideAngles_cons_congr (ih hwords' henclosed' hrest)
    · have hinside : isAngle t = true ∨ 0 < angles := by
        by_contra hcon
        rw [not_or, Bool.not_eq_true, Int.not_lt] at hcon
        have hmem : t ∈ outsideAngles angles (t :: w) := by
          rw [outsideAngles, hcon.1, if_neg Bool.false_ne_true, if_pos hcon.2]
          exact List.mem_cons_self
        refine hkept ⟨?_, bracketStep_of_plain (hwords t hmem).plain.2⟩
        by_contra hdepth
        exact absurd (hopen hdepth) (Int.not_lt.mpr hcon.2)
      simp only [if_neg hkept] at hrest
      rw [outsideBrackets, if_neg hkept, outsideAngles_cons_inside hinside]
      exact ih hwords' henclosed' hrest

theorem BracketsNest.outsideAngles_eq (h : BracketsNest w)
    (hwords : ∀ t ∈ outsideAngles 0 w, IsCalleeWord t) :
    outsideAngles 0 (outsideBrackets 0 w) = outsideAngles 0 w :=
  outsideAngles_outsideBrackets hwords
    (fun before hbefore hne => by simpa using h.enclosed before hbefore (by simpa using hne))
    (fun before hbefore heq => by simpa using h.balanced before hbefore (by simpa using heq))

end

/-- **What a dependent call is named by.** Its name is the last one in front of the first
parenthesis. Where brackets and template arguments nest in front of that parenthesis, it is the last
name of the whole callee exactly when no other name is the last one from the parenthesis on. -/
theorem dependent_name_last_iff {p : Place} {callee rest : List String} {name : String}
    (hp : IsDependent p) (htokens : p.facts.tokens = callee ++ "(" :: rest)
    (hname : (describe p).name = some name) :
    let front := callee.takeWhile (· != "(")
    let behind := callee.dropWhile (· != "(")
    IsLastName 0 front name ∧
      (BracketsNest front →
        (IsLastName 0 (outsideBrackets 0 callee) name ↔
          ∀ other, IsLastName 0 (outsideBrackets 0 behind) other → other = name)) := by
  intro front behind
  rw [name_of_dependent hp, htokens, Option.bind_eq_some_iff] at hname
  obtain ⟨w, hw, hlast⟩ := hname
  obtain ⟨rfl, hwritten⟩ := writtenCallee_eq_some_iff.mp hw
  refine ⟨lastName_eq_some_iff.mp hlast, fun hnest => ?_⟩
  have hfront : lastName (outsideBrackets 0 front) = some name := by
    rw [lastName, hnest.outsideAngles_eq hwritten.words]
    exact hlast
  have hbrackets : bracketDepth front = 0 := by
    by_contra hne
    have hopen := hnest.enclosed front List.prefix_rfl hne
    rw [hwritten.closed] at hopen
    exact absurd hopen (by decide)
  have hclosed : angleDepth (outsideBrackets 0 front) = 0 := by
    rw [hnest.balanced front List.prefix_rfl hbrackets]
    exact hwritten.closed
  have hsplit : outsideBrackets 0 callee = outsideBrackets 0 front ++ outsideBrackets 0 behind := by
    have hcallee : callee = front ++ behind := List.takeWhile_append_dropWhile.symm
    rw [hcallee, outsideBrackets_append, hbrackets]
    rfl
  simp only [← lastName_eq_some_iff]
  rw [hsplit, lastName_append hclosed, hfront]
  cases lastName (outsideBrackets 0 behind) with
  | none => simp
  | some other => simp

/-- `f<A{B<0>{}}>(x)(y)`: no other name stands behind the first parenthesis. -/
theorem dependent_name_last_called_twice :
    let argument := ["A", "\x7b", "B", "<", "0", ">", "\x7b", "\x7d", "\x7d"]
    let callee := ["f", "<"] ++ argument ++ [">", "(", "x", ")"]
    let p : Place := ⟨.node { kind := some .call, tokens := callee ++ ["(", "y", ")"] } [], []⟩
    (describe p).name = some "f" ∧ IsLastName 0 (outsideBrackets 0 callee) "f" := by
  intro argument callee p
  have hp : IsDependent p := ⟨rfl, by decide, rfl, rfl⟩
  have hname : (describe p).name = some "f" := by decide
  have htokens : p.facts.tokens = callee ++ "(" :: ["y", ")"] := rfl
  obtain ⟨-, hiff⟩ := dependent_name_last_iff hp htokens hname
  have hnest : BracketsNest (callee.takeWhile (· != "(")) := .of_take (by decide) (by decide)
  refine ⟨hname, (hiff hnest).mpr fun other hother => ?_⟩
  have hnone : lastName (outsideBrackets 0 (callee.dropWhile (· != "("))) = none := by decide
  rw [← lastName_eq_some_iff, hnone] at hother
  cases hother

/-- `t.first().stop()` is told as a call of `first`, and `f<a[i > j < k]>(x)` as a call of `j`. -/
theorem dependent_call_misnamed :
    let call := fun tokens : List String =>
      (⟨.node { kind := some .call, name := some "", tokens } [], []⟩ : Place)
    let chained := ["t", ".", "first", "(", ")", ".", "stop"]
    let indexed := ["f", "<", "a", "[", "i", ">", "j", "<", "k", "]", ">"]
    let stop := call (chained ++ "(" :: ([] ++ [")"]))
    let f := call (indexed ++ "(" :: (["x"] ++ [")"]))
    (IsDependent stop ∧ WellBracketed [] ∧ describe stop = ⟨.qualified, some "first", 0⟩ ∧
      IsLastName 0 (outsideBrackets 0 chained) "stop" ∧
      ¬ IsLastName 0 (outsideBrackets 0 chained) "first") ∧
    (IsDependent f ∧ WellBracketed ["x"] ∧ describe f = ⟨.plain, some "j", 0⟩ ∧
      IsLastName 0 (outsideBrackets 0 indexed) "f" ∧
      ¬ IsLastName 0 (outsideBrackets 0 indexed) "j") := by
  intro call chained indexed stop f
  simp only [← lastName_eq_some_iff]
  refine ⟨⟨⟨rfl, by decide, rfl, rfl⟩, .nil, by decide, by decide, by decide⟩,
    ⟨rfl, by decide, rfl, rfl⟩, .token rfl rfl .nil, by decide, by decide, by decide⟩

end Call
end CallPolicy

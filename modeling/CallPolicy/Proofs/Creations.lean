import CallPolicy.Call
import CallPolicy.Proofs.Brackets
import Mathlib

/-!
# CallPolicy.Proofs.Creations

New-expressions by their grammar: what `describe` makes of one whose tree holds no constructor call,
told from how it is written.

* `lastWord_eq`: the name of a written type is the last word outside template arguments.
* `afterNew_eq`: the type and what follows it are found, with or without placement arguments in
  front, and also where the type is in parentheses.
* `describe_of_creation`: the name, what follows the type and the constructor call in the tree are
  all that a new-expression is told by.
* `describe_written`: name, shape and number of arguments.
-/

namespace CallPolicy
namespace Call

/-! ## Words outside template arguments -/

/-- How many template argument lists a word leaves open. -/
def angleDepth (w : List String) : Int := (w.map angleStep).sum

/-- The token `t` stands in `w` between `before` and `after`, starts like an identifier and is
outside template arguments, `depth` of which are open in front of `w`. -/
structure StandsOutside (depth : Int) (w before : List String) (t : String) (after : List String) :
    Prop where
  split : w = before ++ t :: after
  outside : depth + angleDepth before = 0
  word : isWordLike t = true

/-- The last token that does so. -/
def IsLastWord (depth : Int) (w : List String) (t : String) : Prop :=
  ∃ before after, StandsOutside depth w before t after ∧
    ∀ between t' rest, ¬ StandsOutside depth w (before ++ t :: between) t' rest

section

variable {depth : Int} {w u v before after : List String} {x t name : String}

theorem angleDepth_append : angleDepth (u ++ v) = angleDepth u + angleDepth v := by
  simp [angleDepth]

theorem angleDepth_cons : angleDepth (t :: w) = angleStep t + angleDepth w := by
  simp [angleDepth]

theorem angleStep_of_isWordLike (h : isWordLike t = true) : angleStep t = 0 := by
  unfold angleStep
  split
  · exact absurd h (by decide)
  · exact absurd h (by decide)
  · exact absurd h (by decide)
  · rfl

theorem standsOutside_append_iff :
    StandsOutside depth (u ++ w) (u ++ before) t after ↔
      StandsOutside (depth + angleDepth u) w before t after := by
  constructor
  · rintro ⟨hsplit, houtside, hword⟩
    rw [List.append_assoc, List.append_cancel_left_eq] at hsplit
    rw [angleDepth_append, ← Int.add_assoc] at houtside
    exact ⟨hsplit, houtside, hword⟩
  · rintro ⟨rfl, houtside, hword⟩
    rw [Int.add_assoc, ← angleDepth_append] at houtside
    exact ⟨by rw [List.append_assoc], houtside, hword⟩

theorem standsOutside_cons_iff :
    StandsOutside depth (x :: w) (x :: before) t after ↔
      StandsOutside (depth + angleStep x) w before t after := by
  have h : StandsOutside depth ([x] ++ w) ([x] ++ before) t after ↔
      StandsOutside (depth + angleDepth [x]) w before t after := standsOutside_append_iff
  simpa [angleDepth] using h

/-- If there is such a token at all, there is a last one. -/
theorem exists_isLastWord (h : ∃ before t after, StandsOutside depth w before t after) :
    ∃ name, IsLastWord depth w name := by
  -- The first token is the last such one exactly when there is none behind it.
  induction w generalizing depth with
  | nil =>
    obtain ⟨before, t, after, hsplit, -⟩ := h
    simp at hsplit
  | cons x rest ih =>
    by_cases hrest : ∃ before t after, StandsOutside (depth + angleStep x) rest before t after
    · obtain ⟨name, before, after, hstands, hlast⟩ := ih hrest
      refine ⟨name, x :: before, after, standsOutside_cons_iff.mpr hstands, ?_⟩
      intro between t' behind h'
      exact hlast between t' behind (standsOutside_cons_iff.mp h')
    · obtain ⟨before, t, after, h⟩ := h
      cases before with
      | nil =>
        obtain ⟨rfl, rfl⟩ := List.cons.inj h.split
        refine ⟨x, [], rest, h, ?_⟩
        intro between t' behind h'
        exact hrest ⟨between, t', behind, standsOutside_cons_iff.mp h'⟩
      | cons y before =>
        obtain ⟨rfl, -⟩ := List.cons.inj h.split
        exact absurd ⟨before, t, after, standsOutside_cons_iff.mp h⟩ hrest

namespace Creation

theorem lastWord_cons (earlier : Option String) :
    lastWord depth earlier (t :: w) =
      lastWord (depth + angleStep t)
        (if depth = 0 ∧ isWordLike t then some t else earlier) w := by
  rw [lastWord]
  by_cases hangle : angleStep t = 0
  · have hnone : isAngle t = false := by simp [isAngle, hangle]
    simp only [hnone, hangle, Int.add_zero, Bool.false_eq_true, if_false]
    split <;> rfl
  · have hsome : isAngle t = true := by simp [isAngle, hangle]
    have hword : ¬ (depth = 0 ∧ isWordLike t = true) := fun h =>
      hangle (angleStep_of_isWordLike h.2)
    rw [if_pos hsome, if_neg hword]

theorem lastWord_append (earlier : Option String) :
    lastWord depth earlier (u ++ v) =
      lastWord (depth + angleDepth u) (lastWord depth earlier u) v := by
  induction u generalizing depth earlier with
  | nil => simp [angleDepth, lastWord]
  | cons t u ih =>
    rw [List.cons_append, lastWord_cons, ih, lastWord_cons, angleDepth_cons, Int.add_assoc]

theorem lastWord_of_none {earlier : Option String}
    (h : ∀ before t after, ¬ StandsOutside depth w before t after) :
    lastWord depth earlier w = earlier := by
  induction w generalizing depth with
  | nil => rfl
  | cons t w ih =>
    have hword : ¬ (depth = 0 ∧ isWordLike t = true) := by
      rintro ⟨rfl, hword⟩
      exact h [] t w ⟨rfl, by simp [angleDepth], hword⟩
    rw [lastWord_cons, if_neg hword]
    refine ih fun before t' after h' => ?_
    exact h (t :: before) t' after (standsOutside_cons_iff.mpr h')

/-- The name of a type is its last word. -/
theorem lastWord_eq {earlier : Option String} (h : IsLastWord depth w name) :
    lastWord depth earlier w = some name := by
  obtain ⟨before, after, ⟨rfl, houtside, hword⟩, hlast⟩ := h
  rw [lastWord_append, houtside, lastWord_cons, angleStep_of_isWordLike hword,
    if_pos ⟨rfl, hword⟩, Int.add_zero]
  refine lastWord_of_none fun between t' rest h' => hlast between t' rest ?_
  have hdepth : depth + angleDepth (before ++ [name]) = 0 := by
    rw [angleDepth_append, ← Int.add_assoc, houtside, angleDepth_cons,
      angleStep_of_isWordLike hword]
    rfl
  rw [← hdepth] at h'
  simpa using standsOutside_append_iff.mpr h'

end Creation
end

/-! ## The grammar -/

/-- A written type: template arguments are closed as often as they are opened, no bracket opens
outside them, and some word stands outside them. -/
structure IsType (w : List String) : Prop where
  closed : angleDepth w = 0
  unbracketed : ∀ before t after, w = before ++ t :: after → angleDepth before = 0 →
    isOpener t = false
  named : ∃ before t after, StandsOutside 0 w before t after

/-- What follows the type, with the shape it stands for and the number of arguments. -/
inductive Follows : List String → Shape → Nat → Prop
  | nothing : Follows [] .constructorReference 0
  | size {w rest : List String} (h : WellBracketed w) :
      Follows ("[" :: (w ++ "]" :: rest)) .arrayCreation 0
  | arguments {o c : String} {items : List (List String)} {rest : List String}
      (hopener : o = "(" ∨ o = "\x7b") (hclose : closerOf o = some c)
      (hitems : ∀ w ∈ items, IsItem w) :
      Follows (o :: (List.intercalate [","] items ++ c :: rest)) .construction items.length

/-- How the type `ty` and what follows it are written after the word `new`: as they are, after
placement arguments, or with the type in parentheses. A type in parentheses is no array type, and
only an initializer in parentheses or braces follows it. -/
inductive Spells (ty after : List String) : List String → Prop
  | plain : Spells ty after (ty ++ after)
  | placed {w : List String} (h : WellBracketed w) :
      Spells ty after ("(" :: (w ++ ")" :: (ty ++ after)))
  | parenthesized (hbrackets : WellBracketed ty) (hsize : "[" ∉ ty)
      (hafter : after = [] ∨ ∃ rest, after = "(" :: rest ∨ after = "\x7b" :: rest) :
      Spells ty after ("(" :: (ty ++ ")" :: after))

section

variable {ty after tokens : List String} {shape : Shape} {n : Nat}

/-- A type by its openers: each stands within template arguments. -/
theorem IsType.of_take (hclosed : angleDepth ty = 0)
    (h : ∀ i < ty.length, angleDepth (ty.take i) = 0 → (ty[i]?.all fun t => !isOpener t) = true)
    (hnamed : ∃ before t after, StandsOutside 0 ty before t after) : IsType ty := by
  refine ⟨hclosed, ?_, hnamed⟩
  rintro before t after rfl hbefore
  have hopener := h before.length (by simp)
  rw [List.take_left' rfl] at hopener
  simpa using hopener hbefore

theorem IsType.first (h : IsType ty) : ∃ t rest, ty = t :: rest ∧ isOpener t = false := by
  obtain ⟨before, t, after, hsplit, -⟩ := h.named
  cases ty with
  | nil => simp at hsplit
  | cons t rest => exact ⟨t, rest, rfl, h.unbracketed [] t rest rfl rfl⟩

theorem Follows.first (h : Follows after shape n) :
    after = [] ∨ ∃ o rest, after = o :: rest ∧ isOpener o = true := by
  cases h with
  | nothing => exact Or.inl rfl
  | size => exact Or.inr ⟨_, _, rfl, rfl⟩
  | arguments _ hclose => exact Or.inr ⟨_, _, rfl, isOpener_of_closerOf hclose⟩

namespace Creation

/-- The type ends where what follows it starts. -/
theorem splitType_eq {depth : Int} {w : List String} (hclosed : depth + angleDepth w = 0)
    (hunbracketed : ∀ before t rest, w = before ++ t :: rest → depth + angleDepth before = 0 →
      isOpener t = false)
    (hafter : after = [] ∨ ∃ o rest, after = o :: rest ∧ isOpener o = true) :
    splitType depth (w ++ after) = (w, after) := by
  induction w generalizing depth with
  | nil =>
    have hdepth : depth = 0 := by simpa [angleDepth] using hclosed
    rcases hafter with rfl | ⟨o, rest, rfl, ho⟩
    · rfl
    · simp [splitType, hdepth, ho]
  | cons t w ih =>
    have hgo : ¬ (depth = 0 ∧ isOpener t = true) := by
      rintro ⟨rfl, ht⟩
      rw [hunbracketed [] t w rfl rfl] at ht
      cases ht
    have hrest : splitType (depth + angleStep t) (w ++ after) = (w, after) := by
      refine ih ?_ ?_
      · rw [angleDepth_cons] at hclosed
        omega
      · intro before t' rest hw hdepth
        refine hunbracketed (t :: before) t' rest (by rw [hw]; rfl) ?_
        rw [angleDepth_cons]
        omega
    rw [List.cons_append, splitType, if_neg hgo, hrest]

theorem ofPlain_eq (hty : IsType ty)
    (hafter : after = [] ∨ ∃ o rest, after = o :: rest ∧ isOpener o = true) :
    ofPlain (ty ++ after) = ofParts ty after := by
  rw [ofPlain, splitType_eq (by rw [hty.closed]; rfl)
    (fun before t rest hw hdepth => hty.unbracketed before t rest hw (by omega)) hafter]

theorem endsType_of_first {t : String} (h : isOpener t = false) (rest : List String) :
    endsType (t :: rest) = false := by
  have hparen : t ≠ "(" := by rintro rfl; cases h
  have hbrace : t ≠ "\x7b" := by rintro rfl; cases h
  simp [endsType, hparen, hbrace]

/-- The parts of a new-expression, however it is written. -/
theorem afterNew_eq (hty : IsType ty)
    (hafter : after = [] ∨ ∃ o rest, after = o :: rest ∧ isOpener o = true)
    (h : Spells ty after tokens) : afterNew tokens = ofParts ty after := by
  obtain ⟨t, rest, hfirst, ht⟩ := hty.first
  have hclose : closerOf "(" = some ")" := rfl
  cases h with
  | plain =>
    unfold afterNew
    split
    · rename_i heq
      rw [hfirst, List.cons_append] at heq
      rw [(List.cons.inj heq).1] at ht
      cases ht
    · exact ofPlain_eq hty hafter
  | placed hw =>
    have hends : endsType (ty ++ after) = false := by
      rw [hfirst]
      exact endsType_of_first ht _
    simp only [afterNew, takeGroup_group hclose hw, hends, Bool.false_eq_true, if_false]
    exact ofPlain_eq hty hafter
  | parenthesized hbrackets hsize hinit =>
    have hends : endsType after = true := by
      rcases hinit with rfl | ⟨rest, rfl | rfl⟩ <;> rfl
    have hplain : ty.contains "[" = false := by simpa using hsize
    simp only [afterNew, takeGroup_group hclose hbrackets, hends, if_true, inside_group,
      ofParenthesized, hplain, Bool.false_eq_true, if_false]

theorem ofTokens_eq {pre : List String} (h : "new" ∉ pre) (rest : List String) :
    ofTokens (pre ++ "new" :: rest) = afterNew rest := by
  have hpre : ∀ t ∈ pre, (t != "new") = true := by
    intro t ht
    rw [bne_iff_ne]
    rintro rfl
    exact h ht
  have hdrop : (pre ++ "new" :: rest).dropWhile (· != "new") = "new" :: rest := by
    rw [List.dropWhile_append_of_pos hpre]
    rfl
  rw [ofTokens, hdrop]

/-- The parts of a new-expression wherever it starts. -/
theorem ofTokens_spelled {pre : List String} (hpre : "new" ∉ pre) (hty : IsType ty)
    (hafter : after = [] ∨ ∃ o rest, after = o :: rest ∧ isOpener o = true)
    (h : Spells ty after tokens) : ofTokens (pre ++ "new" :: tokens) = ofParts ty after := by
  rw [ofTokens_eq hpre, afterNew_eq hty hafter h]

theorem typeName_eq_lastWord : (ofParts ty after).typeName = lastWord 0 none ty := by
  cases after <;> rfl

theorem typeName_ofParts {name : String} (h : IsLastWord 0 ty name) :
    (ofParts ty after).typeName = some name := by
  rw [typeName_eq_lastWord, lastWord_eq h]

end Creation

theorem nonEmpty?_of_isWordLike {name : String} (h : isWordLike name = true) :
    nonEmpty? (some name) = some name := by
  have hne : name ≠ "" := by rintro rfl; cases h
  simp [nonEmpty?, hne]

theorem IsLastWord.isWordLike {name : String} {depth : Int} {w : List String}
    (h : IsLastWord depth w name) : isWordLike name = true := by
  obtain ⟨_, _, hstands, -⟩ := h
  exact hstands.word

/-- What is told of a new-expression by the name of its type, the tokens after the type and the
constructor call in the tree. -/
def Description.ofCreation (name : String) (after : List String) (child : Option Facts) :
    Description :=
  match after.head? with
  | some "[" => ⟨.arrayCreation, some name, 0⟩
  | some "(" | some "\x7b" =>
    ⟨.construction, some name, child.elim (countItems (leadingGroup after)) writtenArguments⟩
  | _ => ⟨.constructorReference, some name, 0⟩

/-- A new-expression is told by nothing else. -/
theorem describe_of_creation {p : Place} {name : String} (hkind : p.hasKind .newExpr = true)
    (hcreation : Creation.ofTokens p.facts.tokens = Creation.ofParts ty after)
    (hname : Creation.lastWord 0 none ty = some name) (hword : isWordLike name = true) :
    describe p = .ofCreation name after ((constructorChild? p).map Place.facts) := by
  simp only [describe, hkind, if_true, describeNew, hcreation, Creation.typeName_eq_lastWord,
    hname, nonEmpty?_of_isWordLike hword]
  cases after with
  | nil => rfl
  | cons o rest => cases constructorChild? p <;> rfl

/-- With an initializer, a new-expression is a constructor call. Its arguments are those of the call
in the tree, and the items of the initializer where there is no such call. -/
theorem describe_of_initializer {p : Place} {name o : String} {rest : List String}
    (hkind : p.hasKind .newExpr = true) (hopener : o = "(" ∨ o = "\x7b")
    (hcreation : Creation.ofTokens p.facts.tokens = Creation.ofParts ty (o :: rest))
    (hname : IsLastWord 0 ty name) :
    describe p = ⟨.construction, some name,
      (constructorChild? p).elim (countItems (leadingGroup (o :: rest)))
        fun child => writtenArguments child.facts⟩ := by
  rw [describe_of_creation hkind hcreation (Creation.lastWord_eq hname) hname.isWordLike]
  cases constructorChild? p <;> rcases hopener with rfl | rfl <;> rfl

/-- **New-expressions are read by their grammar.** -/
theorem describe_written {p : Place} {pre : List String} (hkind : p.hasKind .newExpr = true)
    (hchild : constructorChild? p = none) (hpre : "new" ∉ pre)
    (htokens : p.facts.tokens = pre ++ "new" :: tokens) (hty : IsType ty)
    (hafter : Follows after shape n) (h : Spells ty after tokens) :
    ∃ name, IsLastWord 0 ty name ∧ describe p = ⟨shape, some name, n⟩ := by
  obtain ⟨name, hname⟩ := exists_isLastWord hty.named
  refine ⟨name, hname, ?_⟩
  have hcreation : Creation.ofTokens p.facts.tokens = Creation.ofParts ty after := by
    rw [htokens, Creation.ofTokens_spelled hpre hty hafter.first h]
  have htype : (Creation.ofParts ty after).typeName = some name := Creation.typeName_ofParts hname
  obtain ⟨-, -, ⟨-, -, hword⟩, -⟩ := hname
  simp only [describe, hkind, if_true, describeNew, hcreation, htype,
    nonEmpty?_of_isWordLike hword, hchild]
  cases hafter with
  | nothing => rfl
  | size => rfl
  | @arguments o c items rest hopener hclose hitems =>
    have hcount : countItems (leadingGroup (o :: (List.intercalate [","] items ++ c :: rest))) =
        items.length := by
      rw [leadingGroup_group hclose (wellBracketed_items hitems), countItems_group hitems]
    rcases hopener with rfl | rfl <;> simp [Creation.ofParts, hcount]

/-- `p = new (buf) std::vector<T(int)>(f(1, 2), x);` -/
theorem describe_written_after_placement :
    let ty := ["std", "::", "vector", "<", "T", "(", "int", ")", ">"]
    let initializer := ["(", "f", "(", "1", ",", "2", ")", ",", "x", ")", ";"]
    let tokens := ["p", "=", "new", "(", "buf", ")"] ++ (ty ++ initializer)
    let p : Place := ⟨.node { kind := some .newExpr, tokens } [], []⟩
    IsLastWord 0 ty "vector" ∧ describe p = ⟨.construction, some "vector", 2⟩ := by
  intro ty initializer tokens p
  have harguments : WellBracketed ["1", ",", "2"] :=
    .token rfl rfl (.token rfl rfl (.token rfl rfl .nil))
  have hcall : WellBracketed ("f" :: "(" :: (["1", ",", "2"] ++ [")"])) :=
    .token rfl rfl (.group rfl harguments .nil)
  have hitems : ∀ w ∈ [["f", "(", "1", ",", "2", ")"], ["x"]], IsItem w := by
    intro w hw
    rcases List.mem_cons.mp hw with rfl | hw
    · exact .of_count (by simp) hcall (by decide)
    · rw [List.mem_singleton.mp hw]
      exact .of_count (by simp) (.token rfl rfl .nil) (by decide)
  have hafter : Follows initializer .construction 2 := .arguments (Or.inl rfl) rfl hitems
  have hty : IsType ty := .of_take rfl (by decide) ⟨[], "std", _, rfl, rfl, by decide⟩
  have hspells : Spells ty initializer ("(" :: (["buf"] ++ ")" :: (ty ++ initializer))) :=
    .placed (.token rfl rfl .nil)
  have htokens : p.facts.tokens =
      ["p", "="] ++ "new" :: "(" :: (["buf"] ++ ")" :: (ty ++ initializer)) := rfl
  obtain ⟨name, hname, hdescribe⟩ :=
    describe_written rfl rfl (by decide) htokens hty hafter hspells
  have hvector : name = "vector" := by
    have hlast : Creation.lastWord 0 none ty = some "vector" := by decide
    rw [Creation.lastWord_eq hname] at hlast
    exact Option.some.inj hlast
  rw [← hvector]
  exact ⟨hname, hdescribe⟩

end

end Call
end CallPolicy

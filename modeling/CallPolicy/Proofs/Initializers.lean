import CallPolicy.Proofs.DependentCalls

/-!
# CallPolicy.Proofs.Initializers

The arguments of a written initializer, and how many of them are told.

* `topCommas_eq_count`: what is counted are the commas outside brackets, whatever they divide.
* `countItems_initializer`: so commas of a template argument list and a comma at the end count too.
* `describe_initializer_iff`: the number of arguments is right exactly where there are none of them.
-/

namespace CallPolicy
namespace Call

/-- The commas of a word that stand outside its brackets. -/
def openCommas (w : List String) : Nat := (outsideBrackets 0 w).count ","

/-- One argument: something, whose brackets nest. A comma in it stands within brackets or within a
template argument list. -/
structure IsArgument (w : List String) : Prop where
  nonempty : w ≠ []
  brackets : WellBracketed w
  commas : ∀ before after, outsideBrackets 0 w = before ++ "," :: after →
    ∃ front inner inner' rest, before = front ++ inner ∧ after = inner' ++ rest ∧
      IsTemplateArguments (inner ++ "," :: inner')

/-- Arguments written as an initializer, with commas between them. In braces, a comma may stand
behind the last one, too. -/
inductive Initializes (arguments : List (List String)) : Bool → List String → Prop
  | parentheses :
      Initializes arguments false ("(" :: (List.intercalate [","] arguments ++ [")"]))
  | braces :
      Initializes arguments false ("\x7b" :: (List.intercalate [","] arguments ++ ["\x7d"]))
  | bracesAfterComma :
      Initializes arguments true ("\x7b" :: (List.intercalate [","] arguments ++ [","] ++ ["\x7d"]))

section

variable {depth : Int} {o c : String} {u v w inner rest : List String}
  {arguments : List (List String)} {trailing : Bool} {initializer : List String}

/-! ## Commas outside brackets -/

theorem topCommas_eq_count : topCommas depth w = (outsideBrackets depth w).count "," := by
  induction w generalizing depth with
  | nil => rfl
  | cons t w ih =>
    rw [topCommas, outsideBrackets]
    by_cases hopener : isOpener t = true
    · have hstep : bracketStep t = 1 := by simp [bracketStep, hopener]
      rw [if_pos hopener, hstep, if_neg (by omega), ih]
    · by_cases hcloser : isCloser t = true
      · have hstep : bracketStep t = -1 := by simp [bracketStep, hopener, hcloser]
        rw [if_neg hopener, if_pos hcloser, hstep, if_neg (by omega), ih]
        rfl
      · have hstep : bracketStep t = 0 := by simp [bracketStep, hopener, hcloser]
        rw [if_neg hopener, if_neg hcloser, hstep, Int.add_zero]
        by_cases hdepth : depth = 0
        · simp only [hdepth, and_true, if_true, List.count_cons, ih, beq_iff_eq]
          split <;> rfl
        · simp only [hdepth, and_false, false_and, if_false, ih]

theorem bracketDepth_append : bracketDepth (u ++ v) = bracketDepth u + bracketDepth v := by
  simp [bracketDepth]

theorem WellBracketed.bracketDepth_eq_zero (h : WellBracketed w) : bracketDepth w = 0 := by
  induction h with
  | nil => rfl
  | token hopener hcloser _ ih =>
    rw [bracketDepth_cons, bracketStep_of_plain ⟨hopener, hcloser⟩, ih]
    rfl
  | group hclose _ _ ihinner ih =>
    obtain ⟨hcloser, hopener, -⟩ := closer_of_closerOf hclose
    rw [bracketDepth_cons, bracketDepth_append, bracketDepth_cons, ihinner, ih, bracketStep,
      if_pos (isOpener_of_closerOf hclose), bracketStep, hopener, hcloser]
    rfl

theorem WellBracketed.of_no_bracket (h : ∀ t ∈ w, isOpener t = false ∧ isCloser t = false) :
    WellBracketed w := by
  induction w with
  | nil => exact .nil
  | cons t w ih =>
    obtain ⟨hopener, hcloser⟩ := h t (by simp)
    exact .token hopener hcloser (ih fun t ht => h t (List.mem_cons_of_mem _ ht))

theorem openCommas_append (h : WellBracketed u) :
    openCommas (u ++ v) = openCommas u + openCommas v := by
  rw [openCommas, outsideBrackets_append, h.bracketDepth_eq_zero, List.count_append]
  rfl

/-- Between arguments stands one comma less than there are arguments. -/
theorem openCommas_intercalate (hne : arguments ≠ []) (h : ∀ w ∈ arguments, WellBracketed w) :
    openCommas (List.intercalate [","] arguments) + 1 =
      arguments.length + (arguments.map openCommas).sum := by
  induction arguments with
  | nil => exact absurd rfl hne
  | cons w arguments ih =>
    cases arguments with
    | nil => simp [Nat.add_comm]
    | cons next arguments =>
      have hrest := ih (List.cons_ne_nil _ _) fun w hw => h w (List.mem_cons_of_mem _ hw)
      have hcomma : openCommas [","] = 1 := rfl
      rw [List.intercalate_cons_cons, List.append_assoc, openCommas_append (h w (by simp)),
        openCommas_append (.token rfl rfl .nil), hcomma]
      simp only [List.length_cons, List.map_cons, List.sum_cons] at hrest ⊢
      omega

theorem openCommas_eq_zero_iff : openCommas w = 0 ↔ "," ∉ outsideBrackets 0 w :=
  List.count_eq_zero

/-- No argument has such a comma if there are none in all. -/
theorem sum_openCommas_eq_zero_iff : (arguments.map openCommas).sum = 0 ↔
    ∀ w ∈ arguments, "," ∉ outsideBrackets 0 w := by
  simp only [List.sum_eq_zero_iff, List.mem_map, forall_exists_index, and_imp,
    forall_apply_eq_imp_iff₂, openCommas_eq_zero_iff]

theorem IsArgument.of_no_comma (hne : w ≠ []) (hbrackets : WellBracketed w)
    (h : "," ∉ outsideBrackets 0 w) : IsArgument w := by
  refine ⟨hne, hbrackets, fun before after hsplit => absurd ?_ h⟩
  rw [hsplit]
  simp

/-- An argument with one template argument list that its commas stand in. -/
theorem IsArgument.of_template {front list behind : List String} (hne : w ≠ [])
    (hbrackets : WellBracketed w) (hsplit : outsideBrackets 0 w = front ++ (list ++ behind))
    (hlist : IsTemplateArguments list) (hfront : "," ∉ front) (hbehind : "," ∉ behind) :
    IsArgument w := by
  refine ⟨hne, hbrackets, fun before after hcomma => ?_⟩
  obtain ⟨opened, hopens⟩ := hlist.opens
  -- the comma stands neither in front of the list nor behind it
  rcases List.append_eq_append_iff.mp (hcomma.symm.trans hsplit) with
    ⟨between, hfrontSplit, hcut⟩ | ⟨inner, hbefore, hcut⟩
  · cases between with
    | nil =>
      rw [hopens] at hcut
      exact absurd (List.cons.inj hcut).1 (by decide)
    | cons t between =>
      obtain ⟨rfl, -⟩ := List.cons.inj hcut
      exact absurd (by rw [hfrontSplit]; simp) hfront
  · rcases List.append_eq_append_iff.mp hcut with ⟨between, -, hsplitBehind⟩ | ⟨tail, hin, htail⟩
    · exact absurd (by rw [hsplitBehind]; simp) hbehind
    · cases tail with
      | nil => exact absurd (by rw [← List.nil_append behind, ← htail]; simp) hbehind
      | cons t inner' =>
        obtain ⟨rfl, hafter⟩ := List.cons.inj htail
        exact ⟨front, inner, inner', behind, hbefore, hafter, hin ▸ hlist⟩

/-! ## Initializers -/

/-- What an initializer encloses. -/
def enclosed (arguments : List (List String)) (trailing : Bool) : List String :=
  List.intercalate [","] arguments ++ if trailing then [","] else []

theorem Initializes.group (h : Initializes arguments trailing initializer) :
    ∃ o c, (o = "(" ∨ o = "\x7b") ∧ closerOf o = some c ∧
      initializer = o :: (enclosed arguments trailing ++ [c]) := by
  cases h with
  | parentheses => exact ⟨"(", ")", Or.inl rfl, rfl, by simp [enclosed]⟩
  | braces => exact ⟨"\x7b", "\x7d", Or.inr rfl, rfl, by simp [enclosed]⟩
  | bracesAfterComma => exact ⟨"\x7b", "\x7d", Or.inr rfl, rfl, by simp [enclosed]⟩

theorem wellBracketed_enclosed (h : ∀ w ∈ arguments, IsArgument w) :
    WellBracketed (enclosed arguments trailing) := by
  refine (WellBracketed.intercalate fun w hw => (h w hw).brackets).append ?_
  cases trailing with
  | false => exact .nil
  | true => exact .token rfl rfl .nil

theorem openCommas_enclosed (hne : arguments ≠ []) (h : ∀ w ∈ arguments, IsArgument w) :
    openCommas (enclosed arguments trailing) + 1 =
      arguments.length + (arguments.map openCommas).sum + trailing.toNat := by
  have hbrackets : ∀ w ∈ arguments, WellBracketed w := fun w hw => (h w hw).brackets
  have hcount := openCommas_intercalate hne hbrackets
  rw [enclosed, openCommas_append (.intercalate hbrackets)]
  cases trailing with
  | false => simpa [openCommas, outsideBrackets] using hcount
  | true =>
    have hcomma : openCommas [","] = 1 := rfl
    simp only [if_true, hcomma, Bool.toNat_true]
    omega

theorem enclosed_ne_nil (hne : arguments ≠ []) (h : ∀ w ∈ arguments, IsArgument w) :
    enclosed arguments trailing ≠ [] := by
  cases arguments with
  | nil => exact absurd rfl hne
  | cons first arguments =>
    have hfirst := (h first (by simp)).nonempty
    cases arguments <;> simp [enclosed, hfirst]

/-- A group that encloses something has one item more than commas outside brackets. -/
theorem countItems_of_ne_nil (hne : inner ≠ []) :
    countItems (o :: (inner ++ [c])) = openCommas inner + 1 := by
  rw [countItems, inside_group, openCommas, ← topCommas_eq_count]
  cases inner with
  | nil => exact absurd rfl hne
  | cons t inner => rfl

/-- **All commas outside brackets count**, those in template argument lists and the one behind the
last argument, too. -/
theorem countItems_initializer (hne : arguments ≠ []) (h : ∀ w ∈ arguments, IsArgument w)
    (hinit : Initializes arguments trailing initializer) :
    countItems (leadingGroup (initializer ++ rest)) =
      arguments.length + (arguments.map openCommas).sum + trailing.toNat := by
  obtain ⟨o, c, -, hclose, rfl⟩ := hinit.group
  rw [List.cons_append, List.append_assoc, List.singleton_append,
    leadingGroup_group hclose (wellBracketed_enclosed h),
    countItems_of_ne_nil (enclosed_ne_nil hne h), openCommas_enclosed hne h]

/-- **When the arguments of an initializer are counted right.** The new-expression of a type with an
initializer is a constructor call, named by the last word of the type. The number of arguments told
is right exactly if no comma stands behind the last argument and none outside brackets in one. -/
theorem describe_initializer_iff {p : Place} {pre ty tokens : List String}
    (hkind : p.hasKind .newExpr = true) (hchild : constructorChild? p = none) (hpre : "new" ∉ pre)
    (htokens : p.facts.tokens = pre ++ "new" :: tokens) (hty : IsType ty)
    (hspells : Spells ty (initializer ++ rest) tokens)
    (hinit : Initializes arguments trailing initializer) (hne : arguments ≠ [])
    (harguments : ∀ w ∈ arguments, IsArgument w) :
    ∃ name, IsLastWord 0 ty name ∧
      describe p = ⟨.construction, some name,
        arguments.length + (arguments.map openCommas).sum + trailing.toNat⟩ ∧
      ((describe p).argumentCount = arguments.length ↔
        trailing = false ∧ ∀ w ∈ arguments, "," ∉ outsideBrackets 0 w) := by
  obtain ⟨name, hname⟩ := exists_isLastWord hty.named
  obtain ⟨o, c, hopener, hclose, hgroup⟩ := hinit.group
  have hafter : initializer ++ rest = o :: (enclosed arguments trailing ++ [c] ++ rest) := by
    rw [hgroup]
    rfl
  have hcreation : Creation.ofTokens p.facts.tokens =
      Creation.ofParts ty (o :: (enclosed arguments trailing ++ [c] ++ rest)) := by
    rw [htokens, ← hafter]
    exact Creation.ofTokens_spelled hpre hty
      (Or.inr ⟨o, _, hafter, isOpener_of_closerOf hclose⟩) hspells
  have hdescribe : describe p = ⟨.construction, some name,
      arguments.length + (arguments.map openCommas).sum + trailing.toNat⟩ := by
    rw [describe_of_initializer hkind hopener hcreation hname, hchild, Option.elim_none, ← hafter,
      countItems_initializer hne harguments hinit]
  refine ⟨name, hname, hdescribe, ?_⟩
  rw [hdescribe, ← sum_openCommas_eq_zero_iff]
  cases trailing with
  | false => simp
  | true =>
    simp only [Bool.toNat_true, Bool.true_eq_false, false_and, iff_false]
    omega

/-- `new Pair{f(std::pair<int, int>{1, 2}), 3};` -/
theorem describe_initializer_nested :
    let call := ["f", "(", "std", "::", "pair", "<", "int", ",", "int", ">", "\x7b", "1", ",", "2",
      "\x7d", ")"]
    let initializer := "\x7b" :: (call ++ [",", "3", "\x7d"])
    let p : Place :=
      ⟨.node { kind := some .newExpr, tokens := "new" :: "Pair" :: (initializer ++ [";"]) } [], []⟩
    IsArgument call ∧ describe p = ⟨.construction, some "Pair", 2⟩ := by
  intro call initializer p
  have htype : WellBracketed ["std", "::", "pair", "<", "int", ",", "int", ">"] :=
    .of_no_bracket (by decide)
  have hbraces : WellBracketed ("\x7b" :: (["1", ",", "2"] ++ ["\x7d"])) :=
    .group rfl (.of_no_bracket (by decide)) .nil
  have hcall : IsArgument call :=
    .of_no_comma (by decide) (.token rfl rfl (.group rfl (htype.append hbraces) .nil)) (by decide)
  have harguments : ∀ w ∈ [call, ["3"]], IsArgument w := by
    intro w hw
    rcases List.mem_cons.mp hw with rfl | hw
    · exact hcall
    · rw [List.mem_singleton.mp hw]
      exact .of_no_comma (by decide) (.token rfl rfl .nil) (by decide)
  have hinit : Initializes [call, ["3"]] false initializer := .braces
  have hty : IsType ["Pair"] := .of_take rfl (by decide) ⟨[], "Pair", _, rfl, rfl, by decide⟩
  have hspells : Spells ["Pair"] (initializer ++ [";"]) ("Pair" :: (initializer ++ [";"])) := .plain
  have htokens : p.facts.tokens = [] ++ "new" :: ("Pair" :: (initializer ++ [";"])) := rfl
  obtain ⟨name, hname, hdescribe, -⟩ := describe_initializer_iff rfl rfl List.not_mem_nil htokens
    hty hspells hinit (by simp) harguments
  have hlast : Creation.lastWord 0 none ["Pair"] = some name := Creation.lastWord_eq hname
  cases hlast
  exact ⟨hcall, hdescribe⟩

/-- A comma behind the last argument counts as an argument, and so does one between template
arguments: `new Pair{1, 2,}` and `new Box{std::pair<int, int>{1, 2}}`. -/
theorem written_arguments_miscounted :
    let pair := ["std", "::", "pair", "<", "int", ",", "int", ">", "\x7b", "1", ",", "2", "\x7d"]
    let twoAndComma := ["\x7b", "1", ",", "2", ",", "\x7d"]
    let onePair := "\x7b" :: (pair ++ ["\x7d"])
    let created (ty : String) (initializer : List String) : Place :=
      ⟨.node { kind := some .newExpr, tokens := "new" :: ty :: initializer } [], []⟩
    ((∀ w ∈ [["1"], ["2"]], IsArgument w) ∧ Initializes [["1"], ["2"]] true twoAndComma ∧
      describe (created "Pair" twoAndComma) = ⟨.construction, some "Pair", 3⟩) ∧
    (IsArgument pair ∧ Initializes [pair] false onePair ∧
      describe (created "Box" onePair) = ⟨.construction, some "Box", 2⟩) := by
  intro pair twoAndComma onePair created
  have hnumbers : ∀ w ∈ [["1"], ["2"]], IsArgument w := by
    intro w hw
    rcases List.mem_cons.mp hw with rfl | hw
    · exact .of_no_comma (by simp) (.of_no_bracket (by decide)) (by decide)
    · rw [List.mem_singleton.mp hw]
      exact .of_no_comma (by simp) (.of_no_bracket (by decide)) (by decide)
  have htype : WellBracketed ["std", "::", "pair", "<", "int", ",", "int", ">"] :=
    .of_no_bracket (by decide)
  have hbraces : WellBracketed ("\x7b" :: (["1", ",", "2"] ++ ["\x7d"])) :=
    .group rfl (.of_no_bracket (by decide)) .nil
  have hlist : IsTemplateArguments ["<", "int", ",", "int", ">"] :=
    .of_take ⟨_, rfl⟩ (by decide) rfl
  have houtside : outsideBrackets 0 pair =
      ["std", "::", "pair"] ++ (["<", "int", ",", "int", ">"] ++ []) := by decide
  have hpair : IsArgument pair :=
    .of_template (by decide) (htype.append hbraces) houtside hlist (by decide) (by decide)
  exact ⟨⟨hnumbers, .bracesAfterComma, by decide⟩, hpair, .braces, by decide⟩

end

end Call
end CallPolicy

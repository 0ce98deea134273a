import CallPolicy.Call.Tokens

/-!
# CallPolicy.Proofs.Brackets

Words whose brackets nest, and what the readers of bracket groups make of them.

* `takeGroup_group`: the group that a word starts with is taken whole, and what follows it is left.
* `countItems_group`: the items of a group are counted, however commas nest in them.
-/

namespace CallPolicy
namespace Call

/-- Every bracket is closed by its own closer, and what stands between the two nests in turn. -/
inductive WellBracketed : List String → Prop
  | nil : WellBracketed []
  | token {t : String} {rest : List String} (hopener : isOpener t = false)
      (hcloser : isCloser t = false) (hrest : WellBracketed rest) : WellBracketed (t :: rest)
  | group {o c : String} {inner rest : List String} (hclose : closerOf o = some c)
      (hinner : WellBracketed inner) (hrest : WellBracketed rest) :
      WellBracketed (o :: (inner ++ c :: rest))

/-- One item of a group: something, whose brackets nest, and without a comma outside them. -/
structure IsItem (w : List String) : Prop where
  nonempty : w ≠ []
  brackets : WellBracketed w
  commas : ∀ before after, w = before ++ "," :: after → ¬ WellBracketed before

section

variable {o c t : String} {w inner rest : List String}

theorem isOpener_eq_false_iff : isOpener t = false ↔ closerOf t = none := by
  simp [isOpener]

theorem isOpener_of_closerOf (h : closerOf o = some c) : isOpener o = true := by
  simp [isOpener, h]

/-- A closer is one, opens nothing and is no comma. -/
theorem closer_of_closerOf (h : closerOf o = some c) :
    isCloser c = true ∧ isOpener c = false ∧ c ≠ "," := by
  unfold closerOf at h
  split at h <;> cases h <;> decide

theorem WellBracketed.append (h : WellBracketed w) (hrest : WellBracketed rest) :
    WellBracketed (w ++ rest) := by
  induction h with
  | nil => exact hrest
  | token hopener hcloser _ ih => exact .token hopener hcloser ih
  | group hclose hinner _ _ ih =>
    rw [List.cons_append, List.append_assoc, List.cons_append]
    exact .group hclose hinner ih

/-- An opener is no closer. -/
theorem not_isCloser_of_closerOf (h : closerOf o = some c) : isCloser o = false := by
  unfold closerOf at h
  split at h <;> first | decide | cases h

theorem WellBracketed.countP_eq (h : WellBracketed w) : w.countP isOpener = w.countP isCloser := by
  induction h with
  | nil => rfl
  | token hopener hcloser _ ih => simp [hopener, hcloser, ih]
  | group hclose _ _ ihinner ih =>
    obtain ⟨hcloser, hopener, -⟩ := closer_of_closerOf hclose
    simp only [List.countP_cons, List.countP_append, isOpener_of_closerOf hclose,
      not_isCloser_of_closerOf hclose, hcloser, hopener, ihinner, ih]
    simp
    omega

/-- An item by its commas: each stands after more openers than closers. -/
theorem IsItem.of_count (hne : w ≠ []) (h : WellBracketed w)
    (hcommas : ∀ i < w.length, w[i]? = some "," →
      (w.take i).countP isOpener ≠ (w.take i).countP isCloser) : IsItem w := by
  refine ⟨hne, h, ?_⟩
  rintro before after rfl hbefore
  refine hcommas before.length (by simp) (by simp) ?_
  rw [List.take_left']
  · exact hbefore.countP_eq
  · rfl

/-! ## Groups -/

theorem takeGroup_opener (h : closerOf t = some c) (awaited : List String) :
    takeGroup awaited (t :: rest) =
      (takeGroup (c :: awaited) rest).map fun (a, b) => (t :: a, b) := by
  rw [takeGroup.eq_def]
  simp only [h]

theorem takeGroup_other (h : isOpener t = false) (hne : t ≠ c) (outer : List String) :
    takeGroup (c :: outer) (t :: rest) =
      (takeGroup (c :: outer) rest).map fun (a, b) => (t :: a, b) := by
  rw [takeGroup.eq_def]
  simp only [isOpener_eq_false_iff.mp h, hne, if_false]

theorem takeGroup_closer (h : isOpener c = false) (outer : List String) :
    takeGroup (c :: outer) (c :: rest) =
      match outer with
      | [] => some ([c], rest)
      | next :: others => (takeGroup (next :: others) rest).map fun (a, b) => (c :: a, b) := by
  rw [takeGroup.eq_def]
  simp only [isOpener_eq_false_iff.mp h, if_true]
  cases outer <;> rfl

/-- Within a group, a word whose brackets nest is passed over. -/
theorem takeGroup_append (h : WellBracketed w) {outer : List String} (hc : isCloser c = true) :
    takeGroup (c :: outer) (w ++ rest) =
      (takeGroup (c :: outer) rest).map fun (a, b) => (w ++ a, b) := by
  -- `c` stays the closer awaited: a group in `w` puts its own on top and takes it off again.
  induction h generalizing c outer rest with
  | nil => simp
  | @token t w hopener hcloser _ ih =>
    have hne : t ≠ c := by rintro rfl; rw [hc] at hcloser; cases hcloser
    rw [List.cons_append, takeGroup_other hopener hne, ih hc, Option.map_map]
    rfl
  | @group o c' inner w hclose _ _ ihinner ih =>
    obtain ⟨hcloser, hopener, -⟩ := closer_of_closerOf hclose
    rw [List.cons_append, List.append_assoc, List.cons_append, takeGroup_opener hclose,
      ihinner hcloser, takeGroup_closer hopener]
    simp only [ih hc, Option.map_map]
    congr 1
    funext ⟨a, b⟩
    simp

/-- The group that tokens start with, and what follows it. -/
theorem takeGroup_group (hclose : closerOf o = some c) (h : WellBracketed inner) :
    takeGroup [] (o :: (inner ++ c :: rest)) = some (o :: (inner ++ [c]), rest) := by
  obtain ⟨hcloser, hopener, -⟩ := closer_of_closerOf hclose
  rw [takeGroup_opener hclose, takeGroup_append h hcloser, takeGroup_closer hopener]
  rfl

theorem leadingGroup_group (hclose : closerOf o = some c) (h : WellBracketed inner) :
    leadingGroup (o :: (inner ++ c :: rest)) = o :: (inner ++ [c]) := by
  rw [leadingGroup, takeGroup_group hclose h]

theorem inside_group : inside (o :: (inner ++ [c])) = inner := by
  simp [inside]

/-! ## Items -/

/-- Commas within brackets are not counted. -/
theorem topCommas_nested (h : WellBracketed w) {depth : Int} (hdepth : 0 < depth) :
    topCommas depth (w ++ rest) = topCommas depth rest := by
  induction h generalizing depth rest with
  | nil => rfl
  | token hopener hcloser _ ih =>
    have hne : depth ≠ 0 := by omega
    simp [topCommas, hopener, hcloser, hne, ih hdepth]
  | @group o c inner w hclose _ _ ihinner ih =>
    obtain ⟨hcloser, hopener, -⟩ := closer_of_closerOf hclose
    rw [List.cons_append, List.append_assoc, topCommas, if_pos (isOpener_of_closerOf hclose),
      ihinner (by omega), List.cons_append, topCommas, if_neg (by simp [hopener]), if_pos hcloser,
      Int.add_sub_cancel, ih hdepth]

/-- An item, or what is left of one after a part whose brackets nest, has no comma to count. -/
theorem topCommas_item (h : WellBracketed w)
    (hcommas : ∀ before after, w = before ++ "," :: after → ¬ WellBracketed before) :
    topCommas 0 (w ++ rest) = topCommas 0 rest := by
  induction h with
  | nil => rfl
  | @token t w hopener hcloser _ ih =>
    have hne : t ≠ "," := by rintro rfl; exact hcommas [] w rfl .nil
    have hrest (before after : List String) (hw : w = before ++ "," :: after) :
        ¬ WellBracketed before := fun hbefore =>
      hcommas (t :: before) after (by rw [hw]; rfl) (.token hopener hcloser hbefore)
    simp [topCommas, hopener, hcloser, hne, ih hrest]
  | @group o c inner w hclose hinner _ _ ih =>
    obtain ⟨hcloser, hopener, -⟩ := closer_of_closerOf hclose
    have hrest (before after : List String) (hw : w = before ++ "," :: after) :
        ¬ WellBracketed before := fun hbefore =>
      hcommas (o :: (inner ++ c :: before)) after (by rw [hw]; simp) (.group hclose hinner hbefore)
    rw [List.cons_append, List.append_assoc, topCommas, if_pos (isOpener_of_closerOf hclose),
      topCommas_nested hinner (by omega), List.cons_append, topCommas,
      if_neg (by simp [hopener]), if_pos hcloser]
    exact ih hrest

/-- Items with commas between them: one item more than commas, if there is any. -/
theorem topCommas_items {first : List String} {items : List (List String)}
    (h : ∀ w ∈ first :: items, IsItem w) :
    topCommas 0 (List.intercalate [","] (first :: items)) = items.length := by
  induction items generalizing first with
  | nil =>
    have hfirst := h first (by simp)
    have hcount : topCommas 0 (first ++ []) = topCommas 0 [] :=
      topCommas_item hfirst.brackets hfirst.commas
    simpa [topCommas] using hcount
  | cons next items ih =>
    have hfirst := h first (by simp)
    have hitems := ih fun w hw => h w (List.mem_cons_of_mem _ hw)
    have hcomma : topCommas 0 ("," :: List.intercalate [","] (next :: items)) =
        topCommas 0 (List.intercalate [","] (next :: items)) + 1 := rfl
    rw [List.intercalate_cons_cons, List.append_assoc, topCommas_item hfirst.brackets hfirst.commas,
      List.singleton_append, hcomma, hitems, List.length_cons]

/-- Words whose brackets nest, with commas between them. -/
theorem WellBracketed.intercalate {words : List (List String)}
    (h : ∀ w ∈ words, WellBracketed w) : WellBracketed (List.intercalate [","] words) := by
  match words with
  | [] => exact .nil
  | [w] => simpa using h w (by simp)
  | w :: next :: words =>
    have hrest := WellBracketed.intercalate fun w hw => h w (List.mem_cons_of_mem _ hw)
    rw [List.intercalate_cons_cons, List.append_assoc]
    exact (h w (by simp)).append (.token (by decide) (by decide) hrest)

theorem wellBracketed_items {items : List (List String)} (h : ∀ w ∈ items, IsItem w) :
    WellBracketed (List.intercalate [","] items) :=
  .intercalate fun w hw => (h w hw).brackets

/-- **The items of a group.** -/
theorem countItems_group {items : List (List String)} (h : ∀ w ∈ items, IsItem w) :
    countItems (o :: (List.intercalate [","] items ++ [c])) = items.length := by
  rw [countItems, inside_group]
  cases items with
  | nil => rfl
  | cons first items =>
    have hne : List.intercalate [","] (first :: items) ≠ [] := by
      have hfirst := (h first (by simp)).nonempty
      cases items <;> simp [hfirst]
    split
    · rename_i hnil
      exact absurd hnil hne
    · rw [topCommas_items h, List.length_cons]

end

end Call
end CallPolicy

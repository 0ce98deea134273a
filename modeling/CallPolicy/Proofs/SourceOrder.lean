import CallPolicy.Check

/-!
# CallPolicy.Proofs.SourceOrder

Source order is a stable sort. `Arranges rank xs ys` says what that means without an algorithm:
`ys` holds the same findings as `xs`, lines never go down, columns never go down within a line, and
findings of one position stand as they stood in `xs`.

* `inSourceOrder_arranges`: `Check.inSourceOrder` arranges every list of findings.
* `sublist_inSourceOrder`: leaving findings out does not change the order of the others.
* `inSourceOrder_eq_of_perm`: findings of different positions have one order only.
-/

namespace CallPolicy

/-- A stable sort takes over as they stand those elements that are in order among themselves. -/
theorem filter_mergeSort {β : Type} {le : β → β → Bool}
    (htrans : ∀ a b c, le a b = true → le b c = true → le a c = true)
    (htotal : ∀ a b, (le a b || le b a) = true) {p : β → Bool} {xs : List β}
    (h : (xs.filter p).Pairwise fun a b => le a b = true) :
    (xs.mergeSort le).filter p = xs.filter p := by
  have hsub : (xs.filter p).Sublist (xs.mergeSort le) :=
    List.sublist_mergeSort htrans htotal h List.filter_sublist
  have hkept : (xs.filter p).Sublist ((xs.mergeSort le).filter p) := by
    have h := hsub.filter p
    rwa [List.filter_filter, funext fun a => Bool.and_self (p a)] at h
  have hlen : ((xs.mergeSort le).filter p).length = (xs.filter p).length :=
    ((List.mergeSort_perm xs le).filter p).length_eq
  exact (hkept.eq_of_length hlen.symm).symm

namespace Rank

/-- What is not there ranks as these numbers. -/
theorem ofPosition_eq (line column : Coordinate) :
    ofPosition line column = ⟨line.value?.getD 1000000000, column.value?.getD 0⟩ := rfl

theorem atMost_iff {a b : Rank} :
    a.atMost b = true ↔ a.line < b.line ∨ a.line = b.line ∧ a.column ≤ b.column := by
  simp [atMost]

theorem atMost_self (a : Rank) : a.atMost a = true := by
  rw [atMost_iff]; omega

theorem atMost_trans {a b c : Rank} (hab : a.atMost b = true) (hbc : b.atMost c = true) :
    a.atMost c = true := by
  rw [atMost_iff] at hab hbc ⊢
  omega

theorem atMost_antisymm {a b : Rank} (hab : a.atMost b = true) (hba : b.atMost a = true) :
    a = b := by
  obtain ⟨line, column⟩ := a
  obtain ⟨line', column'⟩ := b
  rw [atMost_iff] at hab hba
  rw [mk.injEq]
  simp only at hab hba
  omega

theorem atMost_total (a b : Rank) : (a.atMost b || b.atMost a) = true := by
  rw [Bool.or_eq_true, atMost_iff, atMost_iff]
  omega

end Rank

namespace Check

/-- `ys` is `xs` by line and then by column, equal positions in the order of `xs`. -/
structure Arranges {β : Type} (rank : β → Rank) (xs ys : List β) : Prop where
  perm : ys.Perm xs
  ordered : ys.Pairwise fun a b =>
    (rank a).line < (rank b).line ∨
      (rank a).line = (rank b).line ∧ (rank a).column ≤ (rank b).column
  stable : ∀ r : Rank, ys.filter (fun y => rank y = r) = xs.filter (fun x => rank x = r)

section

variable {β : Type} (rank : β → Rank)

/-- The order that findings are sorted by. -/
def precedes (a b : β) : Bool := (rank a).atMost (rank b)

theorem precedes_trans (a b c : β) (hab : precedes rank a b = true)
    (hbc : precedes rank b c = true) : precedes rank a c = true :=
  Rank.atMost_trans hab hbc

theorem precedes_total (a b : β) : (precedes rank a b || precedes rank b a) = true :=
  Rank.atMost_total _ _

theorem inSourceOrder_eq (xs : List β) :
    inSourceOrder rank xs = xs.mergeSort (precedes rank) := rfl

/-- Findings of one position are in order already, so the sort takes them over as they stand. -/
theorem filter_inSourceOrder (xs : List β) (r : Rank) :
    (inSourceOrder rank xs).filter (fun y => rank y = r) = xs.filter (fun x => rank x = r) := by
  rw [inSourceOrder_eq]
  refine filter_mergeSort (precedes_trans rank) (precedes_total rank) ?_
  rw [List.pairwise_filter]
  refine List.pairwise_of_forall fun a b ha hb => ?_
  rw [precedes, of_decide_eq_true ha, of_decide_eq_true hb]
  exact Rank.atMost_self r

theorem inSourceOrder_arranges (xs : List β) : Arranges rank xs (inSourceOrder rank xs) where
  perm := List.mergeSort_perm xs _
  ordered := by
    rw [inSourceOrder_eq]
    exact (List.pairwise_mergeSort (precedes_trans rank) (precedes_total rank) xs).imp
      Rank.atMost_iff.mp
  stable := filter_inSourceOrder rank xs

/-- Where a finding is put among sorted ones: all that stand before it come strictly before it, and
none of those behind it does. -/
theorem inSourceOrder_cons (x : β) (xs : List β) :
    ∃ before behind, inSourceOrder rank (x :: xs) = before ++ x :: behind ∧
      inSourceOrder rank xs = before ++ behind ∧
      (∀ b ∈ before, precedes rank x b = false) ∧ ∀ b ∈ behind, precedes rank x b = true := by
  obtain ⟨before, behind, hcons, hrest, hbefore⟩ :=
    List.mergeSort_cons (precedes_trans rank) (precedes_total rank) x xs
  have hsorted := List.pairwise_mergeSort (precedes_trans rank) (precedes_total rank) (x :: xs)
  rw [hcons] at hsorted
  have hbehind := (List.pairwise_cons.mp (List.pairwise_append.mp hsorted).2.1).1
  exact ⟨before, behind, hcons, hrest, fun b hb => by simpa using hbefore b hb, hbehind⟩

/-- What comes strictly before `x`, or what does not, out of a list cut in two at `x`. -/
theorem filter_cut {x : β} {before behind : List β}
    (hbefore : ∀ b ∈ before, precedes rank x b = false)
    (hbehind : ∀ b ∈ behind, precedes rank x b = true) :
    (before ++ behind).filter (fun b => !precedes rank x b) = before ∧
      (before ++ behind).filter (fun b => precedes rank x b) = behind := by
  constructor
  · rw [List.filter_append, List.filter_eq_self.mpr fun b hb => by simp [hbefore b hb],
      List.filter_eq_nil_iff.mpr fun b hb => by simp [hbehind b hb], List.append_nil]
  · rw [List.filter_append, List.filter_eq_nil_iff.mpr fun b hb => by simp [hbefore b hb],
      List.filter_eq_self.mpr hbehind, List.nil_append]

theorem sublist_inSourceOrder {xs ys : List β} (h : xs.Sublist ys) :
    (inSourceOrder rank xs).Sublist (inSourceOrder rank ys) := by
  induction h with
  | slnil => exact List.Sublist.refl _
  | cons y _ ih =>
    obtain ⟨before, behind, hcons, hrest, -, -⟩ := inSourceOrder_cons rank y _
    rw [hcons]
    rw [hrest] at ih
    exact ih.trans (List.Sublist.append_left (List.sublist_cons_self _ _) _)
  | cons_cons x _ ih =>
    -- Both lists are cut in two by `x` alone, so each half goes into its half.
    obtain ⟨before, behind, hcons, hrest, hbefore, hbehind⟩ := inSourceOrder_cons rank x _
    obtain ⟨before', behind', hcons', hrest', hbefore', hbehind'⟩ := inSourceOrder_cons rank x _
    rw [hrest, hrest'] at ih
    have hfront := ih.filter fun b => !precedes rank x b
    have hback := ih.filter fun b => precedes rank x b
    rw [(filter_cut rank hbefore hbehind).1, (filter_cut rank hbefore' hbehind').1] at hfront
    rw [(filter_cut rank hbefore hbehind).2, (filter_cut rank hbefore' hbehind').2] at hback
    rw [hcons, hcons']
    exact hfront.append (hback.cons_cons x)

/-- If no two findings have one position, the order they are given in does not matter. -/
theorem inSourceOrder_eq_of_perm {xs ys : List β} (h : ys.Perm xs)
    (hdifferent : xs.Pairwise fun a b => rank a ≠ rank b) :
    inSourceOrder rank ys = inSourceOrder rank xs := by
  have hsame : ∀ a ∈ xs, ∀ b ∈ xs, rank a = rank b → a = b := by
    refine List.Pairwise.forall_of_forall_of_flip (fun _ _ _ => rfl) ?_ ?_
    · exact hdifferent.imp fun hne heq => absurd heq hne
    · exact hdifferent.imp fun hne heq => absurd heq.symm hne
  have hperm : (inSourceOrder rank ys).Perm (inSourceOrder rank xs) :=
    ((List.mergeSort_perm ys _).trans h).trans (List.mergeSort_perm xs _).symm
  refine hperm.eq_of_pairwise ?_
    (List.pairwise_mergeSort (precedes_trans rank) (precedes_total rank) ys)
    (List.pairwise_mergeSort (precedes_trans rank) (precedes_total rank) xs)
  intro a b ha hb hab hba
  have ha' : a ∈ xs := h.mem_iff.mp (List.mem_mergeSort.mp ha)
  exact hsame a ha' b (List.mem_mergeSort.mp hb) (Rank.atMost_antisymm hab hba)

end

end Check
end CallPolicy

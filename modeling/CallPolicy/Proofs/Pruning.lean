import CallPolicy.Proofs.Places
import CallPolicy.Walk

/-!
# CallPolicy.Proofs.Pruning

What a tree is left with when the nodes of other files go, without walking it. `Kept` says it of the
places of the tree: a place stays when its node and all nodes above it belong to the target.
`Tree.pruned` says it of the tree.

* `keptPlaces_map_pruned`: the places of the pruned tree are the kept places, in the same order.
* `children_pruned`: and have the kept children of these as their children.
-/

namespace CallPolicy

/-- The node belongs to the target: there is no target, the node lies in no file, or its file has
the target as its path. -/
def Keeps (realpath : String → String) (target : Option String) (f : Facts) : Prop :=
  target = none ∨ target = some "" ∨ f.file = none ∨ f.file = some "" ∨
    f.file.map realpath = target

instance (realpath : String → String) (target : Option String) (f : Facts) :
    Decidable (Keeps realpath target f) :=
  inferInstanceAs (Decidable (_ ∨ _ ∨ _ ∨ _ ∨ _))

/-- The node at the place and all above it belong to the target. -/
def Kept (realpath : String → String) (target : Option String) (p : Place) : Prop :=
  Keeps realpath target p.facts ∧ ∀ a ∈ p.above, Keeps realpath target a.1.facts

instance (realpath : String → String) (target : Option String) (p : Place) :
    Decidable (Kept realpath target p) :=
  inferInstanceAs (Decidable (_ ∧ _))

mutual

/-- What is left of a tree whose root stays. -/
def Tree.pruned (realpath : String → String) (target : Option String) : Tree → Tree
  | .node facts children => .node facts.attached (prunedAll realpath target children)

def prunedAll (realpath : String → String) (target : Option String) : List Tree → List Tree
  | [] => []
  | t :: rest =>
    if Keeps realpath target t.facts then
      t.pruned realpath target :: prunedAll realpath target rest
    else prunedAll realpath target rest

end

section

variable (realpath : String → String) (target : Option String)

/-- The nodes above a place, pruned: children left out before the way down move it to the left. -/
def prunedAbove (above : List (Tree × Nat)) : List (Tree × Nat) :=
  above.map fun (t, i) =>
    (t.pruned realpath target,
      (t.children.take i).countP fun c => decide (Keeps realpath target c.facts))

/-- Where a kept place is found in the pruned tree. -/
def Place.pruned (p : Place) : Place :=
  ⟨p.tree.pruned realpath target, prunedAbove realpath target p.above⟩

/-- The places of a tree that stay. -/
def keptPlaces (t : Tree) : List Place :=
  (t.places []).filter fun p => Kept realpath target p

end

variable {realpath : String → String} {target : Option String}

theorem Tree.pruned_node (facts : Facts) (children : List Tree) :
    (Tree.node facts children).pruned realpath target =
      .node facts.attached (prunedAll realpath target children) := by
  rw [Tree.pruned]

@[simp] theorem prunedAll_nil : prunedAll realpath target [] = [] := by
  rw [prunedAll]

theorem prunedAll_cons_of_keeps {t : Tree} (h : Keeps realpath target t.facts) (rest : List Tree) :
    prunedAll realpath target (t :: rest) =
      t.pruned realpath target :: prunedAll realpath target rest := by
  rw [prunedAll, if_pos h]

theorem prunedAll_cons_of_not_keeps {t : Tree} (h : ¬ Keeps realpath target t.facts)
    (rest : List Tree) :
    prunedAll realpath target (t :: rest) = prunedAll realpath target rest := by
  rw [prunedAll, if_neg h]

theorem Tree.pruned_facts (t : Tree) : (t.pruned realpath target).facts = t.facts.attached := by
  cases t; rw [Tree.pruned_node]; rfl

theorem Tree.pruned_children (t : Tree) :
    (t.pruned realpath target).children = prunedAll realpath target t.children := by
  cases t; rw [Tree.pruned_node]; rfl

theorem prunedAbove_cons (t : Tree) (i : Nat) (above : List (Tree × Nat)) :
    prunedAbove realpath target ((t, i) :: above) =
      (t.pruned realpath target,
        (t.children.take i).countP fun c => decide (Keeps realpath target c.facts)) ::
        prunedAbove realpath target above := rfl

theorem kept_child_iff {t parent : Tree} {i : Nat} {above : List (Tree × Nat)}
    (h : Kept realpath target ⟨parent, above⟩) :
    Kept realpath target ⟨t, (parent, i) :: above⟩ ↔ Keeps realpath target t.facts := by
  constructor
  · exact fun hk => hk.1
  · intro hk
    refine ⟨hk, ?_⟩
    intro a ha
    rcases List.mem_cons.mp ha with rfl | ha
    · exact h.1
    · exact h.2 a ha

/-- A place below one that goes has it, or one above it, among the nodes above it. -/
theorem Kept.of_child {t parent : Tree} {i : Nat} {above : List (Tree × Nat)}
    (h : Kept realpath target ⟨t, (parent, i) :: above⟩) : Kept realpath target ⟨parent, above⟩ :=
  ⟨h.2 _ List.mem_cons_self, fun a ha => h.2 a (List.mem_cons_of_mem _ ha)⟩

/-! ## Kept places and the pruned tree -/

mutual

theorem kept_root {q : Place} (hq : Kept realpath target q) :
    ∀ (t : Tree) (above : List (Tree × Nat)), q ∈ t.places above → Kept realpath target ⟨t, above⟩
  | .node facts children, above, h => by
    rw [Tree.places_node, List.mem_cons] at h
    rcases h with rfl | h
    · exact hq
    · exact kept_parent hq _ _ _ _ h

theorem kept_parent {q : Place} (hq : Kept realpath target q) :
    ∀ (parent : Tree) (above : List (Tree × Nat)) (index : Nat) (ts : List Tree),
      q ∈ placesOfChildren parent above index ts → Kept realpath target ⟨parent, above⟩
  | parent, above, index, [], h => by rw [placesOfChildren_nil] at h; cases h
  | parent, above, index, t :: rest, h => by
    rw [placesOfChildren_cons, List.mem_append] at h
    rcases h with h | h
    · exact (kept_root hq t _ h).of_child
    · exact kept_parent hq parent above (index + 1) rest h

end

theorem filter_places_of_not_kept {t : Tree} {above : List (Tree × Nat)}
    (h : ¬ Kept realpath target ⟨t, above⟩) :
    (t.places above).filter (fun p => Kept realpath target p) = [] := by
  rw [List.filter_eq_nil_iff]
  intro q hq hk
  exact h (kept_root (of_decide_eq_true hk) t above hq)

mutual

/-- The recursion of the pruned tree runs beside that of the tree. Of the children of one node,
those before the current one are `before`: they tell both its index and its index among the kept
ones. -/
theorem filter_places_map_pruned :
    ∀ (t : Tree) (above : List (Tree × Nat)), Kept realpath target ⟨t, above⟩ →
      ((t.places above).filter fun p => Kept realpath target p).map (Place.pruned realpath target) =
        (t.pruned realpath target).places (prunedAbove realpath target above)
  | .node facts children, above, hk => by
    have hrest := filter_placesOfChildren_map_pruned hk [] children rfl
    rw [Tree.places_node, List.filter_cons_of_pos (by simpa using hk), List.map_cons]
    rw [List.length_nil] at hrest
    rw [hrest, Tree.pruned_node, Tree.places_node, Place.pruned, Tree.pruned_node]
    rfl

theorem filter_placesOfChildren_map_pruned {parent : Tree} {above : List (Tree × Nat)}
    (hk : Kept realpath target ⟨parent, above⟩) :
    ∀ (before ts : List Tree), parent.children = before ++ ts →
      ((placesOfChildren parent above before.length ts).filter
          fun p => Kept realpath target p).map (Place.pruned realpath target) =
        placesOfChildren (parent.pruned realpath target) (prunedAbove realpath target above)
          (before.countP fun c => decide (Keeps realpath target c.facts))
          (prunedAll realpath target ts)
  | before, [], _ => by simp [placesOfChildren_nil]
  | before, t :: rest, hparent => by
    have hrest := filter_placesOfChildren_map_pruned hk (before ++ [t]) rest (by simp [hparent])
    rw [List.length_append, List.length_singleton, List.countP_append, List.countP_singleton]
      at hrest
    rw [placesOfChildren_cons, List.filter_append, List.map_append, hrest]
    by_cases ht : Keeps realpath target t.facts
    · have hbefore : parent.children.take before.length = before := by simp [hparent]
      rw [filter_places_map_pruned t _ ((kept_child_iff hk).mpr ht), prunedAbove_cons, hbefore,
        prunedAll_cons_of_keeps ht, placesOfChildren_cons]
      simp [ht]
    · rw [filter_places_of_not_kept (fun h => ht ((kept_child_iff hk).mp h)),
        prunedAll_cons_of_not_keeps ht]
      simp [ht]

end

theorem keptPlaces_map_pruned {t : Tree} (h : Keeps realpath target t.facts) :
    (keptPlaces realpath target t).map (Place.pruned realpath target) =
      (t.pruned realpath target).places [] :=
  filter_places_map_pruned t [] ⟨h, fun _ ha => absurd ha List.not_mem_nil⟩

theorem keptPlaces_eq_nil {t : Tree} (h : ¬ Keeps realpath target t.facts) :
    keptPlaces realpath target t = [] :=
  filter_places_of_not_kept fun hk => h hk.1

theorem filter_childPlaces_map_pruned {parent : Tree} {above : List (Tree × Nat)}
    (hk : Kept realpath target ⟨parent, above⟩) :
    ∀ (before ts : List Tree), parent.children = before ++ ts →
      ((childPlaces parent above before.length ts).filter
          fun p => Kept realpath target p).map (Place.pruned realpath target) =
        childPlaces (parent.pruned realpath target) (prunedAbove realpath target above)
          (before.countP fun c => decide (Keeps realpath target c.facts))
          (prunedAll realpath target ts) := by
  intro before ts
  induction ts generalizing before with
  | nil => intro _; rfl
  | cons t rest ih =>
    intro hparent
    have hrest := ih (before ++ [t]) (by simp [hparent])
    rw [List.length_append, List.length_singleton, List.countP_append, List.countP_singleton]
      at hrest
    have hbefore : parent.children.take before.length = before := by simp [hparent]
    by_cases ht : Keeps realpath target t.facts
    · rw [childPlaces_cons, List.filter_cons_of_pos (by simpa [kept_child_iff hk] using ht),
        List.map_cons, hrest, prunedAll_cons_of_keeps ht, childPlaces_cons]
      simp [ht, Place.pruned, prunedAbove_cons, hbefore]
    · rw [childPlaces_cons, List.filter_cons_of_neg (by simpa [kept_child_iff hk] using ht), hrest,
        prunedAll_cons_of_not_keeps ht]
      simp [ht]

/-- In the pruned tree a kept place has its kept children, in order. -/
theorem children_pruned {p : Place} (h : Kept realpath target p) :
    (p.pruned realpath target).children =
      (p.children.filter fun q => Kept realpath target q).map (Place.pruned realpath target) := by
  have hkids := filter_childPlaces_map_pruned (show Kept realpath target ⟨p.tree, p.above⟩ from h)
    [] p.tree.children rfl
  rw [List.length_nil] at hkids
  rw [Place.children_eq p, hkids, Place.children_eq, Place.pruned, Tree.pruned_children]
  rfl

end CallPolicy

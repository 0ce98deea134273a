import CallPolicy.Tree

/-!
# CallPolicy.Proofs.Places

The places of a tree, which `Tree.places` lists parents first.

* `paths_nodup`: no two places of the list have the same way down.
* `parent_mem_places`: what is above a place of the list is in the list as well, and has the place
  among its children.
* `children_mem_places`: so are the children of a place of the list.
-/

namespace CallPolicy

/-- Trees side by side as children of `parent`, the first of them with the given index. -/
def childPlaces (parent : Tree) (above : List (Tree × Nat)) (index : Nat) (children : List Tree) :
    List Place :=
  (children.zipIdx index).map fun (t, i) => ⟨t, (parent, i) :: above⟩

@[simp] theorem childPlaces_nil (parent : Tree) (above : List (Tree × Nat)) (index : Nat) :
    childPlaces parent above index [] = [] := rfl

@[simp] theorem childPlaces_cons (parent : Tree) (above : List (Tree × Nat)) (index : Nat)
    (t : Tree) (rest : List Tree) :
    childPlaces parent above index (t :: rest) =
      ⟨t, (parent, index) :: above⟩ :: childPlaces parent above (index + 1) rest := rfl

namespace Place

theorem children_eq (p : Place) : p.children = childPlaces p.tree p.above 0 p.tree.children := rfl

theorem children_map_tree (p : Place) : p.children.map Place.tree = p.tree.children := by
  rw [children, List.map_map]
  exact List.zipIdx_map_fst 0 p.tree.children

theorem getElem?_children {p : Place} {i : Nat} {q : Place} :
    p.children[i]? = some q ↔
      p.tree.children[i]? = some q.tree ∧ q.above = (p.tree, i) :: p.above := by
  obtain ⟨t, above⟩ := q
  simp only [children, List.getElem?_map, List.getElem?_zipIdx, Option.map_map,
    Option.map_eq_some_iff, Function.comp_apply, Place.mk.injEq, Nat.zero_add]
  constructor
  · rintro ⟨u, hu, rfl, rfl⟩
    exact ⟨hu, rfl⟩
  · rintro ⟨hu, rfl⟩
    exact ⟨t, hu, rfl, rfl⟩

/-- What is above a place tells its parent and its index. -/
theorem parent_unique {p q r : Place} {i j : Nat} (hq : p.above = (q.tree, i) :: q.above)
    (hr : p.above = (r.tree, j) :: r.above) : q = r ∧ i = j := by
  rw [hq] at hr
  obtain ⟨hhead, habove⟩ := List.cons.inj hr
  obtain ⟨htree, hindex⟩ := Prod.mk.inj hhead
  cases q
  cases r
  exact ⟨by simp_all, hindex⟩

theorem above_of_mem_children {p q : Place} (h : q ∈ p.children) :
    ∃ i, q.above = (p.tree, i) :: p.above := by
  obtain ⟨i, hi⟩ := List.getElem?_of_mem h
  exact ⟨i, (getElem?_children.mp hi).2⟩

end Place

/-- The way down to what is above. -/
def wayTo (above : List (Tree × Nat)) : List Nat := (above.map (·.2)).reverse

theorem Place.path_eq (p : Place) : p.path = wayTo p.above := rfl

theorem wayTo_cons (t : Tree) (i : Nat) (above : List (Tree × Nat)) :
    wayTo ((t, i) :: above) = wayTo above ++ [i] := by
  simp [wayTo]

theorem Tree.places_node (above : List (Tree × Nat)) (facts : Facts) (children : List Tree) :
    (Tree.node facts children).places above =
      ⟨.node facts children, above⟩ ::
        placesOfChildren (.node facts children) above 0 children := by
  rw [Tree.places]

theorem placesOfChildren_cons (parent : Tree) (above : List (Tree × Nat)) (index : Nat) (t : Tree)
    (rest : List Tree) :
    placesOfChildren parent above index (t :: rest) =
      t.places ((parent, index) :: above) ++ placesOfChildren parent above (index + 1) rest := by
  rw [placesOfChildren]

theorem placesOfChildren_nil (parent : Tree) (above : List (Tree × Nat)) (index : Nat) :
    placesOfChildren parent above index [] = [] := by
  rw [placesOfChildren]

theorem Tree.places_head (t : Tree) (above : List (Tree × Nat)) :
    (t.places above)[0]? = some ⟨t, above⟩ := by
  cases t with
  | node facts children => rw [Tree.places_node]; rfl

theorem Tree.root_mem_places (t : Tree) (above : List (Tree × Nat)) :
    ⟨t, above⟩ ∈ t.places above :=
  List.mem_of_getElem? (t.places_head above)

/-! ## Ways down -/

mutual

theorem path_of_mem_places {q : Place} :
    ∀ (t : Tree) (above : List (Tree × Nat)), q ∈ t.places above →
      ∃ way, q.path = wayTo above ++ way
  | .node facts children, above, h => by
    rw [Tree.places_node, List.mem_cons] at h
    rcases h with rfl | h
    · exact ⟨[], by simp [Place.path_eq]⟩
    · obtain ⟨i, way, -, hway⟩ := path_of_mem_placesOfChildren _ _ _ _ h
      exact ⟨i :: way, hway⟩

theorem path_of_mem_placesOfChildren {q : Place} :
    ∀ (parent : Tree) (above : List (Tree × Nat)) (index : Nat) (ts : List Tree),
      q ∈ placesOfChildren parent above index ts →
      ∃ i way, index ≤ i ∧ q.path = wayTo above ++ i :: way
  | parent, above, index, [], h => by rw [placesOfChildren_nil] at h; cases h
  | parent, above, index, t :: rest, h => by
    rw [placesOfChildren_cons, List.mem_append] at h
    rcases h with h | h
    · obtain ⟨way, hway⟩ := path_of_mem_places t _ h
      exact ⟨index, way, Nat.le_refl _, by rw [hway, wayTo_cons]; simp⟩
    · obtain ⟨i, way, hi, hway⟩ := path_of_mem_placesOfChildren parent above (index + 1) rest h
      exact ⟨i, way, by omega, hway⟩

end

mutual

theorem paths_nodup :
    ∀ (t : Tree) (above : List (Tree × Nat)), ((t.places above).map Place.path).Nodup
  | .node facts children, above => by
    rw [Tree.places_node, List.map_cons, List.nodup_cons]
    refine ⟨?_, paths_nodup_children _ _ _ _⟩
    intro h
    obtain ⟨q, hq, hpath⟩ := List.mem_map.mp h
    obtain ⟨i, way, -, hway⟩ := path_of_mem_placesOfChildren _ _ _ _ hq
    rw [hway, Place.path_eq] at hpath
    simp at hpath

theorem paths_nodup_children :
    ∀ (parent : Tree) (above : List (Tree × Nat)) (index : Nat) (ts : List Tree),
      ((placesOfChildren parent above index ts).map Place.path).Nodup
  | parent, above, index, [] => by rw [placesOfChildren_nil]; exact List.nodup_nil
  | parent, above, index, t :: rest => by
    rw [placesOfChildren_cons, List.map_append, List.nodup_append]
    refine ⟨paths_nodup t _, paths_nodup_children parent above (index + 1) rest, ?_⟩
    -- below the first child the way goes on with `index`, below a later one with a greater index
    intro a ha b hb hab
    obtain ⟨q, hq, rfl⟩ := List.mem_map.mp ha
    obtain ⟨r, hr, rfl⟩ := List.mem_map.mp hb
    obtain ⟨way, hway⟩ := path_of_mem_places t _ hq
    obtain ⟨i, way', hi, hway'⟩ := path_of_mem_placesOfChildren _ _ _ _ hr
    rw [hway, hway', wayTo_cons, List.append_assoc, List.append_cancel_left_eq] at hab
    simp only [List.cons_append, List.nil_append, List.cons.injEq] at hab
    omega

end

theorem places_nodup (t : Tree) (above : List (Tree × Nat)) : (t.places above).Nodup :=
  List.Pairwise.of_map Place.path (fun _ _ hne heq => hne (congrArg Place.path heq))
    (paths_nodup t above)

theorem index_unique {ps : List Place} (h : ps.Nodup) {i j : Nat} {p : Place}
    (hi : ps[i]? = some p) (hj : ps[j]? = some p) : i = j :=
  (List.getElem?_inj (List.getElem?_eq_some_iff.mp hi).1 h).mp (hi.trans hj.symm)

/-! ## Neighbours -/

theorem childPlaces_subset (parent : Tree) (above : List (Tree × Nat)) (ts : List Tree) :
    ∀ index, ∀ q ∈ childPlaces parent above index ts,
      q ∈ placesOfChildren parent above index ts := by
  induction ts with
  | nil => intro index q h; cases h
  | cons t rest ih =>
    intro index q h
    rw [placesOfChildren_cons, List.mem_append]
    rw [childPlaces_cons, List.mem_cons] at h
    rcases h with rfl | h
    · exact Or.inl (t.root_mem_places _)
    · exact Or.inr (ih _ q h)

mutual

theorem children_mem_places {p q : Place} (hq : q ∈ p.children) :
    ∀ (t : Tree) (above : List (Tree × Nat)), p ∈ t.places above → q ∈ t.places above
  | .node facts children, above, h => by
    rw [Tree.places_node, List.mem_cons] at h ⊢
    rcases h with rfl | h
    · exact Or.inr (childPlaces_subset _ _ _ _ q hq)
    · exact Or.inr (children_mem_placesOfChildren hq _ _ _ _ h)

theorem children_mem_placesOfChildren {p q : Place} (hq : q ∈ p.children) :
    ∀ (parent : Tree) (above : List (Tree × Nat)) (index : Nat) (ts : List Tree),
      p ∈ placesOfChildren parent above index ts → q ∈ placesOfChildren parent above index ts
  | parent, above, index, [], h => by rw [placesOfChildren_nil] at h; cases h
  | parent, above, index, t :: rest, h => by
    rw [placesOfChildren_cons, List.mem_append] at h ⊢
    rcases h with h | h
    · exact Or.inl (children_mem_places hq t _ h)
    · exact Or.inr (children_mem_placesOfChildren hq parent above (index + 1) rest h)

end

mutual

/-- Every place but the root is a child of a place of the same list. -/
theorem parent_mem_places {q : Place} :
    ∀ (t : Tree) (above : List (Tree × Nat)), q ∈ t.places above →
      q = ⟨t, above⟩ ∨ ∃ p ∈ t.places above, q ∈ p.children
  | .node facts children, above, h => by
    rw [Tree.places_node, List.mem_cons] at h
    rcases h with rfl | h
    · exact Or.inl rfl
    · right
      rcases parent_mem_placesOfChildren _ _ _ _ h with h | ⟨p, hp, hq⟩
      · exact ⟨_, Tree.root_mem_places _ _, h⟩
      · exact ⟨p, by rw [Tree.places_node]; exact List.mem_cons_of_mem _ hp, hq⟩

theorem parent_mem_placesOfChildren {q : Place} :
    ∀ (parent : Tree) (above : List (Tree × Nat)) (index : Nat) (ts : List Tree),
      q ∈ placesOfChildren parent above index ts →
      q ∈ childPlaces parent above index ts ∨
        ∃ p ∈ placesOfChildren parent above index ts, q ∈ p.children
  | parent, above, index, [], h => by rw [placesOfChildren_nil] at h; cases h
  | parent, above, index, t :: rest, h => by
    rw [placesOfChildren_cons] at h ⊢
    rw [childPlaces_cons]
    rcases List.mem_append.mp h with h | h
    · rcases parent_mem_places t _ h with rfl | ⟨p, hp, hq⟩
      · exact Or.inl List.mem_cons_self
      · exact Or.inr ⟨p, List.mem_append_left _ hp, hq⟩
    · rcases parent_mem_placesOfChildren parent above (index + 1) rest h with h | ⟨p, hp, hq⟩
      · exact Or.inl (List.mem_cons_of_mem _ h)
      · exact Or.inr ⟨p, List.mem_append_right _ hp, hq⟩

end

end CallPolicy

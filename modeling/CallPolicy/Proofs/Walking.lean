import CallPolicy.Proofs.Layout

/-!
# CallPolicy.Proofs.Walking

What a walk adds to a store, told by the tree that is walked: a node for each place that stays, in
the order of the tree, linked as the places lie to each other.

* `visit_mirrors`: so a walk does for every tree, target and store, with remembered paths as well as
  with paths resolved each time; or it adds nothing, when the root goes.
-/

namespace CallPolicy

section

variable {realpath : String → String} {target : Option String} {t : Tree} {p q : Place}

theorem mem_keptPlaces :
    p ∈ keptPlaces realpath target t ↔ p ∈ t.places [] ∧ Kept realpath target p := by
  simp [keptPlaces]

theorem keptPlaces_nodup : (keptPlaces realpath target t).Nodup :=
  (places_nodup t []).filter _

theorem child_mem_keptPlaces (hp : p ∈ keptPlaces realpath target t) (hq : q ∈ p.children)
    (hkept : Kept realpath target q) : q ∈ keptPlaces realpath target t :=
  mem_keptPlaces.mpr ⟨children_mem_places hq t [] (mem_keptPlaces.mp hp).1, hkept⟩

theorem parent_mem_keptPlaces (hp : p ∈ keptPlaces realpath target t) :
    p.above = [] ∨ ∃ q ∈ keptPlaces realpath target t, p ∈ q.children := by
  obtain ⟨hplace, hkept⟩ := mem_keptPlaces.mp hp
  rcases parent_mem_places t [] hplace with rfl | ⟨q, hq, hchild⟩
  · exact Or.inl rfl
  · right
    obtain ⟨i, habove⟩ := Place.above_of_mem_children hchild
    have hkept' : Kept realpath target ⟨p.tree, (q.tree, i) :: q.above⟩ := by
      rw [← habove]; exact hkept
    exact ⟨q, mem_keptPlaces.mpr ⟨hq, hkept'.of_child⟩, hchild⟩

theorem above_pruned {i : Nat} (h : p.above = (q.tree, i) :: q.above) :
    ∃ k, (p.pruned realpath target).above =
      ((q.pruned realpath target).tree, k) :: (q.pruned realpath target).above := by
  rw [Place.pruned, h, prunedAbove_cons]
  exact ⟨_, rfl⟩

theorem getElem?_pruned (h : Keeps realpath target t.facts) {i : Nat}
    (hp : (keptPlaces realpath target t)[i]? = some p) :
    ((t.pruned realpath target).places [])[i]? = some (p.pruned realpath target) := by
  rw [← keptPlaces_map_pruned h, List.getElem?_map, hp]
  rfl

/-- A place of the pruned tree has one index, there and among the kept places. -/
theorem getElem?_of_pruned (h : Keeps realpath target t.facts) {i : Nat}
    (hp : p ∈ keptPlaces realpath target t)
    (hi : ((t.pruned realpath target).places [])[i]? = some (p.pruned realpath target)) :
    (keptPlaces realpath target t)[i]? = some p := by
  obtain ⟨j, hj⟩ := List.getElem?_of_mem hp
  obtain rfl : i = j := index_unique (places_nodup _ _) hi (getElem?_pruned h hj)
  exact hj

end

namespace Walk

/-- `made` are nodes for the kept places, that for the `i`-th kept at `first + i`. -/
structure Mirrors (realpath : String → String) (target : Option String) (parent : Option Link)
    (first : Nat) (kept : List Place) (made : List Node) : Prop where
  facts : made.map Node.facts = kept.map fun p => p.facts.attached
  /-- The root has the parent that is given, any other node that of the place above. -/
  parent : ∀ (i : Nat) (p : Place) (n : Node), kept[i]? = some p → made[i]? = some n →
    p.above = [] ∧ n.parent = parent ∨
      ∃ j q, kept[j]? = some q ∧ p ∈ q.children ∧ n.parent = some (first + j)
  children : ∀ (i : Nat) (p : Place) (n : Node), kept[i]? = some p → made[i]? = some n →
    List.Forall₂ (fun c q => ∃ j, kept[j]? = some q ∧ c = first + j) n.children
      (p.children.filter fun q => Kept realpath target q)

/-- A node is among the children of another if and only if it has the other as its parent. -/
def Mutual (first : Nat) (made : List Node) : Prop :=
  ∀ (i j : Nat) (m n : Node), made[i]? = some m → made[j]? = some n →
    (first + j ∈ m.children ↔ n.parent = some (first + i))

section

variable {realpath : String → String} {target : Option String} {t : Tree}

theorem linked_facts {first i : Nat} {p : Place} {n : Node}
    (h : Linked first ((t.pruned realpath target).places []) i (p.pruned realpath target) n) :
    n.facts = p.facts.attached :=
  h.facts.trans p.tree.pruned_facts

theorem linked_children (hk : Keeps realpath target t.facts) {first i : Nat} {p : Place} {n : Node}
    (hp : (keptPlaces realpath target t)[i]? = some p)
    (h : Linked first ((t.pruned realpath target).places []) i (p.pruned realpath target) n) :
    List.Forall₂ (fun c q => ∃ j, (keptPlaces realpath target t)[j]? = some q ∧ c = first + j)
      n.children (p.children.filter fun q => Kept realpath target q) := by
  have hmem := List.mem_of_getElem? hp
  have hkids := h.children
  rw [children_pruned (mem_keptPlaces.mp hmem).2, List.forall₂_map_right_iff] at hkids
  obtain ⟨hlen, hzip⟩ := List.forall₂_iff_zip.mp hkids
  refine List.forall₂_iff_zip.mpr ⟨hlen, ?_⟩
  intro c q hcq
  obtain ⟨j, -, hj, hc⟩ := hzip hcq
  obtain ⟨hchild, hkept⟩ := List.mem_filter.mp (List.of_mem_zip hcq).2
  have hqmem := child_mem_keptPlaces hmem hchild (of_decide_eq_true hkept)
  exact ⟨j, getElem?_of_pruned hk hqmem hj, hc⟩

theorem parentLinked_parent (hk : Keeps realpath target t.facts) {first i : Nat} {p : Place}
    {n : Node} (hp : p ∈ keptPlaces realpath target t)
    (h : ParentLinked first ((t.pruned realpath target).places []) i (p.pruned realpath target) n) :
    ∃ j q, (keptPlaces realpath target t)[j]? = some q ∧ p ∈ q.children ∧
      n.parent = some (first + j) := by
  obtain ⟨j, r, k, -, hj, habove, hparent⟩ := h
  rcases parent_mem_keptPlaces hp with hroot | ⟨q, hq, hchild⟩
  · rw [Place.pruned, hroot] at habove
    cases habove
  · refine ⟨j, q, getElem?_of_pruned hk hq ?_, hchild, hparent⟩
    obtain ⟨i', hi'⟩ := Place.above_of_mem_children hchild
    obtain ⟨k', habove'⟩ := above_pruned hi'
    rw [hj, (Place.parent_unique habove habove').1]

theorem layout_mirrors (hk : Keeps realpath target t.facts) (parent : Option Link) (first : Nat) :
    Mirrors realpath target parent first (keptPlaces realpath target t)
      (layout parent first (t.pruned realpath target)) := by
  have hlen : (keptPlaces realpath target t).length =
      (layout parent first (t.pruned realpath target)).length := by
    rw [layout_length, ← places_length _ [], ← keptPlaces_map_pruned hk, List.length_map]
  constructor
  · refine List.ext_getElem (by rw [List.length_map, List.length_map, hlen]) ?_
    intro i hi hi'
    rw [List.length_map] at hi hi'
    rw [List.getElem_map, List.getElem_map]
    have hp := List.getElem?_eq_getElem hi'
    exact linked_facts (layout_links (getElem?_pruned hk hp) (List.getElem?_eq_getElem hi)).1
  · intro i p n hp hn
    rcases (layout_links (getElem?_pruned hk hp) hn).2 with ⟨habove, hparent⟩ | hparent
    · exact Or.inl ⟨List.map_eq_nil_iff.mp habove, hparent⟩
    · exact Or.inr (parentLinked_parent hk (List.mem_of_getElem? hp) hparent)
  · intro i p n hp hn
    exact linked_children hk hp (layout_links (getElem?_pruned hk hp) hn).1

section

variable {parent : Option Link} {first i j : Nat} {p q : Place} {m n : Node} {made : List Node}

theorem Mirrors.length_eq {kept : List Place} (h : Mirrors realpath target parent first kept made) :
    made.length = kept.length := by
  simpa using congrArg List.length h.facts

theorem Mirrors.mem_children_iff
    (h : Mirrors realpath target parent first (keptPlaces realpath target t) made)
    (hp : (keptPlaces realpath target t)[i]? = some p) (hm : made[i]? = some m)
    (hq : (keptPlaces realpath target t)[j]? = some q) :
    first + j ∈ m.children ↔ q ∈ p.children := by
  have hkids := h.children i p m hp hm
  constructor
  · intro hmem
    obtain ⟨k, hk, hget⟩ := List.getElem_of_mem hmem
    have hk' : k < (p.children.filter fun q => Kept realpath target q).length :=
      hkids.length_eq ▸ hk
    obtain ⟨j', hj', hc⟩ := hkids.get hk hk'
    rw [List.get_eq_getElem, hget] at hc
    obtain rfl : j = j' := Nat.add_left_cancel hc
    have hchild := List.getElem_mem hk'
    obtain rfl : q = _ := Option.some.inj (hq.symm.trans hj')
    exact (List.mem_filter.mp hchild).1
  · intro hchild
    have hkept := (mem_keptPlaces.mp (List.mem_of_getElem? hq)).2
    have hmem : q ∈ p.children.filter fun q => Kept realpath target q :=
      List.mem_filter.mpr ⟨hchild, decide_eq_true hkept⟩
    obtain ⟨k, hk, hget⟩ := List.getElem_of_mem hmem
    have hk' : k < m.children.length := hkids.length_eq ▸ hk
    obtain ⟨j', hj', hc⟩ := hkids.get hk' hk
    rw [List.get_eq_getElem, hget] at hj'
    obtain rfl : j = j' := index_unique keptPlaces_nodup hq hj'
    rw [← hc]
    exact List.getElem_mem hk'

/-- The parent that is given is none of the nodes made. -/
theorem Mirrors.parent_eq_iff
    (h : Mirrors realpath target parent first (keptPlaces realpath target t) made)
    (hparent : ∀ l ∈ parent, l < first)
    (hp : (keptPlaces realpath target t)[i]? = some p)
    (hq : (keptPlaces realpath target t)[j]? = some q) (hn : made[j]? = some n) :
    n.parent = some (first + i) ↔ q ∈ p.children := by
  constructor
  · intro hi
    rcases h.parent j q n hq hn with ⟨-, hgiven⟩ | ⟨i', r, hr, hchild, hlink⟩
    · have hlt : first + i < first := hparent _ (hgiven.symm.trans hi)
      omega
    · obtain rfl : i = i' := Nat.add_left_cancel (Option.some.inj (hi.symm.trans hlink))
      obtain rfl : p = r := Option.some.inj (hp.symm.trans hr)
      exact hchild
  · intro hchild
    obtain ⟨k, hk⟩ := Place.above_of_mem_children hchild
    rcases h.parent j q n hq hn with ⟨habove, -⟩ | ⟨i', r, hr, hchild', hlink⟩
    · rw [habove] at hk
      cases hk
    · obtain ⟨l, hl⟩ := Place.above_of_mem_children hchild'
      obtain ⟨rfl, -⟩ := Place.parent_unique hk hl
      obtain rfl : i = i' := index_unique keptPlaces_nodup hp hr
      exact hlink

theorem Mirrors.mutual
    (h : Mirrors realpath target parent first (keptPlaces realpath target t) made)
    (hparent : ∀ l ∈ parent, l < first) : Mutual first made := by
  intro i j m n hm hn
  have hi : i < made.length := (List.getElem?_eq_some_iff.mp hm).1
  have hj : j < made.length := (List.getElem?_eq_some_iff.mp hn).1
  rw [h.length_eq] at hi hj
  have hp := List.getElem?_eq_getElem hi
  have hq := List.getElem?_eq_getElem hj
  rw [h.mem_children_iff hp hm hq, h.parent_eq_iff hparent hp hq hn]

end

theorem mirrors_nil (h : ¬ Keeps realpath target t.facts) (parent : Option Link) (first : Nat) :
    Mirrors realpath target parent first (keptPlaces realpath target t) [] := by
  rw [keptPlaces_eq_nil h]
  constructor
  · rfl
  · intro i p n hp _; simp at hp
  · intro i p n hp _; simp at hp

end

/-- The nodes there were stay as they are, and the new ones stand behind them. -/
theorem visit_mirrors (realpath : String → String) (target : Option String) (t : Tree)
    (parent : Option Link) (s : Store) (hparent : ∀ l ∈ parent, l < s.nodes.length)
    (hmemory : Agrees realpath s.memory) :
    ∃ made memory,
      Mirrors realpath target parent s.nodes.length (keptPlaces realpath target t) made ∧
      Mutual s.nodes.length made ∧ (made = [] ↔ ¬ Keeps realpath target t.facts) ∧
      Agrees realpath memory ∧
      let root := if Keeps realpath target t.facts then some s.nodes.length else none
      let listed := s.listed ++ List.range' s.nodes.length made.length
      (visit (recallPath realpath) target parent t).run s =
        (root, ⟨s.nodes ++ made, listed, memory⟩) ∧
      (visit (resolveAfresh realpath) target parent t).run s =
        (root, ⟨s.nodes ++ made, listed, s.memory⟩) := by
  obtain ⟨memory, hmemory', hrecall⟩ := visit_run (recallPath_resolves realpath) t parent s hmemory
  obtain ⟨_, rfl, hafresh⟩ :=
    visit_run (resolveAfresh_resolves realpath (· = s.memory)) t parent s rfl
  by_cases hk : Keeps realpath target t.facts
  · have hmirrors := layout_mirrors hk parent s.nodes.length
    have hne : layout parent s.nodes.length (t.pruned realpath target) ≠ [] := by
      rw [← List.length_pos_iff, layout_length]
      exact Tree.size_pos _
    refine ⟨_, memory, hmirrors, hmirrors.mutual hparent, ?_, hmemory', ?_⟩
    · simp [hk, hne]
    · rw [hrecall, hafresh, layout_length]
      simp [hk]
  · have hmirrors := mirrors_nil hk parent s.nodes.length
    refine ⟨[], memory, hmirrors, hmirrors.mutual hparent, ?_, hmemory', ?_⟩
    · simp [hk]
    · rw [hrecall, hafresh]
      simp [hk]

theorem visit_mirrors_below_first :
    let first : Node := ⟨{}, none, []⟩
    let t : Tree := .node { file := some "/a.cpp" } [.node { file := some "/a.h" } [], .node {} []]
    ∃ made, made.length = 2 ∧ Mutual 1 made ∧
      ((visit (recallPath id) (some "/a.cpp") (some 0) t).run ⟨[first], [0], []⟩).2.nodes =
        first :: made := by
  intro first t
  obtain ⟨made, memory, hmirrors, hmutual, -, -, hrun, -⟩ :=
    visit_mirrors id (some "/a.cpp") t (some 0) ⟨[first], [0], []⟩
      (by rintro _ ⟨⟩; decide) (fun _ he => absurd he List.not_mem_nil)
  refine ⟨made, ?_, hmutual, ?_⟩
  · rw [hmirrors.length_eq]
    decide
  · rw [hrun]
    rfl

end Walk
end CallPolicy

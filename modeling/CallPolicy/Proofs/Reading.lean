import CallPolicy.Proofs.Layout

/-!
# CallPolicy.Proofs.Reading

Reading places back from links. In a layout the links lead to the very places of the tree, so what a
walk gives can be told without the store.

* `places_layout`: the places read from the layout of a tree are the places of the tree.
* `walkBy_eq`: a walk gives the places of the pruned tree, or none when its root goes.
-/

namespace CallPolicy
namespace Walk

theorem filterMap_of_forall₂ {α β γ : Type} {f : α → Option γ} {g : β → γ} {xs : List α}
    {ys : List β} (h : List.Forall₂ (fun x y => f x = some (g y)) xs ys) :
    xs.filterMap f = ys.map g := by
  induction h with
  | nil => rfl
  | cons hxy _ ih => rw [List.filterMap_cons_some hxy, ih, List.map_cons]

theorem filterMap_getElem?_range {α : Type} (xs : List α) :
    (List.range' 0 xs.length).filterMap (fun i => xs[i]?) = xs := by
  have hget : ∀ e ∈ xs.zipIdx, xs[e.2]? = some e.1 := fun e he => List.mem_zipIdx_iff_getElem?.mp he
  rw [← List.zipIdx_map_snd 0 xs, List.filterMap_map]
  calc xs.zipIdx.filterMap ((fun i => xs[i]?) ∘ Prod.snd)
      = xs.zipIdx.filterMap (fun e => some e.1) := List.filterMap_congr hget
    _ = xs.zipIdx.map Prod.fst := by rw [← List.filterMap_eq_map]; rfl
    _ = xs := List.zipIdx_map_fst 0 xs

/-- A layout of all nodes of a tree, from its root on. -/
structure Depicts (all : List Place) (nodes : List Node) : Prop where
  length_eq : nodes.length = all.length
  linked : ∀ i p n, all[i]? = some p → nodes[i]? = some n → Linked 0 all i p n
  parent : ∀ i p n, all[i]? = some p → nodes[i]? = some n →
    p.above = [] ∧ n.parent = none ∨ ParentLinked 0 all i p n
  nodup : all.Nodup
  /-- What is above a place tells which child of it the place is. -/
  child : ∀ (p q : Place) (k : Nat), p ∈ all → p.above = (q.tree, k) :: q.above →
    q.children[k]? = some p

theorem getElem?_children_of_above {t : Tree} {p q : Place} {k : Nat} (hp : p ∈ t.places [])
    (habove : p.above = (q.tree, k) :: q.above) : q.children[k]? = some p := by
  rcases parent_mem_places t [] hp with rfl | ⟨r, -, hr⟩
  · cases habove
  · obtain ⟨i, hi⟩ := List.getElem?_of_mem hr
    obtain ⟨rfl, rfl⟩ := Place.parent_unique habove (Place.getElem?_children.mp hi).2
    exact hi

theorem layout_depicts (t : Tree) : Depicts (t.places []) (layout none 0 t) where
  length_eq := by rw [layout_length, places_length]
  linked _ _ _ hp hn := (layout_links hp hn).1
  parent _ _ _ hp hn := (layout_links hp hn).2
  nodup := places_nodup t []
  child _ _ _ hp habove := getElem?_children_of_above hp habove

/-! ## Reading the trees -/

section

variable {all : List Place} {nodes : List Node}

theorem tree_eq_of_linked {i : Nat} {p : Place} {n : Node} (h : Linked 0 all i p n) :
    Tree.node n.facts (n.children.filterMap fun c =>
      ((all.drop (i + 1)).map Place.tree)[c - (i + 1)]?) = p.tree := by
  have hkids : n.children.filterMap (fun c => ((all.drop (i + 1)).map Place.tree)[c - (i + 1)]?) =
      p.children.map Place.tree := by
    refine filterMap_of_forall₂ (h.children.imp ?_)
    rintro c q ⟨j, hj, hq, rfl⟩
    rw [List.getElem?_map, List.getElem?_drop, show i + 1 + (0 + j - (i + 1)) = j by omega, hq]
    rfl
  rw [hkids, Place.children_map_tree, h.facts]
  obtain ⟨⟨facts, children⟩, above⟩ := p
  rfl

theorem treesFrom_drop (h : Depicts all nodes) :
    ∀ k m, m + k = nodes.length → treesFrom m (nodes.drop m) = (all.drop m).map Place.tree := by
  intro k
  induction k with
  | zero =>
    intro m hm
    rw [List.drop_of_length_le (by omega), List.drop_of_length_le (by rw [← h.length_eq]; omega)]
    rfl
  | succ k ih =>
    intro m hm
    have hmn : m < nodes.length := by omega
    have hma : m < all.length := by rw [← h.length_eq]; exact hmn
    rw [List.drop_eq_getElem_cons hmn, List.drop_eq_getElem_cons hma, treesFrom, List.map_cons,
      ih (m + 1) (by omega)]
    have hlinked := h.linked m all[m] nodes[m] (List.getElem?_eq_getElem hma)
      (List.getElem?_eq_getElem hmn)
    exact congrArg (· :: _) (tree_eq_of_linked hlinked)

theorem treesFrom_eq (h : Depicts all nodes) : treesFrom 0 nodes = all.map Place.tree :=
  treesFrom_drop h nodes.length 0 (Nat.zero_add _)

/-! ## Reading what is above -/

/-- The index on the way down is found among the links of the parent, which are all different. -/
theorem idxOf_children (h : Depicts all nodes) {i j k : Nat} {p q : Place} {n : Node}
    (hp : all[i]? = some p) (hq : all[j]? = some q) (hn : nodes[j]? = some n)
    (habove : p.above = (q.tree, k) :: q.above) : n.children.idxOf i = k := by
  have hlinked := h.linked j q n hq hn
  have hchild := h.child p q k (List.mem_of_getElem? hp) habove
  have hk : k < q.children.length := (List.getElem?_eq_some_iff.mp hchild).1
  have hk' : k < n.children.length := by rw [hlinked.children.length_eq]; exact hk
  obtain ⟨j', -, hj', hc⟩ := hlinked.children.get hk' hk
  rw [List.get_eq_getElem, (List.getElem?_eq_some_iff.mp hchild).2] at hj'
  obtain rfl : i = j' := index_unique h.nodup hp hj'
  have hnodup : n.children.Nodup := hlinked.increasing.imp Nat.ne_of_lt
  rw [List.get_eq_getElem, Nat.zero_add] at hc
  rw [← hc]
  exact hnodup.idxOf_getElem k hk'

theorem aboveNext_take (h : Depicts all nodes) {i : Nat} {p : Place} {n : Node}
    (hp : all[i]? = some p) (hn : nodes[i]? = some n) :
    aboveNext nodes (all.take i) n = p.above := by
  rcases h.parent i p n hp hn with ⟨habove, hnone⟩ | ⟨j, q, k, hj, hq, habove, hsome⟩
  · rw [aboveNext, hnone, habove]
  · have hi : i < all.length := (List.getElem?_eq_some_iff.mp hp).1
    have hjn : j < nodes.length := by rw [h.length_eq]; omega
    have hnode := List.getElem?_eq_getElem hjn
    have hread : (all.take i)[j]? = some q := by rw [List.getElem?_take_of_lt hj, hq]
    have hlen : (all.take i).length = i := by rw [List.length_take]; omega
    rw [aboveNext, hsome, Nat.zero_add]
    simp only [hnode, hread, hlen]
    rw [idxOf_children h hp hq hnode habove, habove]

/-- When the first `m` places are read, going over the rest reads the others. -/
theorem foldl_drop (h : Depicts all nodes) :
    ∀ k m, m + k = nodes.length →
      ((nodes.zip (all.map Place.tree)).drop m).foldl
        (fun read (n, t) => read ++ [⟨t, aboveNext nodes read n⟩]) (all.take m) = all := by
  intro k
  induction k with
  | zero =>
    intro m hm
    rw [List.drop_of_length_le (by rw [List.length_zip]; omega),
      List.take_of_length_le (by rw [← h.length_eq]; omega)]
    rfl
  | succ k ih =>
    intro m hm
    have hmn : m < nodes.length := by omega
    have hma : m < all.length := by rw [← h.length_eq]; exact hmn
    have hmz : m < (nodes.zip (all.map Place.tree)).length := by
      rw [List.length_zip, List.length_map]; omega
    have habove := aboveNext_take h (List.getElem?_eq_getElem hma) (List.getElem?_eq_getElem hmn)
    have hnext : all.take m ++ [⟨all[m].tree, aboveNext nodes (all.take m) nodes[m]⟩] =
        all.take (m + 1) := by
      rw [habove, List.take_succ_eq_append_getElem hma]
    rw [List.drop_eq_getElem_cons hmz, List.foldl_cons, List.getElem_zip, List.getElem_map]
    simp only [hnext]
    exact ih (m + 1) (by omega)

theorem places_eq (h : Depicts all nodes) : places nodes = all := by
  rw [places, treesFrom_eq h]
  exact foldl_drop h nodes.length 0 (Nat.zero_add _)

end

theorem places_layout (t : Tree) : places (layout none 0 t) = t.places [] :=
  places_eq (layout_depicts t)

end Walk

theorem walkBy_eq (realpath : String → String) (target : Option String) (t : Tree) :
    walkBy realpath target t =
      if Keeps realpath target t.facts then (t.pruned realpath target).places [] else [] := by
  have hsound : Walk.Agrees realpath ({} : Walk.Store).memory :=
    fun _ he => absurd he List.not_mem_nil
  obtain ⟨m, -, hrun⟩ := Walk.visit_run (Walk.recallPath_resolves realpath) t none {} hsound
  rw [walkBy, hrun]
  by_cases hk : Keeps realpath target t.facts
  · simp only [hk, if_true, List.nil_append, List.length_nil, Walk.places_layout]
    rw [← Walk.places_length _ []]
    exact Walk.filterMap_getElem?_range _
  · simp [hk, Walk.places]

end CallPolicy

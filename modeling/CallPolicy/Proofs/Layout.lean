import CallPolicy.Proofs.Pruning
import Mathlib.Data.List.Forall2

/-!
# CallPolicy.Proofs.Layout

What a walk leaves in the store. `layout` lists the nodes of a tree, parents first, each with the
links to its parent and its children worked out from the sizes of the trees before them.

* `visit_run`: a walk adds the layout of the pruned tree to the nodes there are, lists it, and
  changes nothing else but its memory; or it adds nothing, when the root goes.
* `layout_links`: the links of a layout follow the tree. The parent of a node is the node of the
  place above it, and its children are the nodes of the places of its children.
-/

namespace CallPolicy

mutual

/-- How many nodes a tree has. -/
def Tree.size : Tree → Nat
  | .node _ children => sizeAll children + 1

def sizeAll : List Tree → Nat
  | [] => 0
  | t :: rest => t.size + sizeAll rest

end

theorem Tree.size_pos (t : Tree) : 0 < t.size := by
  cases t; rw [Tree.size]; omega

namespace Walk

/-- Where trees side by side are kept, the first of them at `next`. -/
def rootLinks (next : Link) : List Tree → List Link
  | [] => []
  | t :: rest => next :: rootLinks (next + t.size) rest

mutual

/-- The nodes of a tree whose root is kept at `here`. -/
def layout (parent : Option Link) (here : Link) : Tree → List Node
  | .node facts children =>
    ⟨facts, parent, rootLinks (here + 1) children⟩ :: layoutAll here (here + 1) children

def layoutAll (parent next : Link) : List Tree → List Node
  | [] => []
  | t :: rest => layout (some parent) next t ++ layoutAll parent (next + t.size) rest

end

mutual

theorem layout_length :
    ∀ (t : Tree) (parent : Option Link) (here : Link), (layout parent here t).length = t.size
  | .node facts children, parent, here => by
    rw [layout, Tree.size, List.length_cons, layoutAll_length]

theorem layoutAll_length :
    ∀ (ts : List Tree) (parent next : Link), (layoutAll parent next ts).length = sizeAll ts
  | [], parent, next => by rw [layoutAll, sizeAll]; rfl
  | t :: rest, parent, next => by
    rw [layoutAll, sizeAll, List.length_append, layout_length, layoutAll_length]

end

/-! ## Resolving paths -/

/-- The memory holds paths as `realpath` gives them. -/
def Agrees (realpath : String → String) (m : Memory) : Prop := ∀ e ∈ m, e.2 = realpath e.1

/-- From a memory that is sound, `resolve` gives the path that `realpath` gives, leaves the memory
sound and the rest of the store as it is. -/
structure Resolves (realpath : String → String) (resolve : String → StateM Store String)
    (Sound : Memory → Prop) : Prop where
  run_eq : ∀ file s, Sound s.memory →
    ∃ m, Sound m ∧ (resolve file).run s = (realpath file, { s with memory := m })

/-- Resolving a path each time it is asked for. -/
def resolveAfresh (realpath : String → String) (file : String) : StateM Store String :=
  return realpath file

theorem resolveAfresh_resolves (realpath : String → String) (Sound : Memory → Prop) :
    Resolves realpath (resolveAfresh realpath) Sound where
  run_eq _ s hs := ⟨s.memory, hs, rfl⟩

theorem Agrees.of_lookup {realpath : String → String} {m : Memory} (h : Agrees realpath m)
    {file path : String} (hl : m.lookup file = some path) : path = realpath file := by
  obtain ⟨before, after, rfl, -⟩ := List.lookup_eq_some_iff.mp hl
  exact h (file, path) (by simp)

theorem recallPath_resolves (realpath : String → String) :
    Resolves realpath (recallPath realpath) (Agrees realpath) where
  run_eq file s hs := by
    cases hl : s.memory.lookup file with
    | some path =>
      refine ⟨s.memory, hs, ?_⟩
      have hrun : (recallPath realpath file).run s = (path, s) := by
        simp [recallPath, hl]; rfl
      rw [hrun, hs.of_lookup hl]
    | none =>
      refine ⟨(file, realpath file) :: s.memory, ?_, ?_⟩
      · intro e he
        rcases List.mem_cons.mp he with rfl | he
        · rfl
        · exact hs e he
      · simp [recallPath, hl]; rfl

/-! ## Walking -/

theorem named?_eq_none_iff {o : Option String} : named? o = none ↔ o = none ∨ o = some "" := by
  cases o <;> simp [named?]

theorem named?_eq_some_iff {o : Option String} {s : String} :
    named? o = some s ↔ o = some s ∧ s ≠ "" := by
  cases o with
  | none => simp [named?]
  | some t =>
    simp only [named?, Option.ite_none_left_eq_some, Option.some.injEq]
    constructor
    · rintro ⟨ht, rfl⟩; exact ⟨rfl, ht⟩
    · rintro ⟨rfl, ht⟩; exact ⟨ht, rfl⟩

section

variable {realpath : String → String} {target : Option String}
  {resolve : String → StateM Store String} {Sound : Memory → Prop}

theorem belongsM_run (h : Resolves realpath resolve Sound) (f : Facts) (s : Store)
    (hs : Sound s.memory) :
    ∃ m, Sound m ∧ (belongsM resolve target f.file).run s =
      (decide (Keeps realpath target f), { s with memory := m }) := by
  cases ht : named? target with
  | none =>
    have hkeeps : Keeps realpath target f := by
      rcases named?_eq_none_iff.mp ht with h | h
      · exact Or.inl h
      · exact Or.inr (Or.inl h)
    refine ⟨s.memory, hs, ?_⟩
    simp [belongsM, ht, hkeeps]; rfl
  | some t =>
    cases hf : named? f.file with
    | none =>
      have hkeeps : Keeps realpath target f := by
        rcases named?_eq_none_iff.mp hf with h | h
        · exact Or.inr (Or.inr (Or.inl h))
        · exact Or.inr (Or.inr (Or.inr (Or.inl h)))
      refine ⟨s.memory, hs, ?_⟩
      simp [belongsM, ht, hf, hkeeps]; rfl
    | some file =>
      obtain ⟨m, hm, hrun⟩ := h.run_eq file s hs
      refine ⟨m, hm, ?_⟩
      obtain ⟨htarget, htne⟩ := named?_eq_some_iff.mp ht
      obtain ⟨hfile, hfne⟩ := named?_eq_some_iff.mp hf
      have hkeeps : decide (Keeps realpath target f) = (realpath file == t) := by
        simp [Keeps, htarget, hfile, htne, hfne]; rfl
      have hbelongs : (belongsM resolve target f.file).run s =
          (((resolve file).run s).1 == t, ((resolve file).run s).2) := by
        simp only [belongsM, ht, hf]; rfl
      rw [hbelongs, hrun, hkeeps]

theorem add_run (n : Node) (s : Store) :
    (add n).run s =
      (s.nodes.length,
        { s with nodes := s.nodes ++ [n], listed := s.listed ++ [s.nodes.length] }) := rfl

theorem modify_append_cons (before : List Node) (n : Node) (after : List Node) (f : Node → Node) :
    (before ++ n :: after).modify before.length f = before ++ f n :: after := by
  induction before with
  | nil => rfl
  | cons a before ih => simpa using ih

/-- The parent is the node that stands after `before`. -/
theorem adopt_run (before : List Node) (n : Node) (after : List Node) (child : Link) (s : Store)
    (h : s.nodes = before ++ n :: after) :
    (adopt before.length child).run s =
      ((), { s with
        nodes := before ++ { n with children := n.children ++ [child] } :: after }) := by
  rw [← modify_append_cons before n after fun n => { n with children := n.children ++ [child] },
    ← h]
  rfl

theorem visit_node_run (parent : Option Link) (facts : Facts) (children : List Tree) (s : Store) :
    (visit resolve target parent (.node facts children)).run s =
      let (stays, s₁) := (belongsM resolve target facts.file).run s
      if stays then
        let (here, s₂) := (add { facts := facts.attached, parent }).run s₁
        (some here, ((visitAll resolve target here children).run s₂).2)
      else (none, s₁) := by
  rw [visit, StateT.run_bind]
  cases (belongsM resolve target facts.file).run s with
  | mk stays s₁ => cases stays <;> rfl

theorem visitAll_cons_run (here : Link) (t : Tree) (rest : List Tree) (s : Store) :
    (visitAll resolve target here (t :: rest)).run s =
      match (visit resolve target (some here) t).run s with
      | (some child, s₁) =>
        (visitAll resolve target here rest).run ((adopt here child).run s₁).2
      | (none, s₁) => (visitAll resolve target here rest).run s₁ := by
  rw [visitAll, StateT.run_bind]
  cases (visit resolve target (some here) t).run s with
  | mk child s₁ => cases child <;> rfl

mutual

/-- The layout grows as the walk goes on: when the children of a node have been gone over, their
layouts stand behind all nodes there were, and the node has their links. -/
theorem visit_run (h : Resolves realpath resolve Sound) :
    ∀ (t : Tree) (parent : Option Link) (s : Store), Sound s.memory →
      ∃ m, Sound m ∧ (visit resolve target parent t).run s =
        if Keeps realpath target t.facts then
          (some s.nodes.length,
            { nodes := s.nodes ++ layout parent s.nodes.length (t.pruned realpath target)
              listed := s.listed ++ List.range' s.nodes.length (t.pruned realpath target).size
              memory := m })
        else (none, { s with memory := m })
  | .node facts children, parent, s, hs => by
    obtain ⟨m, hm, hbelongs⟩ := belongsM_run h facts s hs
    rw [visit_node_run, hbelongs]
    by_cases hk : Keeps realpath target facts
    · let n : Node := ⟨facts.attached, parent, []⟩
      let s₂ : Store := ⟨s.nodes ++ [n], s.listed ++ [s.nodes.length], m⟩
      obtain ⟨m', hm', hall⟩ := visitAll_run h children s.nodes n [] s₂ hm rfl
      refine ⟨m', hm', ?_⟩
      have hlen : s₂.nodes.length = s.nodes.length + 1 := by simp [s₂]
      rw [hlen] at hall
      simp only [hk, decide_true, if_true, add_run, Tree.facts]
      rw [hall, Tree.pruned_node, layout, Tree.size, List.range'_succ]
      simp [s₂, n]
    · refine ⟨m, hm, ?_⟩
      simp [hk, Tree.facts]

theorem visitAll_run (h : Resolves realpath resolve Sound) :
    ∀ (ts : List Tree) (before : List Node) (n : Node) (after : List Node) (s : Store),
      Sound s.memory → s.nodes = before ++ n :: after →
      ∃ m, Sound m ∧ ((visitAll resolve target before.length ts).run s).2 =
        { nodes := before ++
            { n with children := n.children ++
                rootLinks s.nodes.length (prunedAll realpath target ts) } ::
            (after ++ layoutAll before.length s.nodes.length (prunedAll realpath target ts))
          listed := s.listed ++
            List.range' s.nodes.length (sizeAll (prunedAll realpath target ts))
          memory := m }
  | [], before, n, after, s, hs, hnodes => by
    refine ⟨s.memory, hs, ?_⟩
    rw [visitAll, prunedAll_nil, rootLinks, layoutAll, sizeAll]
    simp [← hnodes]
    rfl
  | t :: rest, before, n, after, s, hs, hnodes => by
    obtain ⟨m, hm, hvisit⟩ := visit_run h t (some before.length) s hs
    rw [visitAll_cons_run, hvisit]
    by_cases hk : Keeps realpath target t.facts
    · -- the child is laid out behind all nodes, and then taken up by the node after `before`
      let new := layout (some before.length) s.nodes.length (t.pruned realpath target)
      let n' : Node := { n with children := n.children ++ [s.nodes.length] }
      let s₁ : Store := ⟨s.nodes ++ new,
        s.listed ++ List.range' s.nodes.length (t.pruned realpath target).size, m⟩
      let s₂ : Store := { s₁ with nodes := before ++ n' :: (after ++ new) }
      have hs₁ : s₁.nodes = before ++ n :: (after ++ new) := by simp [s₁, hnodes]
      have hadopt : ((adopt before.length s.nodes.length).run s₁).2 = s₂ := by
        rw [adopt_run before n (after ++ new) _ s₁ hs₁]
      obtain ⟨m', hm', hrest⟩ := visitAll_run h rest before n' (after ++ new) s₂ hm rfl
      refine ⟨m', hm', ?_⟩
      have hlen : s₂.nodes.length = s.nodes.length + (t.pruned realpath target).size := by
        simp [s₂, new, hnodes, layout_length]; omega
      rw [hlen] at hrest
      simp only [hk, if_true]
      rw [hadopt, hrest, prunedAll_cons_of_keeps hk, rootLinks, layoutAll, sizeAll]
      simp [s₂, s₁, n', new]
    · obtain ⟨m', hm', hrest⟩ := visitAll_run h rest before n after { s with memory := m } hm hnodes
      refine ⟨m', hm', ?_⟩
      simp only [hk, if_false]
      rw [hrest, prunedAll_cons_of_not_keeps hk]

end

end

/-! ## Links -/

mutual

theorem places_length : ∀ (t : Tree) (above : List (Tree × Nat)), (t.places above).length = t.size
  | .node facts children, above => by
    rw [Tree.places_node, Tree.size, List.length_cons, placesOfChildren_length]

theorem placesOfChildren_length :
    ∀ (ts : List Tree) (parent : Tree) (above : List (Tree × Nat)) (index : Nat),
      (placesOfChildren parent above index ts).length = sizeAll ts
  | [], parent, above, index => by rw [placesOfChildren_nil, sizeAll]; rfl
  | t :: rest, parent, above, index => by
    rw [placesOfChildren_cons, sizeAll, List.length_append, places_length, placesOfChildren_length]

end

/-- The places `ps` stand in `all` from `start` on. -/
def StandsAt (all : List Place) (start : Nat) (ps : List Place) : Prop :=
  ∀ i p, ps[i]? = some p → all[start + i]? = some p

theorem standsAt_self {all : List Place} : StandsAt all 0 all := by
  intro i p hp
  rwa [Nat.zero_add]

theorem standsAt_append {all ps qs : List Place} {start : Nat} :
    StandsAt all start (ps ++ qs) ↔
      StandsAt all start ps ∧ StandsAt all (start + ps.length) qs := by
  constructor
  · intro h
    constructor
    · intro i p hp
      have hi : i < ps.length := (List.getElem?_eq_some_iff.mp hp).1
      exact h i p (by rw [List.getElem?_append_left hi, hp])
    · intro i q hq
      have := h (ps.length + i) q (by rw [List.getElem?_append_right (by omega)]; simpa using hq)
      rwa [← Nat.add_assoc] at this
  · rintro ⟨hps, hqs⟩ i p hp
    by_cases hi : i < ps.length
    · exact hps i p (by rwa [List.getElem?_append_left hi] at hp)
    · rw [List.getElem?_append_right (by omega)] at hp
      have := hqs _ p hp
      rwa [show start + ps.length + (i - ps.length) = start + i by omega] at this

theorem standsAt_cons {all ps : List Place} {p : Place} {start : Nat} :
    StandsAt all start (p :: ps) ↔ all[start]? = some p ∧ StandsAt all (start + 1) ps := by
  rw [show p :: ps = [p] ++ ps from rfl, standsAt_append]
  refine and_congr_left fun _ => ⟨fun h => h 0 p rfl, ?_⟩
  rintro h i q hq
  obtain ⟨hi, rfl⟩ := List.getElem?_eq_some_iff.mp hq
  have : i = 0 := by simpa using hi
  subst this
  exact h

/-- What a node that is kept for the `i`-th of the places `all` shows of the places below it. The
nodes of these places are kept one after another from `first` on. -/
structure Linked (first : Link) (all : List Place) (i : Nat) (p : Place) (n : Node) : Prop where
  facts : n.facts = p.facts
  children : List.Forall₂ (fun c q => ∃ j, i < j ∧ all[j]? = some q ∧ c = first + j)
    n.children p.children
  increasing : n.children.Pairwise (· < ·)

/-- Its parent is kept for the place above it. -/
def ParentLinked (first : Link) (all : List Place) (i : Nat) (p : Place) (n : Node) : Prop :=
  ∃ j q k, j < i ∧ all[j]? = some q ∧ p.above = (q.tree, k) :: q.above ∧
    n.parent = some (first + j)

section

variable {first : Link} {all : List Place}

theorem rootLinks_linked (parent : Tree) (above : List (Tree × Nat)) (ts : List Tree) :
    ∀ index start, StandsAt all start (placesOfChildren parent above index ts) →
      List.Forall₂ (fun c q => ∃ j, start ≤ j ∧ all[j]? = some q ∧ c = first + j)
        (rootLinks (first + start) ts) (childPlaces parent above index ts) := by
  induction ts with
  | nil => intro index start _; exact .nil
  | cons t rest ih =>
    intro index start h
    rw [placesOfChildren_cons, standsAt_append, places_length] at h
    rw [rootLinks, childPlaces_cons, Nat.add_assoc]
    refine .cons ⟨start, Nat.le_refl _, h.1 0 _ (t.places_head _), rfl⟩ ?_
    exact (ih _ _ h.2).imp fun c q ⟨j, hj, hq, hc⟩ => ⟨j, by omega, hq, hc⟩

theorem le_of_mem_rootLinks (ts : List Tree) :
    ∀ next : Nat, ∀ c ∈ rootLinks next ts, next ≤ c := by
  induction ts with
  | nil => intro next c hc; cases hc
  | cons t rest ih =>
    intro next c hc
    rcases List.mem_cons.mp hc with rfl | hc
    · exact Nat.le_refl _
    · exact Nat.le_trans (Nat.le_add_right next t.size) (ih _ c hc)

theorem rootLinks_increasing (ts : List Tree) : ∀ next, (rootLinks next ts).Pairwise (· < ·) := by
  induction ts with
  | nil => intro next; exact .nil
  | cons t rest ih =>
    intro next
    refine .cons ?_ (ih _)
    intro c hc
    have hle := le_of_mem_rootLinks rest _ c hc
    have hpos : next < next + t.size := Nat.lt_add_of_pos_right t.size_pos
    exact Nat.lt_of_lt_of_le hpos hle

mutual

theorem layout_linked :
    ∀ (t : Tree) (above : List (Tree × Nat)) (parent : Option Link) (start : Nat),
      StandsAt all start (t.places above) → ∀ i p, (t.places above)[i]? = some p →
      ∃ n, (layout parent (first + start) t)[i]? = some n ∧ Linked first all (start + i) p n ∧
        (i = 0 ∧ n.parent = parent ∨ 0 < i ∧ ParentLinked first all (start + i) p n)
  | .node facts children, above, parent, start, h, i, p, hp => by
    rw [Tree.places_node] at h hp
    obtain ⟨hroot, hbelow⟩ := standsAt_cons.mp h
    rw [layout]
    cases i with
    | zero =>
      obtain rfl : p = ⟨.node facts children, above⟩ := by simpa using hp.symm
      refine ⟨_, rfl, ⟨rfl, ?_, rootLinks_increasing _ _⟩, Or.inl ⟨rfl, rfl⟩⟩
      exact (rootLinks_linked _ _ _ _ _ hbelow).imp
        fun c q ⟨j, hj, hq, hc⟩ => ⟨j, by omega, hq, hc⟩
    | succ i =>
      obtain ⟨n, hn, hlinked, hparent⟩ :=
        layoutAll_linked _ _ 0 children start (start + 1) hroot (by omega) hbelow i p
          (by simpa using hp)
      rw [show start + (i + 1) = start + 1 + i by omega]
      exact ⟨n, by simpa [Nat.add_assoc] using hn, hlinked, Or.inr ⟨by omega, hparent⟩⟩

theorem layoutAll_linked :
    ∀ (parent : Tree) (above : List (Tree × Nat)) (index : Nat) (ts : List Tree) (root start : Nat),
      all[root]? = some ⟨parent, above⟩ → root < start →
      StandsAt all start (placesOfChildren parent above index ts) →
      ∀ i p, (placesOfChildren parent above index ts)[i]? = some p →
      ∃ n, (layoutAll (first + root) (first + start) ts)[i]? = some n ∧
        Linked first all (start + i) p n ∧ ParentLinked first all (start + i) p n
  | parent, above, index, [], root, start, _, _, _, i, p, hp => by
    rw [placesOfChildren_nil] at hp; cases hp
  | parent, above, index, t :: rest, root, start, hroot, hlt, h, i, p, hp => by
    rw [placesOfChildren_cons] at h hp
    obtain ⟨hhere, hrest⟩ := standsAt_append.mp h
    rw [layoutAll]
    by_cases hi : i < (t.places ((parent, index) :: above)).length
    · rw [List.getElem?_append_left hi] at hp
      obtain ⟨n, hn, hlinked, hparent⟩ := layout_linked t _ (some (first + root)) start hhere i p hp
      refine ⟨n, ?_, hlinked, ?_⟩
      · rwa [List.getElem?_append_left (by rwa [layout_length, ← places_length t _])]
      · rcases hparent with ⟨rfl, hn'⟩ | ⟨-, hparent⟩
        · obtain rfl : p = ⟨t, (parent, index) :: above⟩ :=
            Option.some.inj (hp.symm.trans (t.places_head _))
          exact ⟨root, ⟨parent, above⟩, index, by omega, hroot, rfl, hn'⟩
        · exact hparent
    · rw [List.getElem?_append_right (by omega), places_length] at hp
      rw [places_length] at hrest hi
      obtain ⟨n, hn, hlinked, hparent⟩ :=
        layoutAll_linked parent above (index + 1) rest root _ hroot (by omega) hrest _ p hp
      rw [show start + t.size + (i - t.size) = start + i by omega] at hlinked hparent
      refine ⟨n, ?_, hlinked, hparent⟩
      rwa [List.getElem?_append_right (by rw [layout_length]; omega), layout_length, Nat.add_assoc]

end

end

/-- The same for a layout on its own, whose places are all there are. -/
theorem layout_links {t : Tree} {parent : Option Link} {first i : Nat} {p : Place} {n : Node}
    (hp : (t.places [])[i]? = some p) (hn : (layout parent first t)[i]? = some n) :
    Linked first (t.places []) i p n ∧
      (p.above = [] ∧ n.parent = parent ∨ ParentLinked first (t.places []) i p n) := by
  obtain ⟨n', hn', hlinked, hparent⟩ := layout_linked t [] parent 0 standsAt_self i p hp
  rw [Nat.add_zero] at hn'
  rw [Nat.zero_add] at hlinked hparent
  obtain rfl : n = n' := Option.some.inj (hn.symm.trans hn')
  refine ⟨hlinked, ?_⟩
  rcases hparent with ⟨rfl, hroot⟩ | ⟨-, hparent⟩
  · obtain rfl : p = ⟨t, []⟩ := Option.some.inj (hp.symm.trans (t.places_head []))
    exact Or.inl ⟨rfl, hroot⟩
  · exact Or.inr hparent

end Walk
end CallPolicy

import CallPolicy.Proofs.Ownership

/-!
# CallPolicy.Proofs.Wrappers

Nodes that only wrap an expression are transparent. What `describe` makes of a place rests on the
facts of the node, of what its children are under their wrappers and of its owner, and a chain of
wrappers put anywhere in a tree changes none of these.

* `describe_of_sameView`: what a description rests on.
* `unwrapped_wrapAt`: looking down, a chain of wrappers is passed.
* `SameAbove.wrapper`: looking up, so is each of them.
* `describe_wrapAt`: every node of the tree keeps its description.
-/

namespace CallPolicy

/-! ## Places by their paths -/

/-- The place that the indices lead down to. -/
def Place.at? (p : Place) : List Nat → Option Place
  | [] => some p
  | i :: path => p.children[i]?.bind fun child => child.at? path

theorem Place.at?_append (p : Place) (path rest : List Nat) :
    p.at? (path ++ rest) = (p.at? path).bind fun q => q.at? rest := by
  induction path generalizing p with
  | nil => rfl
  | cons i path ih =>
    simp only [List.cons_append, Place.at?, Option.bind_assoc]
    exact congrArg _ (funext fun child => ih child)

theorem Place.path_of_at? {p q : Place} {path : List Nat} (h : p.at? path = some q) :
    q.path = p.path ++ path := by
  induction path generalizing p with
  | nil =>
    cases h
    simp
  | cons i path ih =>
    obtain ⟨child, hchild, hq⟩ := Option.bind_eq_some_iff.mp h
    rw [ih hq, Place.path_eq, Place.path_eq, (Place.getElem?_children.mp hchild).2, wayTo_cons,
      List.append_assoc]
    rfl

/-- The places of a tree are those that paths from its root lead to. -/
theorem mem_places_iff_at? {t : Tree} {p : Place} :
    p ∈ t.places [] ↔ ∃ path, (⟨t, []⟩ : Place).at? path = some p := by
  constructor
  · intro hp
    -- on what is above: the parent is a place of the tree with less above
    induction habove : p.above generalizing p with
    | nil =>
      rcases parent_mem_places t [] hp with rfl | ⟨q, -, hq⟩
      · exact ⟨[], rfl⟩
      · obtain ⟨i, hi⟩ := Place.above_of_mem_children hq
        rw [hi] at habove
        cases habove
    | cons step above ih =>
      rcases parent_mem_places t [] hp with rfl | ⟨q, hq, hpq⟩
      · cases habove
      · obtain ⟨i, hi⟩ := List.getElem?_of_mem hpq
        have hchild := (Place.getElem?_children.mp hi).2
        rw [habove] at hchild
        obtain ⟨path, hpath⟩ := ih hq (List.cons.inj hchild).2.symm
        refine ⟨path ++ [i], ?_⟩
        simp [Place.at?_append, hpath, Place.at?, hi]
  · rintro ⟨path, hpath⟩
    have hdown (q : Place) (hq : q ∈ t.places []) (hat : q.at? path = some p) :
        p ∈ t.places [] := by
      clear hpath
      induction path generalizing q with
      | nil =>
        cases hat
        exact hq
      | cons i path ih =>
        obtain ⟨child, hchild, hat⟩ := Option.bind_eq_some_iff.mp hat
        exact ih child (children_mem_places (List.mem_of_getElem? hchild) t [] hq) hat
    exact hdown _ (t.root_mem_places []) hpath

/-! ## Putting wrappers into a tree -/

/-- A node that only wraps an expression, and knows its parent. -/
structure Facts.IsWrapper (f : Facts) : Prop where
  kind : f.kind.any NodeKind.isWrapper = true
  attached : f.detached = false

/-- A chain of nodes with one child each above the tree, the first of them on top. -/
def Tree.wrap : List Facts → Tree → Tree
  | [], t => t
  | f :: chain, t => .node f [Tree.wrap chain t]

/-- The chain is put between the node that the path leads to and its parent. -/
def Tree.wrapAt (chain : List Facts) : List Nat → Tree → Tree
  | [], t => t.wrap chain
  | i :: path, .node facts children => .node facts (children.modify i (Tree.wrapAt chain path))

/-- Where a path leads on after `n` nodes have been put in above the node at `path`. -/
def pathAfter (n : Nat) : List Nat → List Nat → List Nat
  | [], way => List.replicate n 0 ++ way
  | _ :: _, [] => []
  | i :: path, j :: way => if i = j then j :: pathAfter n path way else j :: way

namespace Call

/-! ## What a description rests on -/

/-- The facts of what a tree is under its wrappers. -/
def unwrapped (t : Tree) : Facts := (unwrapFrom [] t).facts

theorem unwrapFrom_facts (above above' : List (Tree × Nat)) (t : Tree) :
    (unwrapFrom above t).facts = (unwrapFrom above' t).facts := by
  fun_induction unwrapFrom above t generalizing above' with
  | case1 above facts child hwrapper ih =>
    rw [unwrapFrom, if_pos hwrapper]
    exact ih _
  | case2 above facts child hwrapper =>
    rw [unwrapFrom, if_neg hwrapper]
    rfl
  | case3 above t ht =>
    rw [unwrapFrom]
    · rfl
    · exact ht

theorem children_unwrap (p : Place) :
    (p.children.map unwrap).map Place.facts = p.tree.children.map unwrapped := by
  rw [← Place.children_map_tree, List.map_map, List.map_map]
  exact List.map_congr_left fun c _ => unwrapFrom_facts _ _ _

/-- The two places look the same to `describe`. -/
structure SameView (p q : Place) : Prop where
  facts : q.facts = p.facts
  below : q.tree.children.map unwrapped = p.tree.children.map unwrapped
  owner : (owner? q).map Place.facts = (owner? p).map Place.facts

theorem constructorChild?_map_facts (p : Place) :
    (constructorChild? p).map Place.facts =
      (p.tree.children.map unwrapped).find? fun f =>
        f.kind == some .call && f.referenced == some .constructor := by
  rw [← children_unwrap, List.find?_map]
  rfl

theorem callee?_map_facts (p : Place) :
    (callee? p).map Place.facts =
      (p.tree.children.map unwrapped).head?.filter fun f => f.kind.any NodeKind.isCallee := by
  rw [← children_unwrap, callee?]
  cases p.children with
  | nil => rfl
  | cons first rest =>
    simp only [List.map_cons, List.head?_cons, Option.filter_some]
    split <;> rfl

section

variable {p q : Place}

theorem describeNew_congr (hfacts : q.facts = p.facts)
    (hchild : (constructorChild? q).map Place.facts = (constructorChild? p).map Place.facts) :
    describeNew q = describeNew p := by
  unfold describeNew
  rw [hfacts]
  cases hq : constructorChild? q with
  | none =>
    rw [hq, Option.map_none, eq_comm, Option.map_eq_none_iff] at hchild
    rw [hchild]
  | some c =>
    rw [hq, Option.map_some, eq_comm, Option.map_eq_some_iff] at hchild
    obtain ⟨d, hp, hcd⟩ := hchild
    rw [hp]
    simp only [hcd]

/-- What is asked of the facts of a place that may be there. -/
theorem bind_facts_congr {α : Type} {x y : Option Place}
    (h : x.map Place.facts = y.map Place.facts) (f : Facts → Option α) :
    (x.bind fun c => f c.facts) = y.bind fun c => f c.facts := by
  have hx (z : Option Place) : (z.bind fun c => f c.facts) = (z.map Place.facts).bind f := by
    cases z <;> rfl
  rw [hx, hx, h]

theorem any_facts_congr {x y : Option Place} (h : x.map Place.facts = y.map Place.facts)
    (f : Facts → Bool) : (x.any fun c => f c.facts) = y.any fun c => f c.facts := by
  have hx (z : Option Place) : (z.any fun c => f c.facts) = (z.map Place.facts).any f := by
    cases z <;> rfl
  rw [hx, hx, h]

theorem describeConstruct_congr (hfacts : q.facts = p.facts)
    (howner : (owner? q).map Place.facts = (owner? p).map Place.facts) :
    describeConstruct q = describeConstruct p := by
  have hnew : (owner? q).any (·.hasKind .newExpr) = (owner? p).any (·.hasKind .newExpr) :=
    any_facts_congr howner fun f => f.kind == some .newExpr
  have hwritten : hasWrittenArguments q = hasWrittenArguments p := by
    unfold hasWrittenArguments
    simp only [hfacts, bind_facts_congr howner]
  rw [describeConstruct, describeConstruct, hnew, hwritten, hfacts]

theorem describeOther_congr (hfacts : q.facts = p.facts)
    (hcallee : (callee? q).map Place.facts = (callee? p).map Place.facts) :
    describeOther q = describeOther p := by
  unfold describeOther
  simp only [hfacts, bind_facts_congr hcallee Facts.name,
    any_facts_congr hcallee fun f => isQualified f.tokens]

theorem describe_of_sameView (h : SameView p q) : describe q = describe p := by
  have hchild : (constructorChild? q).map Place.facts = (constructorChild? p).map Place.facts := by
    rw [constructorChild?_map_facts, constructorChild?_map_facts, h.below]
  have hcallee : (callee? q).map Place.facts = (callee? p).map Place.facts := by
    rw [callee?_map_facts, callee?_map_facts, h.below]
  have hkind (k : NodeKind) : q.hasKind k = p.hasKind k := by
    rw [Place.hasKind, Place.hasKind, h.facts]
  rw [describe, describe, hkind, hkind, h.facts, describeNew_congr h.facts hchild,
    describeConstruct_congr h.facts h.owner, describeOther_congr h.facts hcallee]

end

/-! ## Looking down -/

theorem unwrapped_wrap {chain : List Facts} (hchain : ∀ f ∈ chain, f.IsWrapper) (t : Tree) :
    unwrapped (t.wrap chain) = unwrapped t := by
  induction chain with
  | nil => rfl
  | cons f chain ih =>
    have hkind := (hchain f List.mem_cons_self).kind
    rw [Tree.wrap, unwrapped, unwrapFrom, if_pos hkind, unwrapFrom_facts _ []]
    exact ih fun x hx => hchain x (List.mem_cons_of_mem _ hx)

theorem unwrapped_of_many {facts : Facts} {children : List Tree} (h : children.length ≠ 1) :
    unwrapped (.node facts children) = facts := by
  match children with
  | [] => rfl
  | [_] => exact absurd rfl h
  | _ :: _ :: _ => rfl

/-- What the tree is under its wrappers stays what it was. -/
theorem unwrapped_wrapAt {chain : List Facts} (hchain : ∀ f ∈ chain, f.IsWrapper)
    (path : List Nat) (t : Tree) : unwrapped (t.wrapAt chain path) = unwrapped t := by
  induction path generalizing t with
  | nil => exact unwrapped_wrap hchain t
  | cons i path ih =>
    obtain ⟨facts, children⟩ := t
    rw [Tree.wrapAt]
    by_cases hone : children.length = 1
    · obtain ⟨child, rfl⟩ := List.length_eq_one_iff.mp hone
      cases i with
      | zero =>
        have hchild : [child].modify 0 (Tree.wrapAt chain path) = [child.wrapAt chain path] := rfl
        rw [hchild, unwrapped, unwrapped, unwrapFrom, unwrapFrom]
        split
        · rw [unwrapFrom_facts _ [] (child.wrapAt chain path), unwrapFrom_facts _ [] child]
          exact ih child
        · rfl
      | succ i =>
        have hsame : [child].modify (i + 1) (Tree.wrapAt chain path) = [child] := by simp
        rw [hsame]
    · rw [unwrapped_of_many hone, unwrapped_of_many (by rwa [List.length_modify])]

theorem children_unwrapped_wrapAt {chain : List Facts} (hchain : ∀ f ∈ chain, f.IsWrapper)
    (path : List Nat) (i : Nat) (children : List Tree) :
    (children.modify i (Tree.wrapAt chain path)).map unwrapped = children.map unwrapped := by
  refine List.ext_getElem? fun k => ?_
  rw [List.getElem?_map, List.getElem?_map, List.getElem?_modify]
  split
  · cases children[k]? with
    | none => rfl
    | some t => exact congrArg some (unwrapped_wrapAt hchain path t)
  · cases children[k]? <;> rfl

/-! ## Looking up -/

/-- What is above finds an owner with the same facts. -/
def SameAbove (above above' : List (Tree × Nat)) : Prop :=
  ∀ detached, (ownerAbove detached above').map Place.facts =
    (ownerAbove detached above).map Place.facts

section

variable {above above' : List (Tree × Nat)} {t t' : Tree}

theorem ownerAbove_true (above : List (Tree × Nat)) : ownerAbove true above = none := by
  cases above <;> rfl

theorem SameAbove.cons (h : SameAbove above above') (hfacts : t'.facts = t.facts) (i j : Nat) :
    SameAbove ((t, i) :: above) ((t', j) :: above') := by
  intro detached
  have hwrapper : t'.isWrapper = t.isWrapper := by rw [Tree.isWrapper, Tree.isWrapper, hfacts]
  rw [ownerAbove, ownerAbove, hwrapper, hfacts]
  by_cases hdetached : detached = true
  · rw [if_pos hdetached, if_pos hdetached]
  · rw [if_neg hdetached, if_neg hdetached]
    by_cases ht : t.isWrapper = true
    · rw [if_pos ht, if_pos ht]
      exact h _
    · rw [if_neg ht, if_neg ht]
      exact congrArg some hfacts

/-- A wrapper in between is passed on the way up. -/
theorem SameAbove.wrapper (h : SameAbove above above') (ht : t.facts.IsWrapper) (i : Nat) :
    SameAbove above ((t, i) :: above') := by
  intro detached
  cases detached with
  | true => rw [ownerAbove_true, ownerAbove_true]
  | false =>
    have hwrapper : t.isWrapper = true := ht.kind
    rw [ownerAbove, if_neg Bool.false_ne_true, if_pos hwrapper, ht.attached]
    exact h false

/-- Below the same tree every place looks the same. -/
theorem at?_sameAbove {p : Place} {way : List Nat} (h : SameAbove above above')
    (hp : (⟨t, above⟩ : Place).at? way = some p) :
    ∃ q, (⟨t, above'⟩ : Place).at? way = some q ∧ SameView p q := by
  induction way generalizing t above above' with
  | nil =>
    cases hp
    exact ⟨_, rfl, rfl, rfl, h _⟩
  | cons i way ih =>
    obtain ⟨⟨c, aboveChild⟩, hchild, hp⟩ := Option.bind_eq_some_iff.mp hp
    obtain ⟨hc, rfl⟩ := Place.getElem?_children.mp hchild
    have hchild' : (⟨t, above'⟩ : Place).children[i]? = some ⟨c, (t, i) :: above'⟩ :=
      Place.getElem?_children.mpr ⟨hc, rfl⟩
    obtain ⟨q, hq, hview⟩ := ih (h.cons rfl i i) hp
    refine ⟨q, ?_, hview⟩
    rw [Place.at?, hchild']
    exact hq

theorem at?_wrap {chain : List Facts} (hchain : ∀ f ∈ chain, f.IsWrapper)
    (h : SameAbove above above') (way : List Nat) :
    ∃ above'', SameAbove above above'' ∧
      (⟨t.wrap chain, above'⟩ : Place).at? (List.replicate chain.length 0 ++ way) =
        (⟨t, above''⟩ : Place).at? way := by
  induction chain generalizing above' with
  | nil => exact ⟨above', h, rfl⟩
  | cons f chain ih =>
    have hf : (Tree.node f [t.wrap chain]).facts.IsWrapper := hchain f List.mem_cons_self
    obtain ⟨above'', hsame, hat⟩ :=
      ih (fun x hx => hchain x (List.mem_cons_of_mem _ hx)) (h.wrapper hf 0)
    exact ⟨above'', hsame, hat⟩

/-- Every place of the tree is found again after the chain has been put in, and looks the same. -/
theorem at?_wrapAt {chain : List Facts} (hchain : ∀ f ∈ chain, f.IsWrapper) (path : List Nat)
    (h : SameAbove above above') {p : Place} {way : List Nat}
    (hp : (⟨t, above⟩ : Place).at? way = some p) :
    ∃ q, (⟨t.wrapAt chain path, above'⟩ : Place).at? (pathAfter chain.length path way) = some q ∧
      SameView p q := by
  induction path generalizing t above above' way with
  | nil =>
    obtain ⟨above'', hsame, hat⟩ := at?_wrap (t := t) hchain h way
    rw [Tree.wrapAt, pathAfter, hat]
    exact at?_sameAbove hsame hp
  | cons i path ih =>
    obtain ⟨facts, children⟩ := t
    cases way with
    | nil =>
      cases hp
      exact ⟨_, rfl, rfl, children_unwrapped_wrapAt hchain path i children, h _⟩
    | cons j way =>
      obtain ⟨⟨c, aboveChild⟩, hchild, hp⟩ := Option.bind_eq_some_iff.mp hp
      obtain ⟨hc, rfl⟩ := Place.getElem?_children.mp hchild
      have hc : children[j]? = some c := hc
      let t' : Tree := .node facts (children.modify i (Tree.wrapAt chain path))
      have hfacts : t'.facts = (Tree.node facts children).facts := rfl
      have habove := h.cons hfacts j j
      by_cases hij : i = j
      · subst hij
        have hchild' : (⟨t', above'⟩ : Place).children[i]? =
            some ⟨c.wrapAt chain path, (t', i) :: above'⟩ := by
          refine Place.getElem?_children.mpr ⟨?_, rfl⟩
          simp [t', Tree.children, hc]
        obtain ⟨q, hq, hview⟩ := ih habove hp
        refine ⟨q, ?_, hview⟩
        rw [Tree.wrapAt, pathAfter, if_pos rfl, Place.at?, hchild']
        exact hq
      · have hchild' : (⟨t', above'⟩ : Place).children[j]? = some ⟨c, (t', j) :: above'⟩ := by
          refine Place.getElem?_children.mpr ⟨?_, rfl⟩
          simp [t', Tree.children, hc, hij]
        obtain ⟨q, hq, hview⟩ := at?_sameAbove habove hp
        refine ⟨q, ?_, hview⟩
        rw [Tree.wrapAt, pathAfter, if_neg hij, Place.at?, hchild']
        exact hq

end

/-- **Wrappers are transparent.** Put a chain of wrappers, of any length, between any node of a tree
and its parent: every node of the tree is found again on its path, with its description. -/
theorem describe_wrapAt {t : Tree} {chain : List Facts} (hchain : ∀ f ∈ chain, f.IsWrapper)
    (path : List Nat) {p : Place} (hp : p ∈ t.places []) :
    ∃ q ∈ (t.wrapAt chain path).places [], q.path = pathAfter chain.length path p.path ∧
      q.facts = p.facts ∧ describe q = describe p := by
  obtain ⟨way, hway⟩ := mem_places_iff_at?.mp hp
  obtain ⟨q, hq, hview⟩ := at?_wrapAt hchain path (fun _ => rfl) hway
  have hpath : p.path = way := Place.path_of_at? hway
  refine ⟨q, mem_places_iff_at?.mpr ⟨_, hq⟩, ?_, hview.facts, describe_of_sameView hview⟩
  rw [hpath]
  exact Place.path_of_at? hq

/-- `(Widget(5))` under `new`, with two more wrappers above it: it belongs to the new-expression as
before. -/
theorem describe_wrapAt_above_construct :
    let tokens := ["Widget", "(", "5", ")"]
    let construct := constructTree "Widget" tokens [.starting (some "a.cpp") 1]
    let paren : Tree := .node { kind := some .paren } [construct]
    let t := newTree ("new" :: tokens) [paren]
    let chain : List Facts := [{ kind := some .unexposed }, { kind := some .paren }]
    (⟨construct, [(paren, 0), (t, 0)]⟩ : Place) ∈ t.places [] ∧
      ∃ q ∈ (t.wrapAt chain [0]).places [], q.path = [0, 0, 0, 0] ∧ describe q = notACall := by
  intro tokens construct paren t chain
  have hchain : ∀ f ∈ chain, f.IsWrapper := by
    intro f hf
    simp only [chain, List.mem_cons, List.not_mem_nil, or_false] at hf
    rcases hf with rfl | rfl <;> exact ⟨rfl, rfl⟩
  have hp : (⟨construct, [(paren, 0), (t, 0)]⟩ : Place) ∈ t.places [] :=
    mem_places_iff_at?.mpr ⟨[0, 0], rfl⟩
  obtain ⟨q, hq, hpath, -, hdescribe⟩ := describe_wrapAt hchain [0] hp
  exact ⟨hp, q, hq, hpath, hdescribe.trans (by decide)⟩

end Call
end CallPolicy

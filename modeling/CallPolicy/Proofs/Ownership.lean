import CallPolicy.Proofs.Reading
import CallPolicy.Proofs.Reporting
import Mathlib.Data.List.Nodup

/-!
# CallPolicy.Proofs.Ownership

Constructor calls that belong to a new-expression. A new-expression looks for its constructor call
from above, a constructor call for its new-expression from below.

* `constructorChild?_eq_some_iff`: what is found from above.
* `constructorChild_owned`: what is found from above finds its way back. One new-expression with its
  constructor call gives one finding at most.
* `owned_construct_found_iff`: a constructor call that finds a new-expression is found by it if and
  only if it is the first one to be reached from there. With another constructor call among the
  placement arguments it is not.
-/

namespace CallPolicy

/-- Places that know their parents, with their children among them. -/
structure Closed (ps : List Place) : Prop where
  attached : ∀ p ∈ ps, p.facts.detached = false
  children : ∀ p ∈ ps, ∀ q ∈ p.children, q ∈ ps

theorem walkBy_closed (realpath : String → String) (target : Option String) (t : Tree) :
    Closed (walkBy realpath target t) := by
  rw [walkBy_eq]
  split
  · rename_i hk
    constructor
    · intro p hp
      rw [← keptPlaces_map_pruned hk] at hp
      obtain ⟨q, -, rfl⟩ := List.mem_map.mp hp
      rw [Place.facts, Place.pruned, Tree.pruned_facts]
      rfl
    · intro p hp q hq
      exact children_mem_places hq _ [] hp
  · constructor
    · intro p hp; cases hp
    · intro p hp; cases hp

theorem walkBy_paths_nodup (realpath : String → String) (target : Option String) (t : Tree) :
    ((walkBy realpath target t).map Place.path).Nodup := by
  rw [walkBy_eq]
  split
  · exact paths_nodup _ []
  · exact List.nodup_nil

namespace Call

/-! ## Down through wrappers -/

/-- Wrappers that hold one expression lead from the one place down to the other. -/
inductive Reaches : Place → Place → Prop
  | here (p : Place) : Reaches p p
  | through {p c q : Place} :
      p.tree.isWrapper = true → p.children = [c] → Reaches c q → Reaches p q

theorem reaches_unwrapFrom (above : List (Tree × Nat)) (t : Tree) :
    Reaches ⟨t, above⟩ (unwrapFrom above t) := by
  fun_induction unwrapFrom above t with
  | case1 above facts child hwrapper ih => exact .through hwrapper rfl ih
  | case2 above facts child hwrapper => exact .here _
  | case3 above t ht => exact .here _

theorem reaches_unwrap (p : Place) : Reaches p (unwrap p) := reaches_unwrapFrom p.above p.tree

theorem unwrap_of_not_wrapper {p : Place} (h : p.tree.isWrapper = false) : unwrap p = p := by
  obtain ⟨⟨facts, children⟩, above⟩ := p
  have hkind : facts.kind.any NodeKind.isWrapper = false := h
  match children with
  | [] => simp [unwrap, unwrapFrom]
  | [child] => simp [unwrap, unwrapFrom, hkind]
  | _ :: _ :: _ => simp [unwrap, unwrapFrom]

theorem unwrap_of_child {p c : Place} (hwrapper : p.tree.isWrapper = true) (hc : p.children = [c]) :
    unwrap p = unwrap c := by
  obtain ⟨⟨facts, children⟩, above⟩ := p
  match children, hc with
  | [child], hc =>
    obtain rfl : _ = c := List.singleton_inj.mp hc
    have hkind : facts.kind.any NodeKind.isWrapper = true := hwrapper
    simp only [unwrap, unwrapFrom, hkind, if_true]

/-- There is nothing further down but through wrappers. -/
theorem unwrap_eq_iff {p q : Place} (hq : q.tree.isWrapper = false) :
    unwrap p = q ↔ Reaches p q := by
  constructor
  · rintro rfl
    exact reaches_unwrap p
  · intro h
    induction h with
    | here p => exact unwrap_of_not_wrapper hq
    | through hwrapper hc _ ih => rw [unwrap_of_child hwrapper hc, ih hq]

/-! ## Up through wrappers -/

theorem owner?_of_child {p c : Place} (hc : c ∈ p.children) (hattached : c.facts.detached = false) :
    owner? c = if p.tree.isWrapper then owner? p else some p := by
  obtain ⟨i, habove⟩ := Place.above_of_mem_children hc
  rw [owner?, habove, ownerAbove, hattached]
  rfl

theorem mem_of_reaches {ps : List Place} (hps : Closed ps) {p q : Place} (h : Reaches p q)
    (hp : p ∈ ps) : q ∈ ps := by
  induction h with
  | here => exact hp
  | @through p c q _ hc _ ih =>
    have hchild : c ∈ p.children := by rw [hc]; exact List.mem_singleton_self _
    exact ih (hps.children p hp c hchild)

/-- On the way down the owner stays the same. -/
theorem owner?_of_reaches {ps : List Place} (hps : Closed ps) {p q : Place} (h : Reaches p q)
    (hp : p ∈ ps) : owner? q = owner? p := by
  induction h with
  | here => rfl
  | @through p c q hwrapper hc _ ih =>
    have hchild : c ∈ p.children := by rw [hc]; exact List.mem_singleton_self _
    have hcps := hps.children p hp c hchild
    rw [ih hcps, owner?_of_child hchild (hps.attached c hcps), if_pos hwrapper]

/-! ## New-expressions -/

theorem not_wrapper_of_hasKind {p : Place} {k : NodeKind} (h : p.hasKind k = true)
    (hk : k.isWrapper = false) : p.tree.isWrapper = false := by
  have hkind : p.tree.facts.kind = some k := eq_of_beq h
  rw [Tree.isWrapper, hkind]
  exact hk

theorem isConstruct_iff {p : Place} :
    isConstruct p = true ↔ p.facts.kind = some .call ∧ p.facts.referenced = some .constructor := by
  simp [isConstruct, Place.hasKind]

theorem not_wrapper_of_isConstruct {p : Place} (h : isConstruct p = true) :
    p.tree.isWrapper = false :=
  not_wrapper_of_hasKind (beq_iff_eq.mpr (isConstruct_iff.mp h).1) rfl

/-- From a child of `p` wrappers that hold one expression lead to `c`, and from none of the children
before it to a constructor call. -/
def FirstReached (p c : Place) : Prop :=
  ∃ (k : Nat) (child : Place), p.children[k]? = some child ∧ Reaches child c ∧
    ∀ j < k, ∀ earlier : Place, p.children[j]? = some earlier →
      ∀ q, Reaches earlier q → isConstruct q = false

theorem constructorChild?_eq_some_iff {p c : Place} :
    constructorChild? p = some c ↔ isConstruct c = true ∧ FirstReached p c := by
  rw [constructorChild?, List.find?_eq_some_iff_getElem]
  refine and_congr_right fun hc => ?_
  constructor
  · rintro ⟨k, hk, hget, hbefore⟩
    rw [List.length_map] at hk
    rw [List.getElem_map] at hget
    refine ⟨k, _, List.getElem?_eq_getElem hk,
      (unwrap_eq_iff (not_wrapper_of_isConstruct hc)).mp hget, ?_⟩
    intro j hj earlier hearlier q hq
    obtain ⟨hlt, rfl⟩ := List.getElem?_eq_some_iff.mp hearlier
    have hnone := hbefore j hj
    rw [List.getElem_map] at hnone
    by_contra hcon
    rw [Bool.not_eq_false] at hcon
    rw [(unwrap_eq_iff (not_wrapper_of_isConstruct hcon)).mpr hq, hcon] at hnone
    cases hnone
  · rintro ⟨k, child, hchild, hreach, hbefore⟩
    obtain ⟨hk, rfl⟩ := List.getElem?_eq_some_iff.mp hchild
    refine ⟨k, by rwa [List.length_map], ?_, ?_⟩
    · rw [List.getElem_map]
      exact (unwrap_eq_iff (not_wrapper_of_isConstruct hc)).mpr hreach
    · intro j hj
      rw [List.getElem_map, hbefore j hj _ (List.getElem?_eq_getElem _) _ (reaches_unwrap _)]
      rfl

theorem describe_construct_of_new {n c : Place} (hc : isConstruct c = true)
    (howner : owner? c = some n) (hn : n.hasKind .newExpr = true) : describe c = notACall := by
  obtain ⟨hkind, href⟩ := isConstruct_iff.mp hc
  have hcall : c.hasKind .call = true := by rw [Place.hasKind, hkind]; rfl
  have hnew : c.hasKind .newExpr = false := by rw [Place.hasKind, hkind]; rfl
  simp [describe, hcall, hnew, href, describeConstruct, howner, hn]

theorem site?_of_notACall {p : Place} (h : describe p = notACall) (b : Bool) :
    site? b p = none := by
  rw [site?, h]
  rfl

theorem findingAt_of_notACall {place : Place} (h : describe place = notACall) (p : Policy) :
    p.findingAt place = none := by
  rw [Policy.findingAt, Policy.violation?, site?_of_notACall h]
  rfl

theorem owner?_constructorChild {ps : List Place} (hps : Closed ps) {n c : Place} (hn : n ∈ ps)
    (hnew : n.hasKind .newExpr = true) (hc : constructorChild? n = some c) :
    c ∈ ps ∧ owner? c = some n := by
  obtain ⟨-, k, child, hchild, hreach, -⟩ := constructorChild?_eq_some_iff.mp hc
  have hmem := List.mem_of_getElem? hchild
  have hps' := hps.children n hn child hmem
  have hwrapper := not_wrapper_of_hasKind hnew rfl
  refine ⟨mem_of_reaches hps hreach hps', ?_⟩
  rw [owner?_of_reaches hps hreach hps', owner?_of_child hmem (hps.attached child hps'), hwrapper]
  rfl

theorem findings_at_pair {ps : List Place} (hnodup : (ps.map Place.path).Nodup) {n c : Place}
    (hc : c ∈ ps) {p : Policy} (hnone : p.findingAt c = none) :
    ((ps.filter fun q => q.path = n.path ∨ q.path = c.path).filterMap p.findingAt).length ≤ 1 := by
  have hfound : (ps.filter fun q => q.path = n.path ∨ q.path = c.path).filterMap p.findingAt =
      (ps.filter fun q => q.path = n.path).filterMap p.findingAt := by
    rw [List.filterMap_filter, List.filterMap_filter]
    refine List.filterMap_congr fun q hq => ?_
    by_cases hpath : q.path = c.path
    · obtain rfl : q = c := List.inj_on_of_nodup_map hnodup hq hc hpath
      simp [hnone]
    · simp [hpath]
  calc ((ps.filter fun q => q.path = n.path ∨ q.path = c.path).filterMap p.findingAt).length
      ≤ (ps.filter fun q => q.path = n.path).length := by
        rw [hfound]; exact List.length_filterMap_le _ _
    _ = (ps.map Place.path).count n.path := by
        simp [List.count, List.countP_eq_length_filter, List.filter_map, Function.comp_def,
          beq_eq_decide]
    _ ≤ 1 := List.nodup_iff_count_le_one.mp hnodup _

/-- **No new-expression is reported twice.** What one new-expression finds as its constructor call
is no call by itself, and is not found by another. Going over the two, any policy finds and reports
one thing at most. -/
theorem constructorChild_owned (realpath : String → String) (target : Option String) (t : Tree)
    (n c : Place) (hn : n ∈ walkBy realpath target t) (hnew : n.hasKind .newExpr = true)
    (hc : constructorChild? n = some c) :
    (c ∈ walkBy realpath target t ∧ owner? c = some n) ∧
    (describe c = notACall ∧ ∀ checkConstructors, site? checkConstructors c = none) ∧
    (∀ m ∈ walkBy realpath target t, m.hasKind .newExpr = true →
      constructorChild? m = some c → m = n) ∧
    ∀ (p : Policy) (start : Policy.Trace),
      let pair := (walkBy realpath target t).filter fun q => q.path = n.path ∨ q.path = c.path
      let (result, after) := (p.run pair).run start
      result.length ≤ 1 ∧ after.reported.length ≤ start.reported.length + 1 := by
  have hps := walkBy_closed realpath target t
  have howned := owner?_constructorChild hps hn hnew hc
  have hnone := describe_construct_of_new (constructorChild?_eq_some_iff.mp hc).1 howned.2 hnew
  refine ⟨howned, ⟨hnone, site?_of_notACall hnone⟩, ?_, ?_⟩
  · intro m hm hmnew hmc
    have howner := (owner?_constructorChild hps hm hmnew hmc).2
    exact Option.some.inj (howner.symm.trans howned.2)
  · intro p start
    have hone := findings_at_pair (walkBy_paths_nodup realpath target t) (n := n) howned.1
      (findingAt_of_notACall hnone p)
    simp only [Policy.run_eq, Policy.addAll_reported]
    refine ⟨?_, ?_⟩
    · rw [Check.inSourceOrder, List.length_mergeSort]
      exact hone
    · rw [List.length_append]
      omega

/-- A constructor call as a parser hands it over. -/
def constructTree (name : String) (tokens : List String) (arguments : List Argument) : Tree :=
  .node { kind := some .call, name := some name, tokens, arguments,
          referenced := some .constructor } []

/-- A new-expression, likewise. -/
def newTree (tokens : List String) (children : List Tree) : Tree :=
  .node { kind := some .newExpr, tokens } children

/-- The constructor call of `new Widget(5)` in a wrapper. -/
theorem constructorChild_owned_in_wrapper :
    let construct := constructTree "Widget" ["Widget", "(", "5", ")"] [.starting (some "a.cpp") 1]
    let wrapper := Tree.node { kind := some .unexposed } [construct]
    let t := newTree ["new", "Widget", "(", "5", ")"] [wrapper]
    let n : Place := ⟨t, []⟩
    let c : Place := ⟨construct, [(wrapper, 0), (t, 0)]⟩
    n ∈ walkBy id none t ∧ constructorChild? n = some c ∧ owner? c = some n ∧
      describe c = notACall := by
  intro construct wrapper t n c
  have hn : n ∈ walkBy id none t := by
    rw [walkBy_eq]
    exact Tree.root_mem_places _ _
  have hc : constructorChild? n = some c := rfl
  obtain ⟨⟨-, howner⟩, ⟨hnone, -⟩, -⟩ := constructorChild_owned id none t n c hn rfl hc
  exact ⟨hn, hc, howner, hnone⟩

/-! ## Constructor calls that are not found -/

/-- The new-expression finds the constructor call, and shows the number of arguments written
there. -/
structure ReportsOn (n c : Place) : Prop where
  found : constructorChild? n = some c
  counted : (describe n).shape = .construction →
    (describe n).argumentCount = writtenArguments c.facts

theorem argumentCount_of_constructorChild {n c : Place} (hnew : n.hasKind .newExpr = true)
    (hc : constructorChild? n = some c) (hshape : (describe n).shape = .construction) :
    (describe n).argumentCount = writtenArguments c.facts := by
  rw [describe, if_pos hnew] at hshape ⊢
  simp only [describeNew, hc] at hshape ⊢
  split at hshape
  · cases hshape
  · split at hshape <;> first | rfl | cases hshape

theorem firstReached_unique {n c d : Place} (hc : isConstruct c = true) (hd : isConstruct d = true)
    (hfirst : FirstReached n c) (hfirst' : FirstReached n d) : c = d :=
  Option.some.inj <| (constructorChild?_eq_some_iff.mpr ⟨hc, hfirst⟩).symm.trans
    (constructorChild?_eq_some_iff.mpr ⟨hd, hfirst'⟩)

/-- **Which constructor calls are lost.** One that belongs to a new-expression is no call by itself.
The new-expression reports on it if and only if it is the first one reached from there, which is so
of one at most. -/
theorem owned_construct_found_iff (n c : Place) (hnew : n.hasKind .newExpr = true)
    (hc : isConstruct c = true) (howner : owner? c = some n) :
    describe c = notACall ∧ (ReportsOn n c ↔ FirstReached n c) ∧
      ∀ d, isConstruct d = true → owner? d = some n → d ≠ c → FirstReached n c →
        describe d = notACall ∧ ¬ ReportsOn n d := by
  have hiff : ReportsOn n c ↔ FirstReached n c := by
    constructor
    · intro h
      exact (constructorChild?_eq_some_iff.mp h.found).2
    · intro hfirst
      have hfound := constructorChild?_eq_some_iff.mpr ⟨hc, hfirst⟩
      exact ⟨hfound, argumentCount_of_constructorChild hnew hfound⟩
  refine ⟨describe_construct_of_new hc howner hnew, hiff, ?_⟩
  intro d hd hdowner hne hfirst
  refine ⟨describe_construct_of_new hd hdowner hnew, ?_⟩
  intro h
  exact hne (firstReached_unique hd hc (constructorChild?_eq_some_iff.mp h.found).2 hfirst)

theorem construct_in_wrapper_found :
    let construct := constructTree "Widget" ["Widget", "(", "5", ")"] [.starting (some "a.cpp") 1]
    let wrapper := Tree.node { kind := some .unexposed } [construct]
    let t := newTree ["new", "Widget", "(", "5", ")"] [wrapper]
    ReportsOn ⟨t, []⟩ ⟨construct, [(wrapper, 0), (t, 0)]⟩ := by
  intro construct wrapper t
  obtain ⟨-, hiff, -⟩ :=
    owned_construct_found_iff ⟨t, []⟩ ⟨construct, [(wrapper, 0), (t, 0)]⟩ rfl rfl rfl
  refine hiff.mpr ⟨0, ⟨wrapper, [(t, 0)]⟩, rfl, .through rfl rfl (.here _), ?_⟩
  intro j hj
  omega

/-- `new (Tag(1, 2)) Widget(5)`: the new-expression is told with two arguments, and there is no call
of `Tag`. -/
theorem placement_construct_lost :
    let file : Option String := some "a.cpp"
    let tag := constructTree "Tag" ["Tag", "(", "1", ",", "2", ")"]
      [.starting file 1, .starting file 1]
    let widget := constructTree "Widget" ["Widget", "(", "5", ")"] [.starting file 1]
    let typeRef := Tree.node { kind := some (.other "TYPE_REF") } []
    let t := newTree ["new", "(", "Tag", "(", "1", ",", "2", ")", ")", "Widget", "(", "5", ")"]
      [tag, typeRef, widget]
    let n : Place := ⟨t, []⟩
    let c : Place := ⟨widget, [(t, 2)]⟩
    let d : Place := ⟨tag, [(t, 0)]⟩
    (n ∈ walkBy id none t ∧ c ∈ walkBy id none t ∧ d ∈ walkBy id none t) ∧
      (n.hasKind .newExpr = true ∧ isConstruct c = true ∧ hasWrittenArguments c = true ∧
        owner? c = some n ∧ isConstruct d = true ∧ hasWrittenArguments d = true ∧
        owner? d = some n) ∧
      describe n = ⟨.construction, some "Widget", 2⟩ ∧ writtenArguments c.facts = 1 ∧
      describe c = notACall ∧ describe d = notACall ∧ ¬ ReportsOn n c := by
  intro file tag widget typeRef t n c d
  have hwalk : walkBy id none t = [n, d, ⟨typeRef, [(t, 1)]⟩, c] := by
    rw [walkBy_eq]
    rfl
  have hn : describe n = ⟨.construction, some "Widget", 2⟩ := by decide
  have hc : describe c = notACall := describe_construct_of_new rfl rfl rfl
  have hd : describe d = notACall := describe_construct_of_new rfl rfl rfl
  refine ⟨by simp [hwalk], ⟨rfl, rfl, by decide, rfl, rfl, by decide, rfl⟩, hn, rfl, hc, hd, ?_⟩
  intro h
  have hcount := h.counted (by rw [hn])
  rw [hn] at hcount
  exact absurd hcount (by decide)

end Call
end CallPolicy

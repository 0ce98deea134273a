import CallPolicy.Proofs.Reporting

/-!
# CallPolicy.Proofs.Agenda

Runs of checks of any kind, told by what is asked of the checks. The agenda of a run lists this in
order; `PerformsAll` says what the checks answer and what becomes of the state they share.

* `performsAll_iff`, `emitted_eq`: what a run finds is what the tasks on its agenda find, in order.
* `found_perm`: checks that keep nothing from node to node find the same in any order of nodes.
* `run_arranges_found`: the result of a run is what was found, in source order.
-/

namespace CallPolicy
namespace Check

/-- One thing that is asked of a check. -/
inductive Task (σ α β : Type) where
  | look (c : Check (StateM σ) α β) (x : α)
  | finish (c : Check (StateM σ) α β)

section

variable {σ α β : Type}

/-- Every check looks at a node, in their order. -/
def visits (checks : List (Check (StateM σ) α β)) (x : α) : List (Task σ α β) :=
  checks.map (.look · x)

/-- All that a run asks: node by node every check looks at it, and then every check finishes. -/
def agenda (checks : List (Check (StateM σ) α β)) (nodes : List α) : List (Task σ α β) :=
  nodes.flatMap (visits checks) ++ checks.map .finish

/-- A task that is done in the state `s` gives these findings and leaves the state `s'`. A check
that looks at a node first says whether it cares for it, and then may still find nothing. -/
inductive Performs : Task σ α β → σ → List β → σ → Prop
  | passed {c : Check (StateM σ) α β} {x : α} {s s' : σ}
      (hselects : (c.selects x).run s = (false, s')) : Performs (.look c x) s [] s'
  | declined {c : Check (StateM σ) α β} {x : α} {s s₁ s' : σ}
      (hselects : (c.selects x).run s = (true, s₁))
      (happly : (c.apply x).run s₁ = (none, s')) : Performs (.look c x) s [] s'
  | found {c : Check (StateM σ) α β} {x : α} {s s₁ s' : σ} {b : β}
      (hselects : (c.selects x).run s = (true, s₁))
      (happly : (c.apply x).run s₁ = (some b, s')) : Performs (.look c x) s [b] s'
  | finished {c : Check (StateM σ) α β} {s s' : σ} {bs : List β}
      (hfinish : c.finish.run s = (bs, s')) : Performs (.finish c) s bs s'

/-- Tasks done one after another, each in the state that the one before it left. -/
inductive PerformsAll : List (Task σ α β) → σ → List (List β) → σ → Prop
  | nil (s : σ) : PerformsAll [] s [] s
  | cons {t : Task σ α β} {ts : List (Task σ α β)} {s s₁ s' : σ} {bs : List β}
      {found : List (List β)} (hfirst : Performs t s bs s₁) (hrest : PerformsAll ts s₁ found s') :
      PerformsAll (t :: ts) s (bs :: found) s'

/-- What the tasks find does not depend on the state they start in. -/
def Forget (ts : List (Task σ α β)) : Prop :=
  ∀ s₁ s₂ found₁ found₂ s₁' s₂', PerformsAll ts s₁ found₁ s₁' → PerformsAll ts s₂ found₂ s₂' →
    found₁ = found₂

/-- The checks keep no state between nodes: what they find at a node, and what they add at the end,
does not depend on what they were asked before. -/
structure KeepNothing (checks : List (Check (StateM σ) α β)) : Prop where
  atNode : ∀ x, Forget (visits checks x)
  atEnd : Forget (checks.map Task.finish)

/-! ## Tasks -/

/-- A task as the program does it. -/
def Task.perform : Task σ α β → StateM σ (List β)
  | look c x => c.atNode x
  | finish c => c.finish

theorem atNode_run_eq (c : Check (StateM σ) α β) (x : α) (s : σ) :
    (c.atNode x).run s =
      match (c.selects x).run s with
      | (false, s₁) => ([], s₁)
      | (true, s₁) => (((c.apply x).run s₁).1.toList, ((c.apply x).run s₁).2) := by
  rw [atNode, StateT.run_bind]
  rcases (c.selects x).run s with ⟨selected, s₁⟩
  cases selected <;> rfl

theorem performs_iff {t : Task σ α β} {s s' : σ} {bs : List β} :
    Performs t s bs s' ↔ t.perform.run s = (bs, s') := by
  constructor
  · intro h
    cases h with
    | passed hselects => rw [Task.perform, atNode_run_eq, hselects]
    | declined hselects happly => simp only [Task.perform, atNode_run_eq, hselects, happly]; rfl
    | found hselects happly => simp only [Task.perform, atNode_run_eq, hselects, happly]; rfl
    | finished hfinish => exact hfinish
  · cases t with
    | finish c => exact .finished
    | look c x =>
      rw [Task.perform, atNode_run_eq]
      rcases hselects : (c.selects x).run s with ⟨selected, s₁⟩
      cases selected with
      | false =>
        intro h
        cases h
        exact .passed hselects
      | true =>
        rcases happly : (c.apply x).run s₁ with ⟨found, s₂⟩
        simp only [happly]
        intro h
        cases h
        cases found with
        | none => exact .declined hselects happly
        | some b => exact .found hselects happly

theorem performsAll_iff {ts : List (Task σ α β)} {s s' : σ} {found : List (List β)} :
    PerformsAll ts s found s' ↔ (ts.mapM Task.perform).run s = (found, s') := by
  induction ts generalizing s found with
  | nil =>
    constructor
    · intro h; cases h; rfl
    · intro h; cases h; exact .nil _
  | cons t ts ih =>
    rw [run_mapM_cons]
    constructor
    · intro h
      cases h with
      | cons hfirst hrest => simp only [performs_iff.mp hfirst, ih.mp hrest]
    · intro h
      cases h
      exact .cons (performs_iff.mpr rfl) (ih.mpr rfl)

/-! ## Runs -/

variable (checks : List (Check (StateM σ) α β)) (nodes : List α)

theorem mapM_visits (x : α) :
    (visits checks x).mapM Task.perform = checks.mapM (·.atNode x) := by
  rw [visits, List.mapM_map]
  rfl

/-- Nodes one by one, and at each the checks one by one, are one list of tasks. -/
theorem mapM_nodes :
    (nodes.flatMap (visits checks)).mapM Task.perform =
      List.flatten <$> nodes.mapM fun x => checks.mapM (·.atNode x) := by
  induction nodes with
  | nil => simp
  | cons x nodes ih =>
    rw [List.flatMap_cons, List.mapM_append, mapM_visits, ih, List.mapM_cons]
    simp

/-- A run does what its agenda says, and what it finds stands in this order. -/
theorem emitted_eq :
    emitted checks nodes = List.flatten <$> (agenda checks nodes).mapM Task.perform := by
  have hfinish : (checks.map Task.finish).mapM Task.perform =
      checks.mapM fun c : Check (StateM σ) α β => c.finish := by
    rw [List.mapM_map]
    rfl
  rw [agenda, List.mapM_append, mapM_nodes, hfinish, emitted]
  simp

theorem run_of_performsAll {rank : β → Rank} {s s' : σ} {found : List (List β)}
    (h : PerformsAll (agenda checks nodes) s found s') :
    (run rank checks nodes).run s = (inSourceOrder rank found.flatten, s') := by
  have hrun : (run rank checks nodes).run s =
      (inSourceOrder rank ((emitted checks nodes).run s).1, ((emitted checks nodes).run s).2) := rfl
  rw [hrun, emitted_eq, StateT.run_map, performsAll_iff.mp h]
  rfl

/-! ## Checks that keep nothing -/

variable {checks}

theorem Forget.run_fst {ts : List (Task σ α β)} (h : Forget ts) (s t : σ) :
    ((ts.mapM Task.perform).run s).1 = ((ts.mapM Task.perform).run t).1 :=
  h _ _ _ _ _ _ (performsAll_iff.mpr rfl) (performsAll_iff.mpr rfl)

/-- What is found on the way does not hang on it: each node is as if it were alone. -/
theorem nodes_run_fst (h : ∀ x, Forget (visits checks x)) (s t : σ) :
    (((nodes.flatMap (visits checks)).mapM Task.perform).run s).1 =
      nodes.flatMap fun x => (((visits checks x).mapM Task.perform).run t).1 := by
  induction nodes generalizing s with
  | nil => rfl
  | cons x nodes ih =>
    rw [List.flatMap_cons, List.flatMap_cons, List.mapM_append, ← (h x).run_fst s t]
    exact congrArg (_ ++ ·) (ih _)

theorem found_eq (h : KeepNothing checks) {s s' : σ} {found : List (List β)}
    (hfound : PerformsAll (agenda checks nodes) s found s') (t : σ) :
    found = (nodes.flatMap fun x => (((visits checks x).mapM Task.perform).run t).1) ++
      (((checks.map Task.finish).mapM Task.perform).run t).1 := by
  have hrun : found = (((agenda checks nodes).mapM Task.perform).run s).1 := by
    rw [performsAll_iff.mp hfound]
  rw [hrun, agenda, List.mapM_append, ← nodes_run_fst nodes h.atNode s t]
  exact congrArg (_ ++ ·) (h.atEnd.run_fst _ t)

variable {nodes}

/-- In another order of the nodes the same is found. -/
theorem found_perm (h : KeepNothing checks) {nodes' : List α} (hperm : nodes'.Perm nodes)
    {s t s' t' : σ} {found found' : List (List β)}
    (hfound : PerformsAll (agenda checks nodes) s found t)
    (hfound' : PerformsAll (agenda checks nodes') s' found' t') :
    found'.flatten.Perm found.flatten := by
  rw [found_eq nodes h hfound s, found_eq nodes' h hfound' s]
  exact ((hperm.flatMap_right _).append_right _).flatten

theorem forget_of_each {ts : List (Task σ α β)}
    (h : ∀ t ∈ ts, ∀ s s', (t.perform.run s).1 = (t.perform.run s').1) : Forget ts := by
  induction ts with
  | nil =>
    intro s₁ s₂ found₁ found₂ s₁' s₂' h₁ h₂
    cases h₁
    cases h₂
    rfl
  | cons t ts ih =>
    intro s₁ s₂ found₁ found₂ s₁' s₂' h₁ h₂
    cases h₁ with
    | cons hfirst₁ hrest₁ =>
      cases h₂ with
      | cons hfirst₂ hrest₂ =>
        have hfirst := h t List.mem_cons_self s₁ s₂
        rw [performs_iff.mp hfirst₁, performs_iff.mp hfirst₂] at hfirst
        have hrest := ih (fun t ht => h t (List.mem_cons_of_mem _ ht)) _ _ _ _ _ _ hrest₁ hrest₂
        exact congr (congrArg List.cons hfirst) hrest

/-- It is enough that every check by itself keeps nothing. -/
theorem keepNothing_of_each
    (hnode : ∀ c ∈ checks, ∀ x s s', ((c.atNode x).run s).1 = ((c.atNode x).run s').1)
    (hend : ∀ c ∈ checks, ∀ s s', (c.finish.run s).1 = (c.finish.run s').1) :
    KeepNothing checks := by
  constructor
  · intro x
    refine forget_of_each fun t ht => ?_
    obtain ⟨c, hc, rfl⟩ := List.mem_map.mp ht
    exact hnode c hc x
  · refine forget_of_each fun t ht => ?_
    obtain ⟨c, hc, rfl⟩ := List.mem_map.mp ht
    exact hend c hc

/-! ## Results -/

/-- **What a run of checks gives.** The checks may be any, with a state they share. Everything on
the agenda is asked once, in order; the result holds the findings, by line and column, and those of
one position in the order of finding. An absent line ranks as 1000000000, an absent column as zero.
If the checks keep nothing between nodes and no two findings have one position, the order of the
nodes makes no difference. -/
theorem run_arranges_found (line column : β → Coordinate) (checks : List (Check (StateM σ) α β))
    (nodes : List α) (start : σ) :
    let rank (b : β) : Rank := .ofPosition (line b) (column b)
    let position (b : β) : Rank := ⟨(line b).value?.getD 1000000000, (column b).value?.getD 0⟩
    let (result, after) := (run rank checks nodes).run start
    ∃ found, PerformsAll (agenda checks nodes) start found after ∧
      Arranges position found.flatten result ∧
      (KeepNothing checks → found.flatten.Pairwise (fun a b => position a ≠ position b) →
        ∀ nodes' start', nodes'.Perm nodes →
          ((run rank checks nodes').run start').1 = result) := by
  intro rank position
  have hrank : rank = position := funext fun b => Rank.ofPosition_eq (line b) (column b)
  rw [hrank]
  have hfound : PerformsAll (agenda checks nodes) start
      (((agenda checks nodes).mapM Task.perform).run start).1
      (((agenda checks nodes).mapM Task.perform).run start).2 := performsAll_iff.mpr rfl
  rw [run_of_performsAll checks nodes hfound]
  refine ⟨_, hfound, inSourceOrder_arranges position _, ?_⟩
  intro hkeep hdifferent nodes' start' hperm
  have hfound' : PerformsAll (agenda checks nodes') start'
      (((agenda checks nodes').mapM Task.perform).run start').1
      (((agenda checks nodes').mapM Task.perform).run start').2 := performsAll_iff.mpr rfl
  rw [run_of_performsAll checks nodes' hfound']
  exact inSourceOrder_eq_of_perm position (found_perm hkeep hperm hfound hfound') hdifferent

end

/-- Counts the numbers it is shown, finds all but 2 and 4, and one thing without a line. -/
def counter : Check (StateM Nat) Nat (Coordinate × Coordinate) where
  selects n := do
    modify (· + 1)
    return n != 2
  apply n := return if n = 4 then none else some (.number n, .absent)
  finish := return [(.absent, .flag true)]

/-- Finds every number, in another column. -/
def marker : Check (StateM Nat) Nat (Coordinate × Coordinate) where
  selects _ := return true
  apply n := return some (.number n, .number 7)
  finish := return []

theorem counter_marker_keepNothing : KeepNothing [counter, marker] := by
  have hcases {c : Check (StateM Nat) Nat (Coordinate × Coordinate)}
      (hc : c ∈ [counter, marker]) : c = counter ∨ c = marker := by simpa using hc
  refine keepNothing_of_each ?_ ?_
  · intro c hc n s s'
    rcases hcases hc with rfl | rfl
    · have hselects (t : Nat) : (counter.selects n).run t = (n != 2, t + 1) := rfl
      rw [atNode_run_eq, atNode_run_eq, hselects, hselects]
      cases n != 2 <;> rfl
    · rfl
  · intro c hc s s'
    rcases hcases hc with rfl | rfl <;> rfl

/-- The count goes on from node to node, and what is found does not hang on it. -/
theorem run_arranges_found_shuffled :
    let rank (b : Coordinate × Coordinate) : Rank := .ofPosition b.1 b.2
    let position (b : Coordinate × Coordinate) : Rank :=
      ⟨b.1.value?.getD 1000000000, b.2.value?.getD 0⟩
    ∃ found, PerformsAll (agenda [counter, marker] [3, 1, 4, 2]) 0 found 4 ∧
      KeepNothing [counter, marker] ∧
      found.flatten.Pairwise (fun a b => position a ≠ position b) ∧
      [1, 2, 3, 4].Perm [3, 1, 4, 2] ∧
      ((run rank [counter, marker] [1, 2, 3, 4]).run 9).1 =
        ((run rank [counter, marker] [3, 1, 4, 2]).run 0).1 := by
  intro rank position
  obtain ⟨found, hfound, -, hshuffled⟩ :=
    run_arranges_found Prod.fst Prod.snd [counter, marker] [3, 1, 4, 2] 0
  have hlist : found = [[(.number 3, .absent)], [(.number 3, .number 7)],
      [(.number 1, .absent)], [(.number 1, .number 7)], [], [(.number 4, .number 7)],
      [], [(.number 2, .number 7)], [(.absent, .flag true)], []] :=
    (congrArg Prod.fst (performsAll_iff.mp hfound)).symm
  have hdifferent : found.flatten.Pairwise (fun a b => position a ≠ position b) := by
    rw [hlist]
    decide
  have hperm : [1, 2, 3, 4].Perm [3, 1, 4, 2] := by decide
  exact ⟨found, hfound, counter_marker_keepNothing, hdifferent, hperm,
    hshuffled counter_marker_keepNothing hdifferent _ 9 hperm⟩

end Check
end CallPolicy

import CallPolicy.Proofs.Inspecting

/-!
# CallPolicy.Proofs.Merging

The items of a report are sorted after the findings of the policy have been, by an order of their
own. Here the two orders are shown to agree.

* `sorted_eq`: items of known origin are sorted by a linear order of places and origins.
* `sorted_sorted`: sorting them again changes nothing.
* `check_merges`: in the report on a file the findings stand in the order of the run, and what the
  parser says of one place in the parser's order.
-/

namespace CallPolicy
namespace Report

namespace Origin

/-- Parser, rule and run, in the order of their labels. -/
def order : Origin → Nat
  | parser => 0
  | rule => 1
  | run => 2
  | other _ => 3

/-- One of the origins that a check gives its items. -/
def IsKnown : Origin → Prop
  | other _ => False
  | _ => True

theorem atMost_iff_order {a b : Origin} (ha : a.IsKnown) (hb : b.IsKnown) :
    a.atMost b = true ↔ a.order ≤ b.order := by
  cases a <;> cases b <;> simp only [IsKnown] at ha hb <;> decide

theorem word?_le_of_order_le {a b : Origin} (ha : a.IsKnown) (hb : b.IsKnown)
    (h : a.order ≤ b.order) : ∃ s t, a.word? = some s ∧ b.word? = some t ∧ s ≤ t := by
  have hle := (atMost_iff_order ha hb).mpr h
  cases a <;> cases b <;> simp only [IsKnown] at ha hb <;>
    exact ⟨_, _, rfl, rfl, of_decide_eq_true hle⟩

end Origin

/-- The graver comes first. -/
theorem Severity.rank_eq_idxOf (s : Severity) :
    s.rank = [Severity.error, .warning, .info, .other].idxOf s := by
  cases s <;> rfl

namespace Item

/-- By line, column, severity and the word for the origin, the earlier of them deciding first. What
is absent counts as line 1000000000 and as column zero. -/
def Precedes (a b : Item) : Prop :=
  let line (i : Item) : Int := i.line.value?.getD 1000000000
  let column (i : Item) : Int := i.column.value?.getD 0
  let severity (i : Item) : Nat := [Severity.error, .warning, .info, .other].idxOf i.severity
  line a < line b ∨ line a = line b ∧
    (column a < column b ∨ column a = column b ∧
      (severity a < severity b ∨ severity a = severity b ∧
        ∃ s t, a.origin.word? = some s ∧ b.origin.word? = some t ∧ s ≤ t))

/-- Where an item stands but for its origin. -/
def spot (i : Item) : Int × Int × Severity :=
  (i.line.value?.getD 1000000000, i.column.value?.getD 0, i.severity)

/-- The same by the order of the origins: a linear order, whatever the items. -/
def comesBy (a b : Item) : Bool :=
  a.line.lineRank < b.line.lineRank || (a.line.lineRank == b.line.lineRank &&
    (a.column.columnRank < b.column.columnRank || (a.column.columnRank == b.column.columnRank &&
      (a.severity.rank < b.severity.rank || (a.severity.rank == b.severity.rank &&
        a.origin.order ≤ b.origin.order)))))

section

variable {a b c : Item}

theorem comesBy_iff : a.comesBy b = true ↔
    a.line.lineRank < b.line.lineRank ∨ a.line.lineRank = b.line.lineRank ∧
      (a.column.columnRank < b.column.columnRank ∨ a.column.columnRank = b.column.columnRank ∧
        (a.severity.rank < b.severity.rank ∨ a.severity.rank = b.severity.rank ∧
          a.origin.order ≤ b.origin.order)) := by
  simp [comesBy]

theorem comesBy_trans (a b c : Item) (hab : a.comesBy b = true) (hbc : b.comesBy c = true) :
    a.comesBy c = true := by
  rw [comesBy_iff] at hab hbc ⊢
  omega

theorem comesBy_total (a b : Item) : (a.comesBy b || b.comesBy a) = true := by
  rw [Bool.or_eq_true, comesBy_iff, comesBy_iff]
  omega

theorem atMost_eq_comesBy (ha : a.origin.IsKnown) (hb : b.origin.IsKnown) :
    a.atMost b = a.comesBy b := by
  have horigin : a.origin.atMost b.origin = decide (a.origin.order ≤ b.origin.order) := by
    rw [Bool.eq_iff_iff, Origin.atMost_iff_order ha hb, decide_eq_true_iff]
  simp only [atMost, place, comesBy, horigin]
  rfl

theorem precedes_of_comesBy (ha : a.origin.IsKnown) (hb : b.origin.IsKnown)
    (h : a.comesBy b = true) : a.Precedes b := by
  simp only [Precedes, ← Severity.rank_eq_idxOf]
  rcases comesBy_iff.mp h with h | ⟨hline, h | ⟨hcolumn, h | ⟨hseverity, h⟩⟩⟩
  · exact Or.inl h
  · exact Or.inr ⟨hline, Or.inl h⟩
  · exact Or.inr ⟨hline, Or.inr ⟨hcolumn, Or.inl h⟩⟩
  · exact Or.inr ⟨hline, Or.inr ⟨hcolumn, Or.inr ⟨hseverity, Origin.word?_le_of_order_le ha hb h⟩⟩⟩

theorem comesBy_of_spot_eq (hspot : a.spot = b.spot)
    (horigin : a.origin.order = b.origin.order) : a.comesBy b = true := by
  simp only [spot, Prod.mk.injEq] at hspot
  obtain ⟨hline, hcolumn, hseverity⟩ := hspot
  rw [comesBy_iff, hseverity, horigin]
  exact Or.inr ⟨hline, Or.inr ⟨hcolumn, Or.inr ⟨rfl, Nat.le_refl _⟩⟩⟩

end
end Item

/-! ## Sorting -/

section

variable {items : List Item}

/-- Among items of known origin the order of labels is the order of origins. -/
theorem sorted_eq (h : ∀ i ∈ items, i.origin.IsKnown) :
    sorted items = items.mergeSort Item.comesBy := by
  have hagree : ∀ a ∈ items, ∀ b ∈ items,
      (id a : Item).atMost (id b) = (id a : Item).comesBy (id b) :=
    fun a ha b hb => Item.atMost_eq_comesBy (h a ha) (h b hb)
  have hmap := List.map_mergeSort (f := id) hagree
  rw [List.map_id, List.map_id] at hmap
  exact hmap

theorem pairwise_sorted (h : ∀ i ∈ items, i.origin.IsKnown) :
    (sorted items).Pairwise fun a b => a.comesBy b = true := by
  rw [sorted_eq h]
  exact List.pairwise_mergeSort Item.comesBy_trans Item.comesBy_total items

theorem isKnown_of_mem_sorted (h : ∀ i ∈ items, i.origin.IsKnown) :
    ∀ i ∈ sorted items, i.origin.IsKnown :=
  fun i hi => h i ((sorted_perm items).mem_iff.mp hi)

theorem sorted_sorted (h : ∀ i ∈ items, i.origin.IsKnown) :
    sorted (sorted items) = sorted items := by
  rw [sorted_eq (isKnown_of_mem_sorted h)]
  exact List.mergeSort_of_pairwise (pairwise_sorted h)

/-- Items that are in order among themselves are taken over as they stand. -/
theorem filter_sorted (h : ∀ i ∈ items, i.origin.IsKnown) {p : Item → Bool}
    (hp : (items.filter p).Pairwise fun a b => a.comesBy b = true) :
    (sorted items).filter p = items.filter p := by
  rw [sorted_eq h]
  exact filter_mergeSort Item.comesBy_trans Item.comesBy_total hp

end

end Report

/-- Where the item of a diagnostic stands but for its origin. -/
def Diagnostic.spot (d : Diagnostic) : Int × Int × Report.Severity :=
  (d.line.value?.getD 1000000000, d.column.value?.getD 0, d.gravity)

namespace Inspection

open Report

theorem spot_ofDiagnostic (d : Diagnostic) : (ofDiagnostic d).spot = d.spot := by
  rw [Item.spot, Diagnostic.spot, ← (ofDiagnostic_tells d).severity]
  rfl

/-- The report holds the diagnostics `ds` and the findings, each kind in its own order: findings as
they were found, diagnostics of one place and severity as the parser told them. -/
structure Merges (r : Result) (ds : List Diagnostic) (findings : List Finding) : Prop where
  items : ∃ told found, r.items.Perm (told ++ found) ∧
    List.Forall₂ TellsDiagnostic told ds ∧ List.Forall₂ TellsFinding found findings
  ordered : r.items.Pairwise Item.Precedes
  findings : List.Forall₂ TellsFinding (r.items.filter (·.origin.word? = some "rule")) findings
  diagnostics : ∀ spot, List.Forall₂ TellsDiagnostic
    (r.items.filter fun i => i.origin.word? = some "clang" ∧ i.spot = spot)
    (ds.filter fun d => d.spot = spot)
  settled : sorted r.items = r.items

section

variable (ds : List Diagnostic) (findings : List Finding)

theorem isKnown_of_mem : ∀ i ∈ ds.map ofDiagnostic ++ findings.map ofFinding,
    i.origin.IsKnown := by
  intro i hi
  rcases List.mem_append.mp hi with hi | hi
  · obtain ⟨d, -, rfl⟩ := List.mem_map.mp hi
    trivial
  · obtain ⟨f, -, rfl⟩ := List.mem_map.mp hi
    trivial

theorem filter_rules :
    (ds.map ofDiagnostic ++ findings.map ofFinding).filter (·.origin.word? = some "rule") =
      findings.map ofFinding := by
  rw [List.filter_append, List.filter_eq_nil_iff.mpr, List.nil_append, List.filter_eq_self.mpr]
  · intro i hi
    exact decide_eq_true (word?_of_mem_ofFinding hi)
  · intro i hi
    rw [word?_of_mem_ofDiagnostic hi]
    decide

theorem filter_spot (spot : Int × Int × Severity) :
    (ds.map ofDiagnostic ++ findings.map ofFinding).filter
        (fun i => i.origin.word? = some "clang" ∧ i.spot = spot) =
      (ds.filter fun d => d.spot = spot).map ofDiagnostic := by
  have hdiagnostics : ∀ d ∈ ds,
      decide ((ofDiagnostic d).origin.word? = some "clang" ∧ (ofDiagnostic d).spot = spot) =
        decide (d.spot = spot) := by
    intro d _
    rw [decide_eq_decide, spot_ofDiagnostic]
    exact and_iff_right rfl
  have hfindings : ∀ i ∈ findings.map ofFinding,
      ¬ decide (i.origin.word? = some "clang" ∧ i.spot = spot) = true := by
    intro i hi h
    have hword := (of_decide_eq_true h).1
    rw [word?_of_mem_ofFinding hi] at hword
    exact absurd hword (by decide)
  rw [List.filter_append, List.filter_eq_nil_iff.mpr hfindings, List.append_nil, List.filter_map]
  exact congrArg _ (List.filter_congr hdiagnostics)

/-- The order of the findings of a run is an order of their items. -/
theorem pairwise_ofFinding {findings : List Finding}
    (h : findings.Pairwise fun a b => Check.precedes Finding.rank a b = true) :
    (findings.map ofFinding).Pairwise fun a b => a.comesBy b = true := by
  rw [List.pairwise_map]
  refine h.imp fun hab => ?_
  rw [Item.comesBy_iff]
  rcases Rank.atMost_iff.mp hab with hline | ⟨hline, hcolumn⟩
  · exact Or.inl hline
  · refine Or.inr ⟨hline, ?_⟩
    rcases Int.lt_or_eq_of_le hcolumn with hcolumn | hcolumn
    · exact Or.inl hcolumn
    · exact Or.inr ⟨hcolumn, Or.inr ⟨rfl, Nat.le_refl _⟩⟩

theorem pairwise_of_spot (spot : Int × Int × Severity) :
    ((ds.filter fun d => d.spot = spot).map ofDiagnostic).Pairwise
      fun a b => a.comesBy b = true := by
  rw [List.pairwise_map]
  refine List.pairwise_of_forall_mem_list fun d hd e he => ?_
  have hd := of_decide_eq_true (List.mem_filter.mp hd).2
  have he := of_decide_eq_true (List.mem_filter.mp he).2
  refine Item.comesBy_of_spot_eq ?_ rfl
  rw [spot_ofDiagnostic, spot_ofDiagnostic, hd, he]

theorem succeeded_merges (file path : String) {findings : List Finding}
    (hordered : findings.Pairwise fun a b => Check.precedes Finding.rank a b = true)
    (htold : List.Forall₂ TellsFinding (findings.map ofFinding) findings) :
    Merges (succeeded file path (ds.map ofDiagnostic ++ findings.map ofFinding)) ds findings := by
  have hknown := isKnown_of_mem ds findings
  constructor
  · exact ⟨_, _, sorted_perm _, forall₂_ofDiagnostic ds, htold⟩
  · refine (pairwise_sorted hknown).imp_of_mem fun ha hb hab => ?_
    exact Item.precedes_of_comesBy (isKnown_of_mem_sorted hknown _ ha)
      (isKnown_of_mem_sorted hknown _ hb) hab
  · have hrules : (sorted (ds.map ofDiagnostic ++ findings.map ofFinding)).filter
        (·.origin.word? = some "rule") = findings.map ofFinding := by
      refine (filter_sorted hknown ?_).trans (filter_rules ds findings)
      rw [filter_rules]
      exact pairwise_ofFinding hordered
    rw [succeeded, hrules]
    exact htold
  · intro spot
    have hspot : (sorted (ds.map ofDiagnostic ++ findings.map ofFinding)).filter
        (fun i => i.origin.word? = some "clang" ∧ i.spot = spot) =
          (ds.filter fun d => d.spot = spot).map ofDiagnostic := by
      refine (filter_sorted hknown ?_).trans (filter_spot ds findings spot)
      rw [filter_spot]
      exact pairwise_of_spot ds spot
    rw [succeeded, hspot]
    exact forall₂_ofDiagnostic _
  · exact sorted_sorted hknown

end

/-- The findings of a run are in source order. -/
theorem run_pairwise (p : Policy) (places : List Place) (start : Policy.Trace) :
    ((p.run places).run start).1.Pairwise fun a b => Check.precedes Finding.rank a b = true := by
  rw [Policy.run_eq]
  exact List.pairwise_mergeSort (Check.precedes_trans _) (Check.precedes_total _) _

/-- Only what a path leads to is parsed. -/
theorem isPath_of_parse {w : Workspace} {name : String} {u : SourceUnit}
    (h : w.parse name = .ok u) : Path.isPath name = true := by
  cases hname : Path.isPath name with
  | true => rfl
  | false =>
    have hmissing : w.files.exists? name = false := by
      simp only [Files.exists?, Files.lookup, hname, Bool.false_eq_true, if_false]
    rw [Workspace.parse, hmissing] at h
    cases h

/-- **The report keeps the order of the run.** Where the file is parsed and nothing blocks, the
items of the report are those of the parser and of the policy, in the order of reports. The findings
among them are those of the run, in its order; what the parser says at one place and with one
severity stands as the parser said it; and the items are in their final order. -/
theorem check_merges (w : Workspace) (p : Policy) (name : String) (start : Policy.Trace)
    (u : SourceUnit) (hparsed : w.parse name = .ok u)
    (hclean : ¬ ∃ d ∈ u.diagnostics,
      d.Concerns w.realpath (w.realpath.resolve name) ∧ d.Blocks) :
    let path := w.realpath.resolve name
    let findings := ((p.run (walkBy w.realpath.resolve (some path) u.tree)).run start).1
    ∃ r, ((ExceptT.run (check w p name)).run start).1 = .ok r ∧
      Merges r (u.diagnostics.filter (·.Concerns w.realpath path)) findings := by
  intro path findings
  have herror : hasError ((kept w.realpath path u.diagnostics).map ofDiagnostic) = false := by
    refine Bool.eq_false_iff.mpr fun h => hclean ?_
    obtain ⟨d, hd, hblocks⟩ := (hasError_map_iff _).mp h
    obtain ⟨hmem, hconcerns⟩ := List.mem_filter.mp hd
    exact ⟨d, hmem, of_decide_eq_true hconcerns, hblocks⟩
  rw [check_run w p (isPath_of_parse hparsed), hparsed]
  simp only [path, herror, Bool.false_eq_true, if_false]
  exact ⟨_, rfl, succeeded_merges _ _ _ (run_pairwise p _ start) (forall₂_ofFinding p _ start)⟩

/-- Two calls of `stop`, the later one first in the tree, and a warning, a note and a warning
without a place beside them. -/
def mixedUnit : SourceUnit where
  tree := .node { kind := some (.other "TRANSLATION_UNIT"), name := some "a.cpp" }
    [.node { kind := some .call, name := some "stop", line := .number 7, column := .number 3,
             file := some "a.cpp", tokens := ["stop", "(", ")"] } [],
      .node { kind := some .call, name := some "stop", line := .number 2, column := .number 3,
              file := some "a.cpp", tokens := ["stop", "(", ")"] } []]
  diagnostics :=
    [⟨.warning, some "unused", some "a.cpp", .number 7, .number 3⟩,
      ⟨.note, some "declared here", some "a.cpp", .number 2, .number 3⟩,
      ⟨.fatal, some "elsewhere", some "b.h", .number 1, .number 1⟩,
      ⟨.warning, some "unused too", some "a.cpp", .number 7, .number 3⟩,
      ⟨.warning, some "no place", none, .absent, .absent⟩]

def mixedWorkspace : Workspace where
  files := ⟨[(["a.cpp"], .file [])]⟩
  units := [("/a.cpp", some mixedUnit)]

def stopPolicy : Policy where
  rules := [⟨"no stop", ⟨"stop", ⟨{}, [none], "stop".toList.map fun c => .literal c.toNat⟩⟩, none,
    none⟩]

theorem parse_mixedWorkspace : mixedWorkspace.parse "a.cpp" = .ok mixedUnit := by
  have hexists : mixedWorkspace.files.exists? "a.cpp" = true := by decide +kernel
  have hfile : mixedWorkspace.files.isFile "a.cpp" = true := by decide +kernel
  have hpath : mixedWorkspace.realpath.resolve "a.cpp" = "/a.cpp" := by decide +kernel
  rw [Workspace.parse, hexists, hfile, hpath]
  rfl

/-- A finding between two warnings of the parser on one place, and another before it. -/
theorem check_merges_mixed :
    let w := mixedWorkspace
    let path := w.realpath.resolve "a.cpp"
    w.parse "a.cpp" = .ok mixedUnit ∧
      (¬ ∃ d ∈ mixedUnit.diagnostics, d.Concerns w.realpath path ∧ d.Blocks) ∧
      ∃ r, ((ExceptT.run (check w stopPolicy "a.cpp")).run {}).1 = .ok r ∧
        Merges r (mixedUnit.diagnostics.filter (·.Concerns w.realpath path))
          ((stopPolicy.run (walkBy w.realpath.resolve (some path) mixedUnit.tree)).run {}).1 := by
  intro w path
  have hclean : ¬ ∃ d ∈ mixedUnit.diagnostics, d.Concerns w.realpath path ∧ d.Blocks := by
    decide +kernel
  exact ⟨parse_mixedWorkspace, hclean,
    check_merges mixedWorkspace stopPolicy "a.cpp" {} mixedUnit parse_mixedWorkspace hclean⟩

end Inspection
end CallPolicy

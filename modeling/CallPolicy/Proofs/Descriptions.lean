import CallPolicy.Proofs.DependentCalls
import CallPolicy.Proofs.Extending

/-!
# CallPolicy.Proofs.Descriptions

What every description of a node is, whatever its tokens, its children and the nodes above it: it
names a call exactly if it tells of one, and counts arguments only where there are some to count.

* `describeNew_isWhole`, `describeConstruct_isWhole`, `describeOther_isWhole`: each way to describe
  a node keeps to this.
* `describe_identifies`: so what rules are matched against always has a name.
-/

namespace CallPolicy
namespace Call

/-- Name, shape and number of arguments agree: what is no call has no name, what is one has a name
that is not empty, and arguments are counted only for shapes that have them. -/
structure Description.IsWhole (d : Description) : Prop where
  name_eq_none_iff : d.name = none ↔ d.shape = .notACall
  name_ne_empty : d.name ≠ some ""
  count_eq_zero : d.shape.isCheckable = false → d.argumentCount = 0

namespace Description.IsWhole

variable {shape : Shape} {name : String}

theorem notACall : Call.notACall.IsWhole :=
  ⟨by simp [Call.notACall], by simp [Call.notACall], fun _ => rfl⟩

theorem uncounted (hne : name ≠ "") (hshape : shape ≠ .notACall) :
    IsWhole ⟨shape, some name, 0⟩ :=
  ⟨by simp [hshape], by simp [hne], fun _ => rfl⟩

theorem counted (hne : name ≠ "") (hshape : shape.isCheckable = true) (n : Nat) :
    IsWhole ⟨shape, some name, n⟩ := by
  have hcall : shape ≠ .notACall := by rintro rfl; cases hshape
  exact ⟨by simp [hcall], by simp [hne], by simp [hshape]⟩

end Description.IsWhole

section

variable {p : Place} {name : String} {b : Bool} {s : Site}

theorem ne_empty_of_nonEmpty? {t : Option String} (h : nonEmpty? t = some name) : name ≠ "" := by
  cases t with
  | none => cases h
  | some t =>
    by_cases ht : t = ""
    · simp [nonEmpty?, ht] at h
    · simp only [nonEmpty?, if_neg ht, Option.some.injEq] at h
      exact h ▸ ht

theorem ne_empty_of_lastName {callee : List String} (h : lastName callee = some name) :
    name ≠ "" := by
  have hword : isIdentifier name = true := (List.mem_filter.mp (List.mem_of_getLast? h)).2
  rintro rfl
  cases hword

theorem isCheckable_callShape (qualified : Bool) : (callShape qualified).isCheckable = true := by
  cases qualified <;> rfl

/-! ## The ways to describe a node -/

theorem describeNew_isWhole (p : Place) : (describeNew p).IsWhole := by
  unfold describeNew
  dsimp only
  split
  · exact .notACall
  · rename_i name hname
    have hne := ne_empty_of_nonEmpty? hname
    split
    · exact .uncounted hne (by decide)
    · split <;> exact .counted hne rfl _
    · split <;> exact .counted hne rfl _
    · exact .uncounted hne (by decide)

theorem describeConstruct_isWhole (p : Place) : (describeConstruct p).IsWhole := by
  unfold describeConstruct
  split
  · exact .notACall
  · split
    · exact .notACall
    · rename_i name hname
      have hne := ne_empty_of_nonEmpty? hname
      split
      · exact .counted hne rfl _
      · exact .uncounted hne (by decide)

theorem describeOther_isWhole (p : Place) : (describeOther p).IsWhole := by
  unfold describeOther
  dsimp only
  split
  · rename_i name hname
    have hne : name ≠ "" := by
      rcases Option.or_eq_some_iff.mp hname with h | ⟨-, h⟩ <;> exact ne_empty_of_nonEmpty? h
    exact .counted hne (isCheckable_callShape _) _
  · split
    · exact .notACall
    · split
      · exact .notACall
      · rename_i name hname
        exact .counted (ne_empty_of_lastName hname) (isCheckable_callShape _) _

theorem describe_isWhole (p : Place) : (describe p).IsWhole := by
  unfold describe
  split
  · exact describeNew_isWhole p
  · split
    · split
      · exact describeConstruct_isWhole p
      · exact describeOther_isWhole p
    · exact .notACall

/-! ## Arguments of the node itself -/

theorem describeConstruct_count_le (p : Place) :
    (describeConstruct p).argumentCount ≤ writtenArguments p.facts := by
  unfold describeConstruct
  split
  · exact Nat.zero_le _
  · split
    · exact Nat.zero_le _
    · split
      · exact Nat.le_refl _
      · exact Nat.zero_le _

theorem describeOther_count_le (p : Place) :
    (describeOther p).argumentCount ≤ writtenArguments p.facts := by
  unfold describeOther
  dsimp only
  split
  · exact Nat.le_refl _
  · split
    · exact Nat.zero_le _
    · split
      · exact Nat.zero_le _
      · exact Nat.le_refl _

/-- A call has no more arguments than its node lists. -/
theorem describe_count_le (hcall : p.hasKind .call = true) :
    (describe p).argumentCount ≤ p.facts.arguments.length := by
  have hnew : p.hasKind .newExpr = false := by
    rw [Place.hasKind, eq_of_beq hcall]
    rfl
  have hwritten : writtenArguments p.facts ≤ p.facts.arguments.length := List.countP_le_length
  unfold describe
  rw [if_neg (by simp [hnew]), if_pos hcall]
  split
  · exact (describeConstruct_count_le p).trans hwritten
  · exact (describeOther_count_le p).trans hwritten

/-! ## What rules are matched against -/

/-- No call that rules are checked against is passed over because it has no name. -/
theorem isSome_site?_iff : (site? b p).isSome = true ↔ (describe p).shape.isCheckable = true ∧
    ((describe p).shape = .construction → b = true) := by
  rw [Option.isSome_iff_exists]
  constructor
  · rintro ⟨s, hs⟩
    obtain ⟨hshape, hswitch, -⟩ := site?_eq_some_iff.mp hs
    exact ⟨hshape, fun hconstruction => hswitch.resolve_right (not_not_intro hconstruction)⟩
  · rintro ⟨hshape, hswitch⟩
    have hcall : (describe p).name ≠ none := by
      rw [Ne, (describe_isWhole p).name_eq_none_iff]
      intro hnone
      rw [hnone] at hshape
      cases hshape
    obtain ⟨name, hname⟩ := Option.ne_none_iff_exists'.mp hcall
    refine ⟨⟨(describe p).shape, name, (describe p).argumentCount, p.facts.line, p.facts.column⟩,
      site?_eq_some_iff.mpr ⟨hshape, ?_, hname, rfl, rfl, rfl, rfl⟩⟩
    by_cases hconstruction : (describe p).shape = .construction
    · exact Or.inl (hswitch hconstruction)
    · exact Or.inr hconstruction

/-- **Whatever the node, its description is whole, and so is what rules are matched against.** A
site is there exactly if the shape is one that rules are checked against, with the switch for
constructor calls where it is one; it has a name that is not empty. The switch adds sites and
changes none. -/
theorem describe_identifies (p : Place) :
    (describe p).IsWhole ∧
    (p.hasKind .call = true → (describe p).argumentCount ≤ p.facts.arguments.length) ∧
    (∀ b, (site? b p).isSome = true ↔ (describe p).shape.isCheckable = true ∧
      ((describe p).shape = .construction → b = true)) ∧
    (∀ b s, site? b p = some s → s.name ≠ "" ∧ s.shape.isCheckable = true ∧
      (s.shape = .construction → b = true) ∧
      describe p = ⟨s.shape, some s.name, s.argumentCount⟩) ∧
    ∀ s, site? false p = some s → site? true p = some s := by
  have hwhole := describe_isWhole p
  refine ⟨hwhole, describe_count_le, fun b => isSome_site?_iff, ?_, fun s hs => site?_or hs true⟩
  intro b s hs
  obtain ⟨hshape, hswitch, hname, heq, hcount, -⟩ := site?_eq_some_iff.mp hs
  refine ⟨?_, ?_, ?_, ?_⟩
  · intro hempty
    rw [hempty] at hname
    exact hwhole.name_ne_empty hname
  · rw [heq]
    exact hshape
  · rw [heq]
    intro hconstruction
    exact hswitch.resolve_right (not_not_intro hconstruction)
  · rw [heq, ← hname, hcount]

end

end Call
end CallPolicy

import CallPolicy.Finding

/-!
# CallPolicy.Proofs.Wording

What a finding says of a call, and how that is told: by a key and a list of arguments, and by the
message worded from the two.

* `render_contents`: the message is the sentence with its texts as they are, and the reason behind.
* `read?_args`: the contents are read back from the form and the arguments.
* `message_tells`: so every finding has a message, and key and arguments tell its contents exactly.
-/

namespace CallPolicy
namespace Message

/-- What a finding says of a call. -/
structure Contents where
  name : String
  namePattern : String
  /-- The number of arguments and the pattern it matches, where the rule has one. -/
  count : Option (Int × String)
  reason : Option String
  deriving DecidableEq

namespace Contents

/-- What is said of a call that breaks a rule. -/
def ofCall (name : String) (count : Int) (rule : Rule) : Contents where
  name := name
  namePattern := rule.namePattern.text
  count := rule.countPattern.map fun p => (count, p.text)
  reason := rule.reason

/-- The sentence that names the call and what forbids it. -/
def sentence (c : Contents) : String :=
  match c.count with
  | some (n, pattern) =>
    "Call to '" ++ c.name ++ "' with " ++ toString n ++
      " argument(s) is forbidden: name matches '" ++ c.namePattern ++
      "' and argument count matches '" ++ pattern ++ "'."
  | none => "Call to '" ++ c.name ++ "' is forbidden: name matches '" ++ c.namePattern ++ "'."

/-- The reason as it stands behind the sentence. An empty one is left out. -/
def because (c : Contents) : String :=
  match c.reason with
  | some reason => if reason = "" then "" else " Reason: " ++ reason
  | none => ""

def text (c : Contents) : String := c.sentence ++ c.because

def form (c : Contents) : Form := if c.count.isSome then .counted else .uncounted

/-- The arguments that the form takes. -/
def ownArgs (c : Contents) : List Datum :=
  match c.count with
  | some (n, pattern) => [.text c.name, .text c.namePattern, .int n, .text pattern]
  | none => [.text c.name, .text c.namePattern]

def args (c : Contents) : List Datum := c.ownArgs ++ c.reason.toList.map .text

/-- The reason, from the arguments behind those that the form takes. -/
def readReason? : List Datum → Option (Option String)
  | [] => some none
  | [.text reason] => some (some reason)
  | _ => none

/-- The contents that a form and its arguments tell. -/
def read? : Form → List Datum → Option Contents
  | .counted, .text name :: .text namePattern :: .int n :: .text pattern :: rest =>
    (readReason? rest).map fun reason => ⟨name, namePattern, some (n, pattern), reason⟩
  | .uncounted, .text name :: .text namePattern :: rest =>
    (readReason? rest).map fun reason => ⟨name, namePattern, none, reason⟩
  | _, _ => none

end Contents

open Contents

/-! ## Keys -/

theorem Form.ofKey?_key (form : Form) : ofKey? form.key = some form := by
  cases form <;> decide

theorem Form.key_inj {form form' : Form} : form.key = form'.key ↔ form = form' := by
  constructor
  · intro h
    have hform : ofKey? form.key = ofKey? form'.key := by rw [h]
    rw [ofKey?_key, ofKey?_key] at hform
    exact Option.some.inj hform
  · rintro rfl
    rfl

/-! ## Contents and their arguments -/

section

variable (c : Contents)

theorem Contents.length_ownArgs : c.ownArgs.length = c.form.arity := by
  unfold ownArgs form
  cases c.count <;> rfl

theorem readReason?_toList (reason : Option String) :
    readReason? (reason.toList.map .text) = some reason := by
  cases reason <;> rfl

/-- Nothing of the contents is lost in the arguments. -/
theorem read?_args : read? c.form c.args = some c := by
  obtain ⟨name, namePattern, count, reason⟩ := c
  cases count <;> simp [form, args, ownArgs, read?, readReason?_toList]

theorem form_args_inj {c c' : Contents} : (c.form = c'.form ∧ c.args = c'.args) ↔ c = c' := by
  constructor
  · rintro ⟨hform, hargs⟩
    have hread : some c = some c' := by rw [← read?_args c, ← read?_args c', hform, hargs]
    exact Option.some.inj hread
  · rintro rfl
    exact ⟨rfl, rfl⟩

/-! ## The message -/

theorem reasonText_because : reasonText (c.reason.map .text) = c.because := by
  unfold because
  cases c.reason with
  | none => rfl
  | some reason =>
    by_cases h : reason = "" <;> simp [reasonText, Datum.truthy, Datum.displayed, h]

/-- The parts of a form's wording, filled in one after the other, are the sentence. -/
theorem fill_pieces : ∃ parts, c.form.pieces.mapM (Piece.fill c.ownArgs) = .ok parts ∧
    String.join parts = c.sentence := by
  obtain ⟨name, namePattern, count, reason⟩ := c
  cases count with
  | none => exact ⟨_, rfl, by simp [String.join, sentence, Datum.displayed]⟩
  | some count => exact ⟨_, rfl, by simp [String.join, sentence, Datum.displayed, Datum.shown]⟩

theorem render_contents : render c.form c.args = .ok c.text := by
  obtain ⟨parts, hparts, hsentence⟩ := fill_pieces c
  have htake : c.args.take c.form.arity = c.ownArgs := by
    rw [args, ← c.length_ownArgs, List.take_left]
  have hreason : c.args[c.form.arity]? = c.reason.map .text := by
    rw [args, ← c.length_ownArgs, List.getElem?_append_right (Nat.le_refl _), Nat.sub_self]
    cases c.reason <;> rfl
  simp only [render, htake, hparts, hreason, hsentence, reasonText_because, text]

/-- Behind the sentence a reason can be told from none: the sentence ends in a full stop. -/
theorem ends_in_reason_iff {reason : String} (h : c.reason = some reason) :
    (∃ front, c.text = front ++ (" Reason: " ++ reason)) ↔ reason ≠ "" := by
  have hstop : ∃ start, c.sentence = start ++ "'." := by
    unfold sentence
    cases c.count <;> exact ⟨_, rfl⟩
  obtain ⟨start, hstop⟩ := hstop
  constructor
  · rintro ⟨front, hfront⟩ rfl
    have hlast : (start ++ "'.").toList.getLast? = (front ++ " Reason: ").toList.getLast? := by
      rw [← hstop]
      simpa [text, because, h] using congrArg (fun s => s.toList.getLast?) hfront
    simp at hlast
  · intro hne
    exact ⟨c.sentence, by simp [text, because, h, hne]⟩

end

/-! ## Findings -/

section

variable (name : String) (count : Int) (line column : Coordinate) (rule : Rule)

theorem form_ofCall :
    (Finding.ofCall name count line column rule).form = (Contents.ofCall name count rule).form := by
  unfold Finding.ofCall Contents.ofCall
  cases rule.countPattern <;> rfl

theorem args_ofCall :
    (Finding.ofCall name count line column rule).args = (Contents.ofCall name count rule).args := by
  unfold Finding.ofCall Contents.ofCall
  cases rule.countPattern <;> rfl

end

/-- **What a finding tells.** Whatever the call and the rule, their texts included, key and
arguments give a message: the sentence, and behind it the reason, unless there is none or an empty
one. Two findings agree on key and arguments exactly if they say the same: the name, the text of its
pattern, whether the number of arguments counts, if so the number and the text of its pattern, and
the reason. -/
theorem message_tells (name : String) (count : Int) (line column : Coordinate) (rule : Rule) :
    renderKey (.text (Finding.ofCall name count line column rule).key)
      (Finding.ofCall name count line column rule).args =
        .ok (Contents.ofCall name count rule).text ∧
    (∀ reason, rule.reason = some reason →
      ((∃ front, (Contents.ofCall name count rule).text = front ++ (" Reason: " ++ reason)) ↔
        reason ≠ "")) ∧
    ∀ name' count' line' column' rule',
      ((Finding.ofCall name' count' line' column' rule').key =
          (Finding.ofCall name count line column rule).key ∧
        (Finding.ofCall name' count' line' column' rule').args =
          (Finding.ofCall name count line column rule).args) ↔
      Contents.ofCall name' count' rule' = Contents.ofCall name count rule := by
  refine ⟨?_, fun reason h => ends_in_reason_iff _ h, ?_⟩
  · rw [Finding.key, form_ofCall, args_ofCall, renderKey, Form.ofKey?_key]
    exact render_contents _
  · intro name' count' line' column' rule'
    rw [Finding.key, Finding.key, Form.key_inj, form_ofCall, form_ofCall, args_ofCall, args_ofCall]
    exact form_args_inj

end Message
end CallPolicy

import CallPolicy.Pattern.Matcher
import CallPolicy.Pattern.Reader

/-!
# CallPolicy.Pattern

A pattern ready for use: its text with what was read from it. `compile` is the only way from text
to a pattern, and `accepts` the only question asked of one.
-/

namespace CallPolicy

structure Pattern where
  text : String
  parsed : Pattern.Parsed

namespace Pattern

def compile (text : String) : Except ReadError Pattern :=
  match readPattern text.toList with
  | .ok parsed => .ok ⟨text, parsed⟩
  | .error e => .error e

/-- Whether the whole of `s` matches. -/
def accepts (p : Pattern) (s : String) : Bool :=
  fullMatch p.parsed.widths p.parsed.mode p.parsed.body s.toList

theorem compile_text {text : String} {p : Pattern} (h : compile text = .ok p) : p.text = text := by
  unfold compile at h
  split at h
  · cases h; rfl
  · cases h

end Pattern
end CallPolicy

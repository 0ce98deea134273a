/-!
# CallPolicy.Pattern.Token

A pattern as a list of tokens, each with its position. A backslash and the character after it are
one token; a backslash at the very end is marked, since nothing may come to it.
-/

namespace CallPolicy
namespace Pattern

inductive Token where
  | char (c : Char)
  | escape (c : Char)
  | dangling
  deriving DecidableEq

namespace Token

def text : Token → List Char
  | char c => [c]
  | escape c => ['\\', c]
  | dangling => ['\\']

end Token

structure Placed where
  token : Token
  position : Nat

/-- The tokens of a pattern that starts at `position`. -/
def tokenize (position : Nat) : List Char → List Placed
  | [] => []
  | ['\\'] => [⟨.dangling, position⟩]
  | '\\' :: c :: cs => ⟨.escape c, position⟩ :: tokenize (position + 2) cs
  | c :: cs => ⟨.char c, position⟩ :: tokenize (position + 1) cs

end Pattern
end CallPolicy

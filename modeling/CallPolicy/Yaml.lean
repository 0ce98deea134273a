import CallPolicy.Text.Utf8
import CallPolicy.Yaml.Value

/-!
# CallPolicy.Yaml

Reads the value of a YAML text with at most one document. A text without a document has no value.
-/

namespace CallPolicy
namespace Yaml

/-- A text with all line ends made line feeds. -/
def unifyLines : List Char → List Char
  | '\r' :: '\n' :: rest => '\n' :: unifyLines rest
  | '\r' :: rest => '\n' :: unifyLines rest
  | c :: rest => c :: unifyLines rest
  | [] => []

/-- Characters that a text may hold. -/
def isPrintable (c : Char) : Bool :=
  let n := c.toNat
  n == 9 || n == 10 || n == 13 || (0x20 ≤ n && n ≤ 0x7E) || n == 0x85 || (0xA0 ≤ n && n ≤ 0xD7FF) ||
    (0xE000 ≤ n && n ≤ 0xFFFD) || 0x10000 ≤ n

/-- The value of a text. -/
def ofText (text : List Char) : Except Failure Datum :=
  let text := unifyLines text
  if !text.all isPrintable then .error .malformed
  else
    match Graph.ofText text with
    | .ok (some g) => g.value
    | .ok none => .ok .null
    | .error e => .error e

end Yaml
end CallPolicy

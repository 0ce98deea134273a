import CallPolicy.Yaml.Cursor

/-!
# CallPolicy.Yaml.Token

The tokens of a YAML text. Indentation shows as tokens of its own that open and close blocks.
-/

namespace CallPolicy
namespace Yaml

/-- A tag as written: its handle, none for one given in full, and the rest. -/
structure WrittenTag where
  handle : Option (List Char)
  suffix : List Char
  deriving DecidableEq

inductive Directive where
  | version (major : Nat)
  | tag (handle expansion : List Char)
  | other
  deriving DecidableEq

inductive Token where
  | directive (d : Directive)
  | documentStart
  | documentEnd
  | blockSequenceStart
  | blockMappingStart
  | blockEnd
  | flowSequenceStart
  | flowSequenceEnd
  | flowMappingStart
  | flowMappingEnd
  | flowEntry
  | blockEntry
  | key
  | value
  | alias (name : List Char)
  | anchor (name : List Char)
  | tag (t : WrittenTag)
  | scalar (text : List Char) (isPlain : Bool)
  | streamEnd
  deriving DecidableEq

end Yaml
end CallPolicy

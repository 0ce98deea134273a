/-!
# CallPolicy.Yaml.Failure

What keeps a YAML text from being read: a text that is none, or a value that does not exist.
-/

namespace CallPolicy
namespace Yaml

/-- Values that are written as of their type and do not exist. -/
inductive BadValue where
  /-- A character whose number is none. -/
  | character
  | number
  /-- A number without a digit. -/
  | emptyNumber
  | truth
  /-- A date or time that is not in the calendar. -/
  | timestamp
  /-- A date or time that is not written as one. -/
  | timestampForm
  deriving DecidableEq

inductive Failure where
  /-- A text that is no YAML, or a node that its tag does not allow. -/
  | malformed
  | value (v : BadValue)
  deriving DecidableEq

end Yaml
end CallPolicy

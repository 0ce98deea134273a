/-!
# CallPolicy.Log

What is told on the side while work goes on.
-/

namespace CallPolicy
namespace Log

inductive Level where
  | debug
  | warning
  deriving DecidableEq

def Level.text : Level → String
  | debug => "DEBUG"
  | warning => "WARNING"

/-- The parts of the program that have something to tell. -/
inductive Origin where
  | policy
  | config
  | rulesFile
  | inspection
  deriving DecidableEq

def Origin.text : Origin → String
  | policy => "forbid_calls_rule"
  | config => "check_config"
  | rulesFile => "forbidden_methods_loader"
  | inspection => "forbid_calls"

structure Entry where
  level : Level
  origin : Origin
  text : String
  deriving DecidableEq

def Entry.line (e : Entry) : String := e.level.text ++ " " ++ e.origin.text ++ ": " ++ e.text

end Log
end CallPolicy

import CallPolicy.Config.Fault
import CallPolicy.Log

/-!
# CallPolicy.Config.Loading

Work that reads configuration: it may fail, and what it has told up to then stays told.
-/

namespace CallPolicy
namespace Config

abbrev Loading (α : Type) := ExceptT Failure (StateM (List Log.Entry)) α

namespace Loading

def tell (e : Log.Entry) : Loading Unit := modify (· ++ [e])

def fail {α : Type} (f : Fault) : Loading α := throw (.fault f)

def ofExcept {α : Type} : Except Failure α → Loading α
  | .ok a => pure a
  | .error e => throw e

/-- The outcome and all that was told. -/
def start {α : Type} (work : Loading α) : Except Failure α × List Log.Entry :=
  (ExceptT.run work).run []

end Loading
end Config
end CallPolicy

import CallPolicy.Coordinate
import CallPolicy.Datum

/-!
# CallPolicy.Coordinate.Data

Lines and columns as data. What is no number and no truth value reads as absent.
-/

namespace CallPolicy
namespace Coordinate

def ofDatum : Datum → Coordinate
  | .int n => .number n
  | .bool b => .flag b
  | _ => .absent

def datum : Coordinate → Datum
  | absent => .null
  | number n => .int n
  | flag b => .bool b

end Coordinate
end CallPolicy

import CallPolicy.Datum
import CallPolicy.Files
import CallPolicy.Reference
import CallPolicy.Text.Utf8

/-!
# CallPolicy.Files.Dump

Snapshots of files as data: a mapping from names to contents. A name stands for a place below the
root.
-/

namespace CallPolicy
namespace Files
namespace Dump

/-- The octets that pairs of digits write. -/
def octets : List Char → List UInt8
  | a :: b :: rest => (Reference.escaped? a b).toList ++ octets rest
  | _ => []

/-- What a datum does at a place. -/
inductive Change where
  | put (e : Entry)
  | remove
  | keep

/-- Text is a file's content, nothing stands for a folder, and a mapping for any other change. -/
def change : Datum → Change
  | .null => .put .folder
  | .text s => .put (.file (Text.Utf8.encode s.toList))
  | .mapping entries =>
    if (Datum.field "denied" entries).truthy then .put .locked
    else if (Datum.field "remove" entries).truthy then .remove
    else
      match Datum.field "hex" entries with
      | .text s => .put (.file (octets s.toList))
      | _ => .put (.file [])
  | _ => .keep

end Dump

/-- Makes the changes of a datum, in order. -/
def update (fs : Files) (d : Datum) : Files :=
  match d with
  | .mapping entries =>
    entries.foldl (fun fs (name, value) =>
      let place := placeOf name.displayed
      match Dump.change value with
      | .put e => fs.add place e
      | .remove => fs.erase place
      | .keep => fs) fs
  | _ => fs

/-- The snapshot that a datum holds. -/
def ofDatum (d : Datum) : Files := update {} d

end Files
end CallPolicy

import CallPolicy.Files.Dump
import CallPolicy.SourceUnit
import CallPolicy.Tree.Dump

/-!
# CallPolicy.SourceUnit.Dump

Workspaces as data: a mapping with the files, and one from source names to what the parser makes of
them.
-/

namespace CallPolicy

/-- The levels by the numbers that the parser gives them. -/
def Diagnostic.Level.numbered : List (Int × Diagnostic.Level) :=
  [(0, .ignored), (1, .note), (2, .warning), (3, .error), (4, .fatal)]

def Diagnostic.Level.ofDatum (d : Datum) : Diagnostic.Level :=
  match numbered.find? fun (n, _) => Datum.sameKey d (.int n) with
  | some (_, level) => level
  | none => .unknown

def Diagnostic.ofDatum (d : Datum) : Diagnostic :=
  let entries := Tree.Dump.entries d
  let level := Diagnostic.Level.ofDatum (Datum.field "severity" entries)
  let message := Tree.Dump.text? (Datum.field "spelling" entries)
  if Tree.Dump.isTrue (Datum.field "no_location" entries) then
    ⟨level, message, none, .absent, .absent⟩
  else
    ⟨level, message, Tree.Dump.text? (Datum.field "file" entries),
      .ofDatum (Datum.field "line" entries), .ofDatum (Datum.field "column" entries)⟩

/-- What the parser makes of a source, nothing when it rejects it. -/
def SourceUnit.ofDatum? (d : Datum) : Option SourceUnit :=
  let entries := Tree.Dump.entries d
  if (Datum.field "load_error" entries).truthy then none
  else
    some
      { tree := Tree.ofDatum none (Datum.field "cursor" entries)
        diagnostics :=
          (Tree.Dump.items (Datum.field "diagnostics" entries)).map Diagnostic.ofDatum }

/-- The workspace that a datum holds. -/
def Workspace.ofDatum (d : Datum) : Workspace :=
  let entries := Tree.Dump.entries d
  let units := Tree.Dump.entries (Datum.field "units" entries)
  units.foldl (fun w (name, unit) => w.add name.displayed (SourceUnit.ofDatum? unit))
    { files := Files.ofDatum (Datum.field "files" entries) }

end CallPolicy

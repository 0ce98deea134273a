import CallPolicy.Policy
import CallPolicy.Report.Result
import CallPolicy.SourceUnit
import CallPolicy.Walk

/-!
# CallPolicy.Inspection

Checking one source file: it is parsed, what the parser says about it is kept, and the policy is run
over the file's own part of the tree. Where the parser finds errors the policy is not run, and the
report says so. A check breaks off without a report only where the name of the file is no path.
-/

namespace CallPolicy
namespace Inspection

open Report

def severity : Diagnostic.Level → Severity
  | .error | .fatal => .error
  | .warning => .warning
  | .ignored | .note | .unknown => .info

def ofDiagnostic (d : Diagnostic) : Item where
  severity := severity d.level
  origin := .parser
  line := d.line
  column := d.column
  message := d.message

/-- The items for diagnostics that lie in the file, or in none. -/
def parserItems (realpath : Path.Resolver) (path : String) (diagnostics : List Diagnostic) :
    List Item :=
  (diagnostics.filter fun d => Walk.belongs realpath.resolve (some path) d.file).map ofDiagnostic

def ofFinding (f : Finding) : Item where
  severity := .warning
  origin := .rule
  line := f.line
  column := f.column
  message := f.message.toOption
  detail := some ⟨f.key, f.args, f.rule⟩

/-- The first of the least coordinates that are present. -/
def least : List Coordinate → Coordinate
  | [] => .absent
  | c :: rest =>
    match c.value?, (least rest).value? with
    | none, _ => least rest
    | some _, none => c
    | some m, some n => if m ≤ n then c else least rest

/-- The item that says that the policy was not run. It stands at the first line with an error. -/
def skipped (items : List Item) : Item where
  severity := .warning
  origin := .run
  line := least ((items.filter (·.severity == .error)).map Item.line)
  column := .absent
  message := some
    ("Forbidden call checks were skipped because parser errors were found. " ++
      "Fix parser errors first, then run the check again.")

/-- The report on a file that cannot be parsed. -/
def failed (file path : String) (why : String) : Result :=
  let message := "Failed to parse " ++ file ++ ": " ++ why
  let items : List Item :=
    [{ severity := .error, origin := .run, line := .absent, column := .absent,
       message := some message }]
  let summary : Summary := { errors := 1, warnings := 0, infos := 0, total := 1, violations := 0 }
  ⟨file, path, some message, items, summary, .none⟩

/-- The report on a file with items in any order. -/
def succeeded (file path : String) (items : List Item) : Result :=
  ⟨file, path, none, sorted items, .ofItems (sorted items), .none⟩

def failureNote (name : String) : Log.Entry :=
  ⟨.debug, .inspection, "Parse failure for " ++ name⟩

/-- Work on source files. A name that is no path breaks it off. -/
abbrev Checking (α : Type) := ExceptT Path.NotPath (StateM Policy.Trace) α

/-- Checks a file. -/
def check (w : Workspace) (p : Policy) (name : String) : Checking Result := do
  if !Path.isPath name then throw ⟨name⟩
  let file := Path.baseName name
  let path := w.realpath.resolve name
  match w.parse name with
  | .error fault =>
    modify fun t => { t with log := t.log ++ [failureNote name] }
    return failed file path (fault.message name)
  | .ok t =>
    let items := parserItems w.realpath path t.diagnostics
    if hasError items then
      return succeeded file path (items ++ [skipped items])
    else
      let findings ← p.run (walkBy w.realpath.resolve (some path) t.tree)
      return succeeded file path (items ++ findings.map ofFinding)

/-- Checks files one after another. -/
def checkAll (w : Workspace) (p : Policy) : List String → Checking (List Result)
  | [] => return []
  | name :: rest => do
    let result ← check w p name
    return result :: (← checkAll w p rest)

end Inspection
end CallPolicy

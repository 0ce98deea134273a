import CallPolicy.Config
import CallPolicy.Inspection
import CallPolicy.Json.Writer

/-!
# CallPolicy.CommandLine

The command line: four switches, two flags with a value, and the names of source files, in any
order. A run checks the files under the policy that the command line asks for, and its output is one
JSON document or lines of text.
-/

namespace CallPolicy
namespace CommandLine

def usage : String :=
  "Usage: python3 forbid_calls.py [--config FILE.yml] [--rules-file FILE.xml] " ++
    "[--optional] [--check-constructors] [--text] [--debug] <file.cpp> ..."

/-- What is wrong with a command line. -/
inductive Fault where
  | missingValue (flag : String)
  | unknownOptions (options : List String)
  | noFiles
  deriving DecidableEq

def Fault.message : Fault → String
  | missingValue flag => "Missing value after " ++ flag ++ "."
  | unknownOptions options =>
    "Unknown option(s): " ++ String.intercalate ", " options ++ ". " ++ usage
  | noFiles => "No files provided. " ++ usage

inductive Switch where
  | text
  | debug
  | optional
  | checkConstructors
  deriving DecidableEq

namespace Switch

def word : Switch → String
  | text => "--text"
  | debug => "--debug"
  | optional => "--optional"
  | checkConstructors => "--check-constructors"

def all : List Switch := [text, debug, optional, checkConstructors]

def isSet (s : Switch) (args : List String) : Bool := args.contains s.word

end Switch

def isSwitch (arg : String) : Bool := Switch.all.any (·.word == arg)

def configFlag : String := "--config"

def rulesFileFlag : String := "--rules-file"

/-- Takes out a flag where it first stands, with the value after it. -/
def takeValue (flag : String) : List String → Except Fault (Option String × List String)
  | [] => .ok (none, [])
  | [a] => if a = flag then .error (.missingValue flag) else .ok (none, [a])
  | a :: b :: rest =>
    if a = flag then .ok (some b, rest)
    else
      match takeValue flag (b :: rest) with
      | .ok (value, others) => .ok (value, a :: others)
      | .error e => .error e

/-- What a command line asks for. -/
structure Options where
  asText : Bool
  debug : Bool
  request : Config.Request
  files : List String

/-- The options of arguments. Switches count wherever they stand; what is left after them and the
flags is files, and none of those may look like an option. -/
def Options.read (args : List String) : Except Fault Options := do
  let (configPath, rest) ← takeValue configFlag (args.filter (!isSwitch ·))
  let (rulesFile, files) ← takeValue rulesFileFlag rest
  let unknown := files.filter (·.startsWith "--")
  if !unknown.isEmpty then throw (.unknownOptions unknown)
  if files.isEmpty then throw .noFiles
  return {
    asText := Switch.text.isSet args
    debug := Switch.debug.isSet args
    request :=
      { configPath, rulesFile, isOptional := .bool (Switch.optional.isSet args),
        checkConstructors := Switch.checkConstructors.isSet args }
    files }

/-- What a run leaves behind. -/
structure Outcome where
  code : Nat
  output : String
  log : List Log.Entry := []

/-- What breaks a run off. -/
inductive Break where
  | config (d : Config.Defect)
  | source (e : Path.NotPath)
  | output (f : Report.Result.TextFault)

/-- The outcome of a run that cannot go on. -/
def failure (asText : Bool) (log : List Log.Entry) (message : String) : Outcome where
  code := 2
  output :=
    if asText then message ++ "\n"
    else Json.write (.record [("ok", .bool false), ("error", .text message)]) ++ "\n"
  log := log

/-- Reports as lines of text, with an empty line between two. More than one have headers. -/
def textOutput (results : List Report.Result) : Except Report.Result.TextFault String := do
  let blocks ← results.mapM fun r => r.lines (1 < results.length)
  return String.intercalate "\n" (blocks.map Report.printed)

/-- Reports as one document. -/
def jsonOutput (p : Policy) (results : List Report.Result) : String :=
  Json.write
    (.record
      [("ok", .bool true), ("results", .list (results.map Report.Result.datum)),
        ("timing_ms", .record [("total", .float 0.0)]),
        ("rules", .list (p.rules.map fun r => .text r.describe)),
        ("check_constructors", .bool p.checkConstructors)]) ++ "\n"

/-- The outcome for files checked under a policy. -/
def inspect (w : Workspace) (p : Policy) (asText : Bool) (files : List String)
    (log : List Log.Entry) : Except Break Outcome := do
  let (outcome, trace) := (ExceptT.run (Inspection.checkAll w p files)).run {}
  let results ← outcome.mapError Break.source
  let output ←
    if asText then (textOutput results).mapError Break.output else pure (jsonOutput p results)
  return ⟨0, output, log ++ trace.log⟩

/-- A run with options, and all that it tells. -/
def perform (w : Workspace) (o : Options) : Except Break Outcome :=
  match (Config.resolve w.files o.request).start with
  | (.ok p, log) => inspect w p o.asText o.files log
  | (.error (.fault f), log) =>
    .ok (failure o.asText log ("Configuration error: " ++ f.message))
  | (.error (.defect d), _) => .error (.config d)

/-- What is shown of the log. -/
def shownLog (debug : Bool) (log : List Log.Entry) : List Log.Entry :=
  if debug then log else log.filter (·.level == .warning)

/-- A run of the program. -/
def run (w : Workspace) (args : List String) : Except Break Outcome :=
  match Options.read args with
  | .error f => .ok (failure (Switch.text.isSet args) [] f.message)
  | .ok o => do
    let outcome ← perform w o
    return { outcome with log := shownLog o.debug outcome.log }

end CommandLine
end CallPolicy

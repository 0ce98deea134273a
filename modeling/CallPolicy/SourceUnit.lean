import CallPolicy.Files
import CallPolicy.Tree

/-!
# CallPolicy.SourceUnit

What a C++ parser makes of a source file: a syntax tree, and diagnostics beside it. A `Workspace` is
a snapshot of files with what the parser makes of them, and with what the links on paths come to.
-/

namespace CallPolicy

/-- How grave a diagnostic is to the parser. -/
inductive Diagnostic.Level where
  | ignored
  | note
  | warning
  | error
  | fatal
  | unknown
  deriving DecidableEq

/-- What the parser has to say about a place. -/
structure Diagnostic where
  level : Diagnostic.Level
  message : Option String
  file : Option String
  line : Coordinate
  column : Coordinate

structure SourceUnit where
  tree : Tree
  diagnostics : List Diagnostic := []

namespace SourceUnit

/-- Why a source is not parsed. -/
inductive Fault where
  | missing
  | notFile
  | rejected
  deriving DecidableEq

def Fault.message (name : String) : Fault → String
  | missing => "Input file does not exist: " ++ name
  | notFile => "Input path is not a file: " ++ name
  | rejected =>
    "Could not parse '" ++ Path.baseName name ++ "'. " ++
      "This usually means severe syntax errors or missing C++ headers/toolchain paths. " ++
      "Try: clang++ -std=gnu++17 -fsyntax-only <file> to see compiler diagnostics."

/-- The arguments the parser is started with. -/
def arguments (extra : List String) : List String := ["-x", "c++", "-std=gnu++17"] ++ extra

/-- What a source with nothing in it is parsed to. -/
def empty (name : String) : SourceUnit where
  tree := .node
    { kind := some (.other "TRANSLATION_UNIT"), name := some name, line := .number 0,
      column := .number 0 } []

end SourceUnit

structure Workspace where
  files : Files := {}
  realpath : Path.Resolver := .lexical
  /-- By resolved path; nothing for a source that the parser rejects. -/
  units : List (String × Option SourceUnit) := []

namespace Workspace

/-- Puts in what the parser makes of a source. The source is there, if only as an empty file. -/
def add (w : Workspace) (name : String) (unit : Option SourceUnit) : Workspace :=
  let place := Files.placeOf name
  let path := Path.rooted place
  { w with
    files := if (w.files.find? place).isSome then w.files else w.files.add place (.file [])
    units := (path, unit) :: w.units.filter (·.1 != path) }

/-- Parses a source. One the parser has made nothing of counts as empty. -/
def parse (w : Workspace) (name : String) : Except SourceUnit.Fault SourceUnit :=
  if !w.files.exists? name then .error .missing
  else if !w.files.isFile name then .error .notFile
  else
    match w.units.lookup (w.realpath.resolve name) with
    | none => .ok (.empty name)
    | some (some t) => .ok t
    | some none => .error .rejected

end Workspace
end CallPolicy

import CallPolicy.Files

/-!
# CallPolicy.ParserLibrary

Where the parser's shared library is looked for: at a place that the environment names, then beside
the program.
-/

namespace CallPolicy
namespace ParserLibrary

abbrev Environment := List (String × String)

/-- The library's file name. -/
def fileName : String := "libclang.so"

/-- The folder of the program. -/
def programFolder : String := "/app"

/-- Variables that name the library or its folder. The first that is not empty counts. -/
def variableNames : List String := ["LIBCLANG_FILE", "LIBCLANG_PATH"]

def named? (env : Environment) : Option String :=
  (variableNames.filterMap fun v => env.lookup v).find? (· != "")

/-- The library at a path: in the folder there, or the very file. -/
def at? (fs : Files) (path : String) : Option String :=
  let file := if fs.isFolder path then Path.join path fileName else path
  if fs.exists? file then some file else none

/-- The places beside the program. -/
def beside : List String := [fileName, Path.join "lib" fileName].map (Path.join programFolder)

/-- The library, where there is one. -/
def find? (fs : Files) (env : Environment) : Option String :=
  match (named? env).bind (at? fs) with
  | some file => some file
  | none => beside.find? fs.exists?

end ParserLibrary
end CallPolicy

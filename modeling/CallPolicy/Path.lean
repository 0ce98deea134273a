/-!
# CallPolicy.Path

Paths as text, with `/` between components and the current directory at the root. The functions here
look at the text alone. Where a path leads when folders on it are symbolic links is for a `Resolver`
to say.
-/

namespace CallPolicy
namespace Path

/-- The parts of a text between slashes. -/
def splitSlash : List Char → List (List Char)
  | [] => [[]]
  | c :: rest =>
    if c = '/' then [] :: splitSlash rest
    else
      match splitSlash rest with
      | [] => [[c]]
      | part :: parts => (c :: part) :: parts

/-- The components of a path, empty ones and `.` left out. -/
def components (path : String) : List String :=
  ((splitSlash path.toList).map String.ofList).filter fun c => c != "" && c != "."

/-- Components with every `..` taken together with the one before it; at the root it is dropped. -/
def collapse (parts : List String) : List String :=
  (parts.foldl (fun done c => if c = ".." then done.tail else c :: done) []).reverse

def isAbsolute (path : String) : Bool := path.startsWith "/"

/-- The path `path` seen from the directory `base`. -/
def join (base path : String) : String :=
  if isAbsolute path then path
  else if base = "" || base.endsWith "/" then base ++ path
  else base ++ "/" ++ path

/-- What follows the last slash. -/
def baseName (path : String) : String :=
  String.ofList (path.toList.reverse.takeWhile (· != '/')).reverse

/-- What precedes the last slash, without slashes at its end unless there is nothing else. -/
def directory (path : String) : String :=
  let head := (path.toList.reverse.dropWhile (· != '/')).reverse
  if head.all (· == '/') then String.ofList head
  else String.ofList (head.reverse.dropWhile (· == '/')).reverse

def rooted (parts : List String) : String := "/" ++ String.intercalate "/" parts

/-- The one path from the root that means the same, where no component is a symbolic link. -/
def resolved (path : String) : String := rooted (collapse (components path))

/-- The same with two slashes in front kept. -/
def absolute (path : String) : String :=
  if path.startsWith "//" && !path.startsWith "///" then "/" ++ resolved path else resolved path

theorem resolved_ne_empty (path : String) : resolved path ≠ "" := by
  intro h
  have hlen := congrArg String.length h
  simp [resolved, rooted] at hlen

/-- The character that ends a path for the system. No path holds it. -/
def nul : Char := '\x00'

/-- Whether a text can be a path at all. -/
def isPath (text : String) : Bool := !text.toList.contains nul

theorem isPath_eq_false_iff {text : String} : isPath text = false ↔ '\x00' ∈ text.toList := by
  rw [isPath, Bool.not_eq_false', List.contains_iff_mem, nul]

/-- A text that is taken for a path and is none. -/
structure NotPath where
  text : String
  deriving DecidableEq

/-- How a path is taken to the one that stands for its file, whatever links are on the way. -/
structure Resolver where
  resolve : String → String
  resolve_ne_empty : ∀ path, resolve path ≠ ""

/-- A file tree without symbolic links. -/
def Resolver.lexical : Resolver := ⟨resolved, resolved_ne_empty⟩

end Path
end CallPolicy

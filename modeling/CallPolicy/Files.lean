import CallPolicy.Path
import CallPolicy.Text.Quoted

/-!
# CallPolicy.Files

A snapshot of a file tree. Paths are looked up component by component from the root, and opening
what is no readable file fails in one of four ways. There are no symbolic links in a snapshot: a file
that can be reached by two names is kept under both.
-/

namespace CallPolicy
namespace Files

inductive Entry where
  | folder
  | file (content : List UInt8)
  /-- A file that may not be read. -/
  | locked
  deriving DecidableEq

/-- Why a file cannot be opened. -/
inductive OpenFault where
  | missing
  | denied
  | notFolder
  | isFolder
  deriving DecidableEq

def OpenFault.number : OpenFault → Nat
  | missing => 2
  | denied => 13
  | notFolder => 20
  | isFolder => 21

def OpenFault.text : OpenFault → String
  | missing => "No such file or directory"
  | denied => "Permission denied"
  | notFolder => "Not a directory"
  | isFolder => "Is a directory"

/-- The fault with the path that was to be opened. -/
def OpenFault.message (f : OpenFault) (path : String) : String :=
  "[Errno " ++ toString f.number ++ "] " ++ f.text ++ ": " ++ Text.quoted path

/-- Why nothing is read: the file cannot be opened, or what is to be opened is no path. -/
inductive ReadFault where
  | unopenable (why : OpenFault)
  | notPath
  deriving DecidableEq

end Files

/-- Everything below the root, by the components of its path. -/
structure Files where
  entries : List (List String × Files.Entry) := []

namespace Files

def find? (fs : Files) (place : List String) : Option Entry :=
  match place with
  | [] => some .folder
  | _ => fs.entries.lookup place

/-- Puts an entry at a place, in place of what was there. -/
def set (fs : Files) (place : List String) (e : Entry) : Files :=
  if fs.entries.any (·.1 == place) then
    ⟨fs.entries.map fun (p, old) => if p == place then (p, e) else (p, old)⟩
  else ⟨fs.entries ++ [(place, e)]⟩

def erase (fs : Files) (place : List String) : Files := ⟨fs.entries.filter (·.1 != place)⟩

/-- The places above a place, from the top. -/
def above (place : List String) : List (List String) :=
  ((List.range place.length).map place.take).filter (!·.isEmpty)

/-- Puts an entry at a place, with folders above it where nothing is there yet. -/
def add (fs : Files) (place : List String) (e : Entry) : Files :=
  let withFolders := (above place).foldl
    (fun fs p => if (fs.find? p).isSome then fs else fs.set p .folder) fs
  withFolders.set place e

/-- The place that a name means, seen from the root. -/
def placeOf (name : String) : List String := Path.collapse (Path.components name)

/-- Goes on from a place, given the components still ahead. -/
def lookupFrom (fs : Files) (place : List String) : List String → Except OpenFault (List String)
  | [] => .ok place
  | c :: rest =>
    match fs.find? place with
    | some .folder =>
      if c = "." then lookupFrom fs place rest
      else if c = ".." then lookupFrom fs place.dropLast rest
      else
        let next := place ++ [c]
        if (fs.find? next).isSome then lookupFrom fs next rest else .error .missing
    | some _ => .error .notFolder
    | none => .error .missing

/-- What a path leads to. A slash at the end asks for a folder. -/
def lookupPath (fs : Files) (path : String) : Except OpenFault Entry :=
  if path = "" then .error .missing
  else do
    let steps := ((Path.splitSlash path.toList).map String.ofList).filter (· != "")
    let place ← lookupFrom fs [] steps
    match fs.find? place with
    | none => throw .missing
    | some .folder => return .folder
    | some e => if path.endsWith "/" then throw .notFolder else return e

/-- What a text leads to, if it is a path. -/
def lookup (fs : Files) (path : String) : Except ReadFault Entry :=
  if Path.isPath path then (fs.lookupPath path).mapError .unopenable else .error .notPath

/-- The content of a file. -/
def read (fs : Files) (path : String) : Except ReadFault (List UInt8) := do
  match ← fs.lookup path with
  | .file content => return content
  | .locked => throw (.unopenable .denied)
  | .folder => throw (.unopenable .isFolder)

def exists? (fs : Files) (path : String) : Bool :=
  match fs.lookup path with
  | .ok _ => true
  | .error _ => false

def isFolder (fs : Files) (path : String) : Bool :=
  match fs.lookup path with
  | .ok .folder => true
  | _ => false

/-- Readable or not, a file and no folder. -/
def isFile (fs : Files) (path : String) : Bool :=
  match fs.lookup path with
  | .ok (.file _) | .ok .locked => true
  | _ => false

/-- The paths of all files, in order. -/
def paths (fs : Files) : List String :=
  let files := fs.entries.filter fun (_, e) => e != .folder
  (files.map fun (p, _) => Path.rooted p).mergeSort fun a b => decide (a ≤ b)

end Files
end CallPolicy

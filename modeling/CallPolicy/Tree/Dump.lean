import CallPolicy.Coordinate.Data
import CallPolicy.Tree

/-!
# CallPolicy.Tree.Dump

Syntax trees as data, in the form a parser writes them to a file: one mapping per node. A node that
states no file lies in the file of its parent.
-/

namespace CallPolicy

namespace Tree
namespace Dump

abbrev Entries := List (Datum × Datum)

def text? : Datum → Option String
  | .text s => some s
  | _ => none

def entries : Datum → Entries
  | .mapping entries => entries
  | _ => []

def texts : Datum → List String
  | .list items => items.filterMap text?
  | _ => []

def items : Datum → List Datum
  | .list items => items
  | _ => []

def isTrue : Datum → Bool
  | .bool b => b
  | _ => false

/-- An argument: whether it is written, or the file and line it starts at. -/
def argument : Datum → Argument
  | .bool true => .starting (some "") 1
  | .bool false => .starting none 0
  | .mapping entries =>
    let line := match Datum.field "line" entries with
      | .int n => n
      | _ => 0
    .starting (text? (Datum.field "file" entries)) line
  | _ => .missing

/-- The file a node lies in, given its parent's. -/
def fileOf (inherited : Option String) (entries : Entries) : Option String :=
  match Datum.field? "file" entries with
  | some d => text? d
  | none => inherited

def omitted (entries : Entries) : List String := texts (Datum.field "omit" entries)

/-- The facts of a node. A node whose `no_cursor` is set has nothing that only its source text can
tell, and what `omit` lists is left out. -/
def facts (file : Option String) (entries : Entries) : Facts :=
  let omitted := omitted entries
  let bare := isTrue (Datum.field "no_cursor" entries) || omitted.contains "cursor"
  let stated := fun key => if omitted.contains key then Datum.null else Datum.field key entries
  { kind := (text? (stated "kind")).map NodeKind.ofName
    name :=
      if omitted.contains "name" then none
      else match Datum.field? "name" entries with
        | some d => text? d
        | none => some ""
    line := .ofDatum (stated "line")
    column := .ofDatum (stated "column")
    file := file
    tokens := if bare then [] else texts (Datum.field "tokens" entries)
    arguments := if bare then [] else (items (Datum.field "args" entries)).map argument
    referenced := if bare then none else (text? (Datum.field "ref" entries)).map NodeKind.ofName
    detached := omitted.contains "parent" }

end Dump

open Dump

mutual

/-- The tree that a datum holds. -/
def ofDatum (inherited : Option String) : Datum → Tree
  | .mapping entries =>
    let file := fileOf inherited entries
    let children :=
      if (omitted entries).contains "children" then [] else childrenOf file entries
    .node (Dump.facts file entries) children
  | _ => .node {} []

/-- The trees under the key for children. -/
def childrenOf (file : Option String) : List (Datum × Datum) → List Tree
  | [] => []
  | (key, value) :: rest =>
    match key with
    | .text "children" => ofDatums file value
    | _ => childrenOf file rest

def ofDatums (file : Option String) : Datum → List Tree
  | .list items => ofItems file items
  | _ => []

def ofItems (file : Option String) : List Datum → List Tree
  | [] => []
  | d :: rest => ofDatum file d :: ofItems file rest

end
end Tree
end CallPolicy

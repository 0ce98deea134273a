/-!
# CallPolicy.Text.CharNames.Row

Tables of character names. A row stands for consecutive characters whose names begin alike: the code
of the first in base sixteen, how the names begin, and how each goes on. Rows end at a slash and
their parts at a semicolon; a line break in a table counts for nothing, nor does the indentation
after it.
-/

namespace CallPolicy
namespace Text
namespace CharNames

def hexDigit? (c : Char) : Option Nat :=
  if '0' ≤ c ∧ c ≤ '9' then some (c.toNat - 48)
  else if 'A' ≤ c ∧ c ≤ 'F' then some (c.toNat - 55)
  else none

/-- A number in base sixteen, with capital letters. -/
def hexNumber? (digits : List Char) : Option Nat :=
  digits.foldlM (fun n c => (hexDigit? c).map (16 * n + ·)) 0

structure Row where
  first : Nat
  stem : String
  endings : List String

namespace Row

def ofText? (text : String) : Option Row :=
  match text.splitOn ";" with
  | code :: stem :: endings => (hexNumber? code.toList).map fun n => ⟨n, stem, endings⟩
  | _ => none

/-- The character of a row that has a name. -/
def find? (r : Row) (name : String) : Option Nat :=
  if name.startsWith r.stem then
    (r.endings.findIdx? fun e => r.stem ++ e == name).map (r.first + ·)
  else none

end Row

/-- The character of a table that has a name. -/
def findIn (name table : String) : Option Nat :=
  ((table.replace "\n    " "").splitOn "/").findSome? fun text =>
    (Row.ofText? text).bind (·.find? name)

end CharNames
end Text
end CallPolicy

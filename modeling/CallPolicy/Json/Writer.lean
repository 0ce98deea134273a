import CallPolicy.Datum

/-!
# CallPolicy.Json.Writer

Writing data as JSON on one line: entries in their order, a blank after each comma and colon, and
only ASCII characters.
-/

namespace CallPolicy
namespace Json

/-- Numbers in JSON. -/
def numberFormat : Decimal.Format := ⟨15, -4, 2, "NaN", "Infinity"⟩

/-- An escaped unit of sixteen bits. -/
def unitEscape (n : Nat) : List Char := '\\' :: 'u' :: Text.Quoted.hex 4 n

def escapeChar (c : Char) : List Char :=
  let n := c.toNat
  if c = '"' then ['\\', '"']
  else if c = '\\' then ['\\', '\\']
  else if c = '\n' then ['\\', 'n']
  else if c = '\r' then ['\\', 'r']
  else if c = '\t' then ['\\', 't']
  else if c = '\x0c' then ['\\', 'f']
  else if c = '\x08' then ['\\', 'b']
  else if 0x20 ≤ n ∧ n < 0x7f then [c]
  else if n < 0x10000 then unitEscape n
  else
    let m := n - 0x10000
    unitEscape (0xD800 + m / 1024) ++ unitEscape (0xDC00 + m % 1024)

def string (s : String) : String := String.ofList ('"' :: s.toList.flatMap escapeChar ++ ['"'])

mutual

/-- A datum as JSON. Kinds that JSON does not have are written as their displayed text. -/
def write : Datum → String
  | .null => "null"
  | .bool true => "true"
  | .bool false => "false"
  | .int n => toString n
  | .float x => Decimal.floatText numberFormat x
  | .list items => "[" ++ String.intercalate ", " (writeAll items) ++ "]"
  | .pair first second => "[" ++ write first ++ ", " ++ write second ++ "]"
  | .mapping entries => "\x7b" ++ String.intercalate ", " (writeEntries entries) ++ "\x7d"
  | d => string d.displayed

def writeAll : List Datum → List String
  | [] => []
  | d :: rest => write d :: writeAll rest

def writeEntries : List (Datum × Datum) → List String
  | [] => []
  | (key, value) :: rest => (string key.displayed ++ ": " ++ write value) :: writeEntries rest

end
end Json
end CallPolicy

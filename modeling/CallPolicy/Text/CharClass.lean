import CallPolicy.Text.CharTables

/-!
# CallPolicy.Text.CharClass

Character classes of the Unicode standard: letters, decimal digits, word characters, white space,
printable characters and the two classes of identifier characters. Each class is given outright
below 128 and by a table of runs above.
-/

namespace CallPolicy
namespace Text

/-- A set of code points, as the increasing list of points at which membership changes. -/
structure CodeSet where
  bounds : Array Nat

namespace CodeSet

/-- Reads a table of run lengths: the running sums of the numbers are the bounds. -/
def ofRuns (text : String) : CodeSet :=
  let lengths := (CharTables.numerals text).filterMap String.toNat?
  let add := fun (acc : Array Nat × Nat) n => (acc.1.push (acc.2 + n), acc.2 + n)
  ⟨(lengths.foldl add (#[], 0)).1⟩

/-- How many of the bounds in `[lo, hi)` and below are at most `c`, by halving. -/
def rankFrom (bounds : Array Nat) (c : Nat) : Nat → Nat → Nat → Nat
  | 0, lo, _ => lo
  | fuel + 1, lo, hi =>
    if lo < hi then
      let mid := (lo + hi) / 2
      match bounds[mid]? with
      | some b =>
        if b ≤ c then rankFrom bounds c fuel (mid + 1) hi else rankFrom bounds c fuel lo mid
      | none => lo
    else lo

/-- The number of bounds that are at most `c`. -/
def rank (s : CodeSet) (c : Nat) : Nat := rankFrom s.bounds c s.bounds.size 0 s.bounds.size

/-- A code point is in the set when an odd number of changes come at or before it. -/
def contains (s : CodeSet) (c : Nat) : Bool := s.rank c % 2 == 1

/-- The first code point of the run that holds `c`. -/
def runStart (s : CodeSet) (c : Nat) : Nat := (s.bounds[s.rank c - 1]?).getD 0

end CodeSet

def letterSet : CodeSet := .ofRuns CharTables.letterRuns
def numeralSet : CodeSet := .ofRuns CharTables.numeralRuns
def decimalSet : CodeSet := .ofRuns CharTables.decimalRuns
def blankSet : CodeSet := .ofRuns CharTables.blankRuns
def printableSet : CodeSet := .ofRuns CharTables.printableRuns
def nameStartSet : CodeSet := .ofRuns CharTables.nameStartRuns
def nameMarkSet : CodeSet := .ofRuns CharTables.nameMarkRuns

/-- A letter of any script. -/
def isLetter (c : Char) : Bool :=
  if c.toNat < 128 then c.isAlpha else letterSet.contains c.toNat

/-- The value of a decimal digit of any script. Above ASCII the digits of a script stand in blocks
of ten that begin with zero. -/
def digitValue? (c : Char) : Option Nat :=
  let n := c.toNat
  if n < 128 then
    if c.isDigit then some (n - 48) else none
  else if decimalSet.contains n then some ((n - decimalSet.runStart n) % 10)
  else none

/-- A decimal digit of any script. -/
def isDecimal (c : Char) : Bool := (digitValue? c).isSome

/-- A letter, a character with a numeric value, or the underscore. -/
def isWord (c : Char) : Bool :=
  if c.toNat < 128 then c.isAlphanum || c == '_'
  else letterSet.contains c.toNat || numeralSet.contains c.toNat

/-- White space: tab to carriage return, the four separators below the space, and the space in
ASCII. -/
def isBlank (c : Char) : Bool :=
  let n := c.toNat
  if n < 128 then (9 ≤ n && n ≤ 13) || (28 ≤ n && n ≤ 32) else blankSet.contains n

/-- A character that quoted text shows as itself. -/
def isPrintable (c : Char) : Bool :=
  let n := c.toNat
  if n < 128 then 32 ≤ n && n < 127 else printableSet.contains n

/-- A character that may begin an identifier. -/
def isNameStart (c : Char) : Bool :=
  if c.toNat < 128 then c.isAlpha || c == '_' else nameStartSet.contains c.toNat

/-- A character that may continue an identifier. -/
def isNamePart (c : Char) : Bool :=
  if c.toNat < 128 then c.isAlphanum || c == '_'
  else nameStartSet.contains c.toNat || nameMarkSet.contains c.toNat

/-- An identifier: a character that may begin one, then characters that may continue one. -/
def isIdentifier : List Char → Bool
  | [] => false
  | c :: cs => isNameStart c && cs.all isNamePart

/-- The text without white space at its ends. -/
def trimBlank (cs : List Char) : List Char :=
  ((cs.dropWhile isBlank).reverse.dropWhile isBlank).reverse

end Text
end CallPolicy

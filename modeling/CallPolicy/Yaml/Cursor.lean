import CallPolicy.Yaml.Failure

/-!
# CallPolicy.Yaml.Cursor

A place in a text: what is still ahead, the line and the column. Texts have their line ends made
line feeds beforehand; next line, line separator and paragraph separator end a line too.
-/

namespace CallPolicy
namespace Yaml

def isBreak (c : Char) : Bool := c == '\n' || c == '\x85' || c == '\u2028' || c == '\u2029'

def isBlank (c : Char) : Bool := c == ' ' || c == '\t' || isBreak c

structure Cursor where
  rest : List Char
  index : Nat := 0
  line : Nat := 0
  column : Nat := 0

namespace Cursor

def peek (c : Cursor) : Option Char := c.rest.head?

/-- The character some way ahead. -/
def peekAt (c : Cursor) (n : Nat) : Option Char := c.rest[n]?

def sees (c : Cursor) (x : Char) : Bool := c.peek == some x

/-- At the end, or at a character of a class. -/
def endsWith (c : Cursor) (p : Char → Bool) : Bool := c.peek.all p

/-- The same some way ahead. -/
def endsAt (c : Cursor) (n : Nat) (p : Char → Bool) : Bool := (c.peekAt n).all p

/-- Past one character. A byte order mark takes no column. -/
def next (c : Cursor) : Cursor :=
  match c.rest with
  | [] => c
  | x :: more =>
    if isBreak x then ⟨more, c.index + 1, c.line + 1, 0⟩
    else if x == '\uFEFF' then ⟨more, c.index + 1, c.line, c.column⟩
    else ⟨more, c.index + 1, c.line, c.column + 1⟩

def forward : Nat → Cursor → Cursor
  | 0, c => c
  | n + 1, c => forward n c.next

/-- The characters of a class ahead, and the place after them. -/
def span (p : Char → Bool) (c : Cursor) : List Char × Cursor :=
  let taken := c.rest.takeWhile p
  (taken, forward taken.length c)

def skip (p : Char → Bool) (c : Cursor) : Cursor := (c.span p).2

def skipSpaces (c : Cursor) : Cursor := c.skip (· == ' ')

/-- Past the rest of a line. -/
def skipLine (c : Cursor) : Cursor := c.skip (!isBreak ·)

/-- Takes a line break, if there is one. The separators of Unicode stay as they are. -/
def lineBreak? (c : Cursor) : Option (Char × Cursor) :=
  match c.peek with
  | some x =>
    if x == '\n' || x == '\x85' then some ('\n', c.next)
    else if x == '\u2028' || x == '\u2029' then some (x, c.next)
    else none
  | none => none

/-- Past a line break, if there is one. -/
def skipBreak (c : Cursor) : Cursor :=
  match c.lineBreak? with
  | some (_, after) => after
  | none => c

/-- Whether three marks of a kind and then a blank or the end stand here. -/
def atMarker (c : Cursor) (x : Char) : Bool :=
  c.rest.take 3 == [x, x, x] && c.endsAt 3 isBlank

/-- Whether a document's start or end is marked here. -/
def atDocumentMarker (c : Cursor) : Bool := c.atMarker '-' || c.atMarker '.'

end Cursor

end Yaml
end CallPolicy

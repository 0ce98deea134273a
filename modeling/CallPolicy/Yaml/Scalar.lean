import CallPolicy.Yaml.Cursor

/-!
# CallPolicy.Yaml.Scalar

Scalars as they are written: plain, in single or double quotes, and in blocks, literal or folded. In
all but literal blocks a single line break counts as a space.
-/

namespace CallPolicy
namespace Yaml

/-- What a scan found, and the place after it. -/
abbrev Found (α : Type) := α × Cursor

/-- A line break and further ones as text: one alone is a space. -/
def folded (first : Char) (breaks : List Char) : List Char :=
  if first != '\n' then first :: breaks else if breaks.isEmpty then [' '] else breaks

namespace Plain

/-- The characters of a plain scalar on one line. -/
def line (inFlow : Bool) : List Char → List Char
  | [] => []
  | c :: rest =>
    let isEnd :=
      isBlank c ||
        (c == ':' &&
          rest.head?.all fun d => isBlank d || (inFlow && ",[]\x7b\x7d".toList.contains d)) ||
        (inFlow && ",?[]\x7b\x7d".toList.contains c)
    if isEnd then [] else c :: line inFlow rest

/-- Breaks and the spaces around them; none where a document's start or end is marked. -/
def breaks : Nat → Cursor → Option (List Char × Cursor)
  | 0, c => some ([], c)
  | fuel + 1, c =>
    let c := c.skipSpaces
    match c.lineBreak? with
    | none => some ([], c)
    | some (b, after) =>
      if after.atDocumentMarker then none
      else (breaks fuel after).map fun (bs, c) => (b :: bs, c)

/-- What stands between two parts of a plain scalar, whether a line break is among it, and the place
after it. -/
def space (c : Cursor) : List Char × Bool × Cursor :=
  let (spaces, c) := c.span (· == ' ')
  match c.lineBreak? with
  | none => (spaces, false, c)
  | some (first, after) =>
    if after.atDocumentMarker then ([], true, after)
    else
      match breaks (after.rest.length + 1) after with
      | some (more, c) => (folded first more, true, c)
      | none => ([], true, after)

/-- The parts of a plain scalar at an indentation, and whether it ends after a line break. -/
def parts (inFlow : Bool) (indent : Nat) : Nat → Cursor → List Char × Bool × Cursor
  | 0, c => ([], false, c)
  | fuel + 1, c =>
    if c.sees '#' then ([], false, c)
    else
      match line inFlow c.rest with
      | [] => ([], false, c)
      | text =>
        let c := Cursor.forward text.length c
        let (between, isBroken, after) := space c
        if between.isEmpty || after.sees '#' || (!inFlow && after.column < indent) then
          (text, isBroken, after)
        else
          match parts inFlow indent fuel after with
          | ([], _, c) => (text, isBroken, c)
          | (more, isBroken, c) => (text ++ between ++ more, isBroken, c)

end Plain

namespace Quoted

/-- What one character after a backslash stands for. -/
def escapes : List (Char × Char) :=
  [('0', '\x00'), ('a', '\x07'), ('b', '\x08'), ('t', '\t'), ('\t', '\t'), ('n', '\n'),
    ('v', '\x0B'), ('f', '\x0C'), ('r', '\r'), ('e', '\x1B'), (' ', ' '), ('"', '"'),
    ('\\', '\\'), ('/', '/'), ('N', '\x85'), ('_', '\xA0'), ('L', '\u2028'), ('P', '\u2029')]

/-- How many digits follow a backslash and a letter. -/
def digitCount? (c : Char) : Option Nat :=
  match c with
  | 'x' => some 2
  | 'u' => some 4
  | 'U' => some 8
  | _ => none

def hexValue? (c : Char) : Option Nat :=
  if '0' ≤ c && c ≤ '9' then some (c.toNat - '0'.toNat)
  else if 'a' ≤ c && c ≤ 'f' then some (c.toNat - 'a'.toNat + 10)
  else if 'A' ≤ c && c ≤ 'F' then some (c.toNat - 'A'.toNat + 10)
  else none

/-- The value of hexadecimal digits, all of which have to be some. -/
def hexNumber? (cs : List Char) : Option Nat :=
  cs.foldl (fun n c => match n, hexValue? c with
    | some n, some d => some (16 * n + d)
    | _, _ => none) (some 0)

/-- A character by its number. Half of a surrogate pair is no character; another stands for it. -/
def numbered (n : Nat) : Except Failure Char :=
  if 0x110000 ≤ n then .error (.value .character)
  else if 0xD800 ≤ n ∧ n < 0xE000 then .ok '\uFFFD'
  else .ok (Char.ofNat n)

/-- Line breaks and the blanks at the start of each line. -/
def breaks : Nat → Cursor → Except Failure (Found (List Char))
  | 0, c => .ok ([], c)
  | fuel + 1, c =>
    if c.atDocumentMarker then .error .malformed
    else
      let c := c.skip fun x => x == ' ' || x == '\t'
      match c.lineBreak? with
      | none => .ok ([], c)
      | some (b, after) => (breaks fuel after).map fun (bs, c) => (b :: bs, c)

def isInner (c : Char) : Bool := c != '\'' && c != '"' && c != '\\' && !isBlank c

/-- What a backslash and the characters after it stand for. -/
def escape (c : Cursor) : Except Failure (Found (List Char)) :=
  match c.peek with
  | none => .error .malformed
  | some x =>
    match escapes.lookup x with
    | some y => .ok ([y], c.next)
    | none =>
      match digitCount? x with
      | some n =>
        let digits := c.next.rest.take n
        match hexNumber? digits with
        | some code =>
          if digits.length < n then .error .malformed
          else (numbered code).map fun y => ([y], Cursor.forward (n + 1) c)
        | none => .error .malformed
      | none =>
        if isBreak x then breaks (c.rest.length + 1) c.skipBreak else .error .malformed

/-- Blanks within quotes. -/
def space (c : Cursor) : Except Failure (Found (List Char)) := do
  let (spaces, c) := c.span fun x => x == ' ' || x == '\t'
  match c.peek with
  | none => throw .malformed
  | some _ =>
    match c.lineBreak? with
    | none => return (spaces, c)
    | some (first, after) =>
      let (more, c) ← breaks (after.rest.length + 1) after
      return (folded first more, c)

/-- The text up to the closing quote. -/
def text (isDouble : Bool) : Nat → Cursor → Except Failure (Found (List Char))
  | 0, _ => .error .malformed
  | fuel + 1, c => do
    let (inner, c) := c.span isInner
    match c.peek with
    | none => throw .malformed
    | some x =>
      let (more, c) ←
        if !isDouble && x == '\'' && c.peekAt 1 == some '\'' then
          text isDouble fuel (Cursor.forward 2 c) |>.map fun (more, c) => ('\'' :: more, c)
        else if x == (if isDouble then '"' else '\'') then pure ([], c.next)
        else if isDouble && x == '\\' then do
          let (cs, c) ← escape c.next
          let (more, c) ← text isDouble fuel c
          pure (cs ++ more, c)
        else if isBlank x then do
          let (cs, c) ← space c
          let (more, c) ← text isDouble fuel c
          pure (cs ++ more, c)
        else do
          let (more, c) ← text isDouble fuel c.next
          pure (x :: more, c)
      return (inner ++ more, c)

end Quoted

namespace Block

/-- What becomes of the line breaks at the end. -/
inductive Chomping where
  | strip
  | clip
  | keep
  deriving DecidableEq

structure Header where
  chomping : Chomping := .clip
  /-- The indentation of the text, where it is stated. -/
  increment : Option Nat := none

def chomping? (c : Cursor) : Option (Chomping × Cursor) :=
  match c.peek with
  | some '+' => some (.keep, c.next)
  | some '-' => some (.strip, c.next)
  | _ => none

/-- A stated indentation; zero is none. -/
def increment? (c : Cursor) : Except Failure (Found (Option Nat)) :=
  match c.peek with
  | some x =>
    if x.isDigit then
      if x == '0' then .error .malformed else .ok (some (x.toNat - '0'.toNat), c.next)
    else .ok (none, c)
  | none => .ok (none, c)

/-- The signs after the one that begins a block, in either order. -/
def header (c : Cursor) : Except Failure (Found Header) := do
  let (h, c) ←
    match chomping? c with
    | some (k, c) => do
      let (n, c) ← increment? c
      pure (({ chomping := k, increment := n } : Header), c)
    | none => do
      let (n, c) ← increment? c
      match n, chomping? c with
      | some _, some (k, after) => pure (({ chomping := k, increment := n } : Header), after)
      | _, _ => pure (({ increment := n } : Header), c)
  if c.endsWith fun x => x == ' ' || isBreak x then return (h, c) else throw .malformed

/-- Past the rest of a line that may only hold a comment. -/
def lineEnd (c : Cursor) : Except Failure Cursor :=
  let c := c.skipSpaces
  let c := if c.sees '#' then c.skipLine else c
  if c.endsWith isBreak then .ok c.skipBreak else .error .malformed

/-- Line breaks before the first text, and the greatest indentation among them. -/
def leading : Nat → Nat → Cursor → List Char × Nat × Cursor
  | 0, deepest, c => ([], deepest, c)
  | fuel + 1, deepest, c =>
    let c := c.skipSpaces
    let deepest := max deepest c.column
    match c.lineBreak? with
    | none => ([], deepest, c)
    | some (b, after) =>
      let (bs, deepest, c) := leading fuel deepest after
      (b :: bs, deepest, c)

/-- Past the indentation of a line. -/
def indentation (indent : Nat) (c : Cursor) : Cursor :=
  Cursor.forward (min (c.rest.takeWhile (· == ' ')).length (indent - c.column)) c

/-- Line breaks, with the indentation of each line. -/
def breaks (indent : Nat) : Nat → Cursor → List Char × Cursor
  | 0, c => ([], c)
  | fuel + 1, c =>
    let c := indentation indent c
    match c.lineBreak? with
    | none => ([], c)
    | some (b, after) =>
      let (bs, c) := breaks indent fuel after
      (b :: bs, c)

/-- The line break between two lines of text, as text. -/
def joint (isFolded : Bool) (lineBreak : Option Char) (breaks : List Char)
    (isBesideSpace : Bool) : List Char :=
  if isFolded && lineBreak == some '\n' && !isBesideSpace then
    if breaks.isEmpty then [' '] else []
  else lineBreak.toList

def startsBlank (c : Cursor) : Bool := c.sees ' ' || c.sees '\t'

/-- The lines of a block at an indentation; `before` are the line breaks before the next line. -/
def lines (isFolded : Bool) (k : Chomping) (indent : Nat) :
    Nat → List Char → Cursor → List Char × Cursor
  | 0, _, c => ([], c)
  | fuel + 1, before, c =>
    let isBlankFirst := startsBlank c
    let (text, c) := c.span (!isBreak ·)
    let lineBreak := c.lineBreak?.map (·.1)
    let c := c.skipBreak
    let (after, c) := breaks indent (c.rest.length + 1) c
    if c.column == indent && c.peek.isSome then
      let between := joint isFolded lineBreak after (isBlankFirst || startsBlank c)
      let (more, c) := lines isFolded k indent fuel after c
      (before ++ text ++ between ++ more, c)
    else
      let last := if k = .strip then [] else lineBreak.toList
      let trailing := if k = .keep then after else []
      (before ++ text ++ last ++ trailing, c)

/-- A block after the sign that begins it, within blocks at an indentation. -/
def scan (isFolded : Bool) (outer : Int) (c : Cursor) : Except Failure (Found (List Char)) := do
  let (h, c) ← header c
  let c ← lineEnd c
  let least := max 1 (outer + 1).toNat
  let (before, indent, c) :=
    match h.increment with
    | none =>
      let (before, deepest, c) := leading (c.rest.length + 1) 0 c
      (before, max least deepest, c)
    | some n =>
      let indent := least + n - 1
      let (before, c) := breaks indent (c.rest.length + 1) c
      (before, indent, c)
  if c.column == indent && c.peek.isSome then
    return lines isFolded h.chomping indent (c.rest.length + 1) before c
  else return (if h.chomping = .keep then before else [], c)

end Block

end Yaml
end CallPolicy

import CallPolicy.Yaml.Scalar
import CallPolicy.Yaml.Token
import CallPolicy.Text.Utf8

/-!
# CallPolicy.Yaml.Property

What stands before a node or a document: anchors and aliases, tags, and directives.
-/

namespace CallPolicy
namespace Yaml

def isNameChar (c : Char) : Bool := c.isAlphanum || c == '-' || c == '_'

def isSpaceOrBreak (c : Char) : Bool := c == ' ' || isBreak c

/-- The name of an anchor or alias, after its sign. -/
def anchorName (c : Cursor) : Except Failure (Found (List Char)) :=
  let (name, c) := c.span isNameChar
  let isEnd := fun x => isBlank x || "?:,]\x7d%@\x60".toList.contains x
  if name.isEmpty || !c.endsWith isEnd then .error .malformed else .ok (name, c)

namespace WrittenTag

def isUriChar (c : Char) : Bool :=
  c.isAlphanum || "-;/?:@&=+$,_.!~*'()[]".toList.contains c

/-- The octets of escapes in a row: a percent sign and two digits each. -/
def escapedOctets : Nat → Cursor → Except Failure (List UInt8 × Cursor)
  | 0, c => .ok ([], c)
  | fuel + 1, c =>
    if !c.sees '%' then .ok ([], c)
    else
      match c.rest with
      | _ :: a :: b :: _ =>
        match Quoted.hexNumber? [a, b] with
        | some n =>
          (escapedOctets fuel (Cursor.forward 3 c)).map fun (os, c) => (UInt8.ofNat n :: os, c)
        | none => .error .malformed
      | _ => .error .malformed

/-- Characters of a URI, with escapes replaced. -/
def uriParts : Nat → Cursor → Except Failure (Found (List Char))
  | 0, c => .ok ([], c)
  | fuel + 1, c => do
    let (plain, c) := c.span isUriChar
    if c.sees '%' then
      let (octets, c) ← escapedOctets (c.rest.length + 1) c
      match Text.Utf8.decode? octets with
      | none => throw .malformed
      | some cs =>
        let (more, c) ← uriParts fuel c
        return (plain ++ cs ++ more, c)
    else return (plain, c)

/-- A URI of at least one character. -/
def uri (c : Cursor) : Except Failure (Found (List Char)) :=
  if c.peek.any fun x => isUriChar x || x == '%' then uriParts (c.rest.length + 1) c
  else .error .malformed

/-- A handle: one exclamation mark, or a name between two. -/
def scanHandle (c : Cursor) : Except Failure (Found (List Char)) :=
  if !c.sees '!' then .error .malformed
  else if c.peekAt 1 == some ' ' then .ok (['!'], c.next)
  else
    let (name, after) := c.next.span isNameChar
    if after.sees '!' then .ok ('!' :: name ++ ['!'], after.next) else .error .malformed

/-- Whether an exclamation mark comes before the next space. -/
def hasHandle (c : Cursor) : Bool :=
  (c.rest.takeWhile fun x => !isSpaceOrBreak x).contains '!'

/-- A tag, at its exclamation mark. -/
def scan (c : Cursor) : Except Failure (Found WrittenTag) := do
  let after := c.next
  let (tag, c) ←
    if after.sees '<' then do
      let (suffix, c) ← uri after.next
      if c.sees '>' then pure ((⟨none, suffix⟩ : WrittenTag), c.next) else throw .malformed
    else if after.endsWith isBlank then pure ((⟨none, ['!']⟩ : WrittenTag), after)
    else if hasHandle after then do
      let (handle, c) ← scanHandle c
      let (suffix, c) ← uri c
      pure ((⟨some handle, suffix⟩ : WrittenTag), c)
    else do
      let (suffix, c) ← uri after
      pure ((⟨some ['!'], suffix⟩ : WrittenTag), c)
  if c.endsWith isSpaceOrBreak then return (tag, c) else throw .malformed

end WrittenTag

namespace Directive

/-- A whole number. -/
def number (c : Cursor) : Except Failure (Found Nat) :=
  match c.span Char.isDigit with
  | ([], _) => .error .malformed
  | (digits, c) =>
    .ok (digits.foldl (fun n d => 10 * n + (d.toNat - '0'.toNat)) 0, c)

/-- The version of a version directive, of which the first number counts. -/
def scanVersion (c : Cursor) : Except Failure (Found Directive) := do
  let (major, c) ← number c.skipSpaces
  if !c.sees '.' then throw .malformed
  let (_, c) ← number c.next
  if c.endsWith isSpaceOrBreak then return (.version major, c) else throw .malformed

/-- The handle of a tag directive and what it stands for. -/
def scanTag (c : Cursor) : Except Failure (Found Directive) := do
  let (handle, c) ← WrittenTag.scanHandle c.skipSpaces
  if !c.sees ' ' then throw .malformed
  let (expansion, c) ← WrittenTag.uri c.skipSpaces
  if c.endsWith isSpaceOrBreak then return (.tag handle expansion, c) else throw .malformed

/-- A directive after its percent sign, with the rest of its line. -/
def scan (c : Cursor) : Except Failure (Found Directive) := do
  let (name, c) := c.span isNameChar
  if name.isEmpty || !c.endsWith isSpaceOrBreak then throw .malformed
  let (d, c) ←
    match String.ofList name with
    | "YAML" => scanVersion c
    | "TAG" => scanTag c
    | _ => pure (Directive.other, c.skipLine)
  let c ← Block.lineEnd c
  return (d, c)

end Directive

end Yaml
end CallPolicy

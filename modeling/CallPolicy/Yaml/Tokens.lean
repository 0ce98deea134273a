import CallPolicy.Yaml.Property

/-!
# CallPolicy.Yaml.Tokens

A YAML text as tokens. A key without a mark of its own is known only by the colon after it, so
tokens are only ever added at the end, each key is noted with the place that its token belongs to,
and in the end the notes are worked in.
-/

namespace CallPolicy
namespace Yaml

/-- A token that may turn out to begin a key. -/
structure Candidate where
  /-- How many tokens come before it. -/
  place : Nat
  /-- Set where nothing but a key can stand. -/
  required : Bool
  index : Nat
  line : Nat
  column : Nat

/-- A key that was found: where its token belongs, and whether it opens a mapping. -/
structure KeyNote where
  place : Nat
  opensMapping : Bool

/-- How far a text is made into tokens. -/
structure Progress where
  cursor : Cursor
  /-- Last first. -/
  tokens : List Token := []
  count : Nat := 0
  keys : List KeyNote := []
  flowLevel : Nat := 0
  /-- The column of the block under way, -1 outside all. -/
  indent : Int := -1
  outerIndents : List Int := []
  keyAllowed : Bool := true
  /-- By flow level. -/
  candidates : List (Nat × Candidate) := []

namespace Progress

def inFlow (p : Progress) : Bool := p.flowLevel != 0

def push (p : Progress) (t : Token) : Progress :=
  { p with tokens := t :: p.tokens, count := p.count + 1 }

/-- Closes blocks that lie deeper than a column. -/
def unwind (column : Int) : Nat → Progress → Progress
  | 0, p => p
  | fuel + 1, p =>
    if p.inFlow || p.indent ≤ column then p
    else
      match p.outerIndents with
      | [] => p
      | i :: outer =>
        unwind column fuel ({ p with indent := i, outerIndents := outer }.push .blockEnd)

def unwindTo (p : Progress) (column : Int) : Progress := unwind column (p.outerIndents.length + 1) p

/-- Opens a block at a column, unless one is open there. -/
def openBlock (p : Progress) (column : Nat) : Option Progress :=
  if p.indent < column then
    some { p with indent := column, outerIndents := p.indent :: p.outerIndents }
  else none

/-- Opens a block at the column of the next token, with the token that says so. -/
def openBlockWith (p : Progress) (t : Token) : Progress :=
  match p.openBlock p.cursor.column with
  | some p => p.push t
  | none => p

/-- Candidates that a line break or too long a text has ruled out. -/
def isStale (p : Progress) (k : Candidate) : Bool :=
  k.line != p.cursor.line || 1024 < p.cursor.index - k.index

/-- Drops candidates that are ruled out; a required one may not be. -/
def dropStale (p : Progress) : Except Failure Progress :=
  if p.candidates.any fun (_, k) => p.isStale k && k.required then .error .malformed
  else .ok { p with candidates := p.candidates.filter fun (_, k) => !p.isStale k }

/-- Drops the candidate of this flow level. -/
def dropCandidate (p : Progress) : Except Failure Progress :=
  match p.candidates.lookup p.flowLevel with
  | some k =>
    if k.required then .error .malformed
    else .ok { p with candidates := p.candidates.filter (·.1 != p.flowLevel) }
  | none => .ok p

/-- Notes the next token as a candidate. -/
def noteCandidate (p : Progress) : Except Failure Progress :=
  if !p.keyAllowed then .ok p
  else do
    let p ← p.dropCandidate
    let k : Candidate :=
      { place := p.count, required := !p.inFlow && p.indent == p.cursor.column,
        index := p.cursor.index, line := p.cursor.line, column := p.cursor.column }
    return { p with candidates := (p.flowLevel, k) :: p.candidates }

/-- Moves on by some characters and adds a token. -/
def take (p : Progress) (n : Nat) (t : Token) : Progress :=
  { p with cursor := Cursor.forward n p.cursor }.push t

/-- Past blanks, comments and line breaks. Outside flow collections a key may begin after a line
break. -/
def skipToToken : Nat → Progress → Progress
  | 0, p => p
  | fuel + 1, p =>
    let c := p.cursor.skipSpaces
    let c := if c.sees '#' then c.skipLine else c
    match c.lineBreak? with
    | some (_, after) =>
      skipToToken fuel { p with cursor := after, keyAllowed := p.keyAllowed || !p.inFlow }
    | none => { p with cursor := c }

/-- The end of the text. -/
def streamEnd (p : Progress) : Except Failure Progress := do
  let p ← (p.unwindTo (-1)).dropCandidate
  return { p with candidates := [], keyAllowed := false }.push .streamEnd

def directive (p : Progress) : Except Failure Progress := do
  let p ← (p.unwindTo (-1)).dropCandidate
  let (d, c) ← Directive.scan p.cursor.next
  return { p with cursor := c, keyAllowed := false }.push (.directive d)

def documentMarker (p : Progress) (t : Token) : Except Failure Progress := do
  let p ← (p.unwindTo (-1)).dropCandidate
  return { p with keyAllowed := false }.take 3 t

def flowStart (p : Progress) (t : Token) : Except Failure Progress := do
  let p ← p.noteCandidate
  return { p with flowLevel := p.flowLevel + 1, keyAllowed := true }.take 1 t

def flowEnd (p : Progress) (t : Token) : Except Failure Progress := do
  let p ← p.dropCandidate
  if p.flowLevel = 0 then throw .malformed
  return { p with flowLevel := p.flowLevel - 1, keyAllowed := false }.take 1 t

def flowEntry (p : Progress) : Except Failure Progress := do
  let p ← p.dropCandidate
  return { p with keyAllowed := true }.take 1 .flowEntry

def blockEntry (p : Progress) : Except Failure Progress := do
  if !p.inFlow && !p.keyAllowed then throw .malformed
  let p := if p.inFlow then p else p.openBlockWith .blockSequenceStart
  let p ← p.dropCandidate
  return { p with keyAllowed := true }.take 1 .blockEntry

def explicitKey (p : Progress) : Except Failure Progress := do
  if !p.inFlow && !p.keyAllowed then throw .malformed
  let p := if p.inFlow then p else p.openBlockWith .blockMappingStart
  let p ← p.dropCandidate
  return { p with keyAllowed := !p.inFlow }.take 1 .key

/-- A colon makes a key of the candidate before it, if there is one. -/
def value (p : Progress) : Except Failure Progress := do
  match p.candidates.lookup p.flowLevel with
  | some k =>
    let p := { p with candidates := p.candidates.filter (·.1 != p.flowLevel), keyAllowed := false }
    match if p.inFlow then none else p.openBlock k.column with
    | some p => return { p with keys := ⟨k.place, true⟩ :: p.keys }.take 1 .value
    | none => return { p with keys := ⟨k.place, false⟩ :: p.keys }.take 1 .value
  | none =>
    if !p.inFlow && !p.keyAllowed then throw .malformed
    let p := if p.inFlow then p else p.openBlockWith .blockMappingStart
    return { p with keyAllowed := !p.inFlow }.take 1 .value

/-- A token that may begin a key: an alias, an anchor, a tag or a scalar on one line. -/
def scanned (p : Progress) (scan : Cursor → Except Failure (Token × Cursor)) :
    Except Failure Progress := do
  let p ← p.noteCandidate
  let (t, c) ← scan p.cursor
  return { p with cursor := c, keyAllowed := false }.push t

def plain (p : Progress) : Except Failure Progress := do
  let p ← p.noteCandidate
  let (text, isBroken, c) :=
    Plain.parts p.inFlow (p.indent + 1).toNat (p.cursor.rest.length + 1) p.cursor
  return { p with cursor := c, keyAllowed := isBroken }.push (.scalar text true)

def block (p : Progress) (isFolded : Bool) : Except Failure Progress := do
  let p ← p.dropCandidate
  let (text, c) ← Block.scan isFolded p.indent p.cursor.next
  return { p with cursor := c, keyAllowed := true }.push (.scalar text false)

/-- Signs that begin no plain scalar. -/
def isSign (c : Char) : Bool := "-?:,[]\x7b\x7d#&*!|>'\"%@\x60".toList.contains c

/-- Whether a plain scalar may begin here. -/
def startsPlain (p : Progress) (x : Char) : Bool :=
  if isBlank x then false
  else if isSign x then
    !p.cursor.endsAt 1 isBlank && (x == '-' || (!p.inFlow && (x == '?' || x == ':')))
  else true

def otherToken (p : Progress) (x : Char) : Except Failure Progress :=
  let beforeBlank := p.cursor.endsAt 1 isBlank
  if x == '-' && beforeBlank then p.blockEntry
  else if x == '?' && (p.inFlow || beforeBlank) then p.explicitKey
  else if x == ':' && (p.inFlow || beforeBlank) then p.value
  else if p.startsPlain x then p.plain
  else .error .malformed

/-- Adds the next token, with those that its place brings about. -/
def step (p : Progress) : Except Failure Progress := do
  let p ← (skipToToken (p.cursor.rest.length + 1) p).dropStale
  let c := p.cursor
  let p := p.unwindTo c.column
  match c.peek with
  | none => p.streamEnd
  | some x =>
    if c.column == 0 && x == '%' then p.directive
    else if c.column == 0 && c.atMarker '-' then p.documentMarker .documentStart
    else if c.column == 0 && c.atMarker '.' then p.documentMarker .documentEnd
    else
      match x with
      | '[' => p.flowStart .flowSequenceStart
      | '{' => p.flowStart .flowMappingStart
      | ']' => p.flowEnd .flowSequenceEnd
      | '}' => p.flowEnd .flowMappingEnd
      | ',' => p.flowEntry
      | '*' => p.scanned fun c => (anchorName c.next).map fun (name, c) => (.alias name, c)
      | '&' => p.scanned fun c => (anchorName c.next).map fun (name, c) => (.anchor name, c)
      | '!' => p.scanned fun c => (WrittenTag.scan c).map fun (t, c) => (.tag t, c)
      | '\'' =>
        p.scanned fun c =>
          (Quoted.text false (c.rest.length + 1) c.next).map fun (cs, c) => (.scalar cs false, c)
      | '"' =>
        p.scanned fun c =>
          (Quoted.text true (c.rest.length + 1) c.next).map fun (cs, c) => (.scalar cs false, c)
      | '|' => if p.inFlow then p.otherToken x else p.block false
      | '>' => if p.inFlow then p.otherToken x else p.block true
      | _ => p.otherToken x

end Progress

/-- The tokens of keys worked into the others. `keys` are in order of their places. -/
def withKeys : Nat → List KeyNote → List Token → List Token
  | _, _, [] => []
  | _, [], tokens => tokens
  | place, k :: keys, t :: tokens =>
    if k.place = place then
      (if k.opensMapping then [.blockMappingStart, .key] else [.key]) ++
        t :: withKeys (place + 1) keys tokens
    else t :: withKeys (place + 1) (k :: keys) tokens

/-- All tokens so far, in order. -/
def Progress.result (p : Progress) : List Token :=
  withKeys 0 (p.keys.mergeSort fun a b => a.place ≤ b.place) p.tokens.reverse

/-- The tokens up to the end, or up to a failure. -/
def tokensFrom : Nat → Progress → List Token × Option Failure
  | 0, p => (p.result, none)
  | fuel + 1, p =>
    match p.step with
    | .error e => (p.result, some e)
    | .ok next =>
      match next.tokens with
      | .streamEnd :: _ => (next.result, none)
      | _ => tokensFrom fuel next

/-- The tokens of a text, and what keeps the rest of it from being made into tokens. A byte order mark
at the start is left out. -/
def tokens (text : List Char) : List Token × Option Failure :=
  let c : Cursor := { rest := text }
  let c := if c.sees '\uFEFF' then c.next else c
  tokensFrom (text.length + 2) { cursor := c }

end Yaml
end CallPolicy

import CallPolicy.Xml.Source

/-!
# CallPolicy.Xml.Markup

The tokens of a document's content: tags with their attributes, references, comments, processing
instructions and text, one character at a time. A scan gives a token with the signs after it, or the
flaw that keeps the next signs from being one.
-/

namespace CallPolicy
namespace Xml

abbrev Signs := List Sign

/-- How many of the encoding's smallest units signs take. -/
def Signs.units (signs : Signs) : Nat := signs.foldr (fun s n => s.units + n) 0

/-- What is wrong with the next signs. -/
inductive Flaw where
  /-- A sign that cannot stand where it does. -/
  | invalid (position : Position)
  /-- The input ends within a token. -/
  | unclosed
  /-- The input ends within a character. -/
  | cut
  deriving DecidableEq

/-- The fault of a token that begins at `start`. -/
def Flaw.fault (start : Position) : Flaw → Fault
  | invalid p => ⟨.invalidToken, p⟩
  | unclosed => ⟨.unclosedToken, start⟩
  | cut => ⟨.partialCharacter, start⟩

/-- What a scan found, and the signs after it. -/
abbrev Found (α : Type) := α × Signs

/-- The signs of a text that takes the place of a reference. -/
def signsAt (p : Position) (cs : List Char) : Signs :=
  cs.map fun c => ⟨.char c, p, Encoding.utf8.lead (.char c), Encoding.utf8.units (.char c)⟩

def Sign.is (s : Sign) (c : Char) : Bool := s.mark == .char c

def Sign.isBlank (s : Sign) : Bool :=
  match s.mark with
  | .char c => Xml.isBlank c
  | _ => false

/-- Whether a name may begin with the sign. -/
def Sign.startsName (s : Sign) : Bool :=
  match s.mark with
  | .char c => isNameStart c || s.lead == .name
  | _ => false

/-- Whether a name may go on with the sign. -/
def Sign.continuesName (s : Sign) : Bool :=
  match s.mark with
  | .char c => isNamePart c || s.lead == .name
  | _ => false

/-- The character of a sign that may hold any. -/
def Sign.char (s : Sign) : Except Flaw Char :=
  match s.mark with
  | .char c => .ok c
  | .bad | .broken => .error (.invalid s.position)
  | .cut => .error .cut

def skipBlanks (signs : Signs) : Signs := signs.dropWhile Sign.isBlank

/-- A character that begins a name. -/
def nameStart : Signs → Except Flaw (Found Char)
  | [] => .error .unclosed
  | s :: rest => do
    let c ← s.char
    if s.startsName then return (c, rest) else throw (.invalid s.position)

/-- The rest of a name, up to the first sign that continues none. -/
def nameRest : Signs → Except Flaw (Found (List Char))
  | [] => .ok ([], [])
  | s :: rest =>
    match s.mark with
    | .char c =>
      if s.continuesName then
        match nameRest rest with
        | .ok (cs, after) => .ok (c :: cs, after)
        | .error e => .error e
      else .ok ([], s :: rest)
    | .bad | .broken => .error (.invalid s.position)
    | .cut => .error .cut

/-- A name without a colon. -/
def plainName (signs : Signs) : Except Flaw (Found (List Char)) := do
  let (c, after) ← nameStart signs
  let (cs, after) ← nameRest after
  return (c :: cs, after)

/-- A name, or two with a colon between them. -/
def qualifiedName (signs : Signs) : Except Flaw (Found (List Char)) := do
  let (first, after) ← plainName signs
  match after with
  | s :: rest =>
    if s.is ':' then
      let (second, after) ← plainName rest
      match after with
      | t :: _ =>
        if t.is ':' then throw (.invalid t.position) else return (first ++ ':' :: second, after)
      | [] => return (first ++ ':' :: second, after)
    else return (first, after)
  | [] => return (first, after)

/-- What a reference refers to. -/
inductive Reference where
  | entity (name : List Char)
  /-- A character by its number, none when no document may hold it. -/
  | character (c : Option Char)
  deriving DecidableEq

def numberedChar (n : Nat) : Option Char := if isLegal n then some (Char.ofNat n) else none

def hexDigit? (c : Char) : Option Nat :=
  if '0' ≤ c && c ≤ '9' then some (c.toNat - '0'.toNat)
  else if 'a' ≤ c && c ≤ 'f' then some (c.toNat - 'a'.toNat + 10)
  else if 'A' ≤ c && c ≤ 'F' then some (c.toNat - 'A'.toNat + 10)
  else none

def decimalDigit? (c : Char) : Option Nat := if isDigit c then some (c.toNat - '0'.toNat) else none

/-- The digits of a number in `base` up to a semicolon. `seen` tells that a digit came before. -/
def characterNumber (base : Nat) (digit? : Char → Option Nat) (seen : Bool) (value : Nat) :
    Signs → Except Flaw (Found Nat)
  | [] => .error .unclosed
  | s :: rest =>
    match s.mark with
    | .char c =>
      match digit? c with
      | some d => characterNumber base digit? true (value * base + d) rest
      | none => if c = ';' ∧ seen then .ok (value, rest) else .error (.invalid s.position)
    | _ => .error (.invalid s.position)

/-- A reference after its ampersand. -/
def reference (signs : Signs) : Except Flaw (Found Reference) := do
  match signs with
  | [] => throw .unclosed
  | s :: rest =>
    if s.is '#' then
      let (n, after) ←
        match rest with
        | t :: more =>
          if t.is 'x' then characterNumber 16 hexDigit? false 0 more
          else characterNumber 10 decimalDigit? false 0 rest
        | [] => throw .unclosed
      return (.character (numberedChar n), after)
    else
      let (name, after) ← plainName signs
      match after with
      | t :: more => if t.is ';' then return (.entity name, more) else throw (.invalid t.position)
      | [] => throw .unclosed

/-- A part of an attribute's value. -/
inductive Piece where
  | char (c : Char)
  | reference (r : Reference) (position : Position)
  /-- What keeps the rest of a value from being read. -/
  | flaw (f : Flaw)
  deriving DecidableEq

/-- The pieces of a value up to its closing quote. -/
def quotedPieces (quote : Char) : Nat → Signs → Except Flaw (Found (List Piece))
  | 0, _ | _ + 1, [] => .error .unclosed
  | fuel + 1, s :: rest => do
    let c ← s.char
    if c = quote then return ([], rest)
    else if c = '&' then
      let (r, after) ← reference rest
      let (more, after) ← quotedPieces quote fuel after
      return (.reference r s.position :: more, after)
    else if c = '<' then throw (.invalid s.position)
    else
      let (more, after) ← quotedPieces quote fuel rest
      return (.char c :: more, after)

/-- The pieces of a whole text, up to the first flaw in it. -/
def pieces : Nat → Signs → List Piece
  | 0, _ | _ + 1, [] => []
  | fuel + 1, s :: rest =>
    match s.char with
    | .error f => [.flaw f]
    | .ok '&' =>
      match reference rest with
      | .ok (r, after) => .reference r s.position :: pieces fuel after
      | .error .unclosed => [.flaw (.invalid s.position)]
      | .error f => [.flaw f]
    | .ok '<' => [.flaw (.invalid s.position)]
    | .ok c => .char c :: pieces fuel rest

structure Attribute where
  name : List Char
  position : Position
  value : List Piece

/-- A value after the name of its attribute: blanks, `=`, blanks and the quoted value. -/
def attributeValue (signs : Signs) : Except Flaw (Found (List Piece)) :=
  match skipBlanks signs with
  | [] => .error .unclosed
  | s :: rest =>
    if s.is '=' then
      match skipBlanks rest with
      | [] => .error .unclosed
      | q :: more =>
        if q.is '"' then quotedPieces '"' (more.length + 1) more
        else if q.is '\'' then quotedPieces '\'' (more.length + 1) more
        else .error (.invalid q.position)
    else .error (.invalid s.position)

/-- The end of a tag: whether the element is empty. -/
def tagEnd? (s : Sign) (rest : Signs) : Option (Except Flaw (Found Bool)) :=
  if s.is '>' then some (.ok (false, rest))
  else if s.is '/' then
    some <| match rest with
      | [] => .error .unclosed
      | t :: more => if t.is '>' then .ok (true, more) else .error (.invalid t.position)
  else none

/-- The attributes of a tag, from the first one's name on, and whether the element is empty. -/
def attributes : Nat → Signs → Except Flaw (Found (List Attribute × Bool))
  | 0, _ => .error .unclosed
  | _ + 1, [] => .error .unclosed
  | fuel + 1, s :: rest => do
    let (name, after) ← qualifiedName (s :: rest)
    let (value, after) ← attributeValue after
    let here : Attribute := ⟨name, s.position, value⟩
    match after with
    | [] => throw .unclosed
    | t :: more =>
      match tagEnd? t more with
      | some scan => do
        let (empty, after) ← scan
        return (([here], empty), after)
      | none =>
        if t.isBlank then
          match skipBlanks more with
          | [] => throw .unclosed
          | u :: others =>
            match tagEnd? u others with
            | some scan => do
              let (empty, after) ← scan
              return (([here], empty), after)
            | none => do
              let ((others, empty), after) ← attributes fuel (u :: others)
              return ((here :: others, empty), after)
        else throw (.invalid t.position)

inductive Token where
  | startTag (name : List Char) (attributes : List Attribute) (empty : Bool)
  /-- An end tag with the position of its name. -/
  | endTag (name : List Char) (position : Position)
  | reference (r : Reference)
  | text (c : Char)
  | comment
  | instruction
  /-- An XML declaration: the signs between `<?xml` and `?>`, and where they end. -/
  | declaration (content : Signs) (last : Position)
  /-- The beginning of a section of plain text. -/
  | sectionOpen

/-- A comment after `<!-`. -/
def comment (signs : Signs) : Except Flaw (Found Unit) :=
  match signs with
  | [] => .error .unclosed
  | s :: rest => if s.is '-' then body rest else .error (.invalid s.position)
where
  body : Signs → Except Flaw (Found Unit)
    | [] => .error .unclosed
    | s :: rest =>
      match s.mark with
      | .bad | .broken => .error (.invalid s.position)
      | .cut => .error .cut
      | .char '-' =>
        match rest with
        | [] => .error .unclosed
        | t :: more =>
          if t.is '-' then
            match more with
            | [] => .error .unclosed
            | u :: after => if u.is '>' then .ok ((), after) else .error (.invalid u.position)
          else body (t :: more)
      | .char _ => body rest

/-- The content of a processing instruction up to `?>`, and where it ends. -/
def instructionBody : Signs → Except Flaw (Found (Signs × Position))
  | [] => .error .unclosed
  | s :: rest =>
    match s.mark with
    | .bad | .broken => .error (.invalid s.position)
    | .cut => .error .cut
    | .char '?' =>
      match rest with
      | [] => .error .unclosed
      | t :: more =>
        if t.is '>' then .ok (([], s.position), more)
        else
          match instructionBody (t :: more) with
          | .ok ((content, last), after) => .ok ((s :: content, last), after)
          | .error e => .error e
    | .char _ =>
      match instructionBody rest with
      | .ok ((content, last), after) => .ok ((s :: content, last), after)
      | .error e => .error e

/-- A processing instruction after `<?`. The target `xml` marks a declaration, and its other
spellings are reserved. -/
def instruction (signs : Signs) : Except Flaw (Found Token) := do
  let (target, after) ← plainName signs
  match after with
  | [] => throw .unclosed
  | s :: rest =>
    let reserved := target.map Char.toLower == ['x', 'm', 'l']
    let token := fun content last =>
      if reserved then Token.declaration content last else .instruction
    if s.isBlank then
      if reserved && target != ['x', 'm', 'l'] then throw (.invalid s.position)
      let ((content, last), after) ← instructionBody rest
      return (token (s :: content) last, after)
    else if s.is '?' then
      if reserved && target != ['x', 'm', 'l'] then throw (.invalid s.position)
      match rest with
      | [] => throw .unclosed
      | t :: more =>
        if t.is '>' then return (token [] s.position, more) else throw (.invalid t.position)
    else throw (.invalid s.position)

/-- The word `CDATA[` after `<![`. -/
def sectionOpen (signs : Signs) : Except Flaw (Found Token) :=
  let word := ['C', 'D', 'A', 'T', 'A', '[']
  if Signs.units (signs.take word.length) < word.length then .error .unclosed
  else
    match (signs.zip word).find? fun (s, c) => !s.is c with
    | some (s, _) => .error (.invalid s.position)
    | none => .ok (.sectionOpen, signs.drop word.length)

/-- An end tag after `</`. -/
def endTag (signs : Signs) : Except Flaw (Found Token) := do
  match signs with
  | [] => throw .unclosed
  | s :: _ =>
    let (first, after) ← plainName signs
    let (name, after) ← colons after.length first after
    match skipBlanks after with
    | [] => throw .unclosed
    | t :: more =>
      if t.is '>' then return (.endTag name s.position, more) else throw (.invalid t.position)
where
  /-- A name may go on after any number of colons. -/
  colons : Nat → List Char → Signs → Except Flaw (Found (List Char))
    | 0, name, signs => .ok (name, signs)
    | fuel + 1, name, signs =>
      match signs with
      | t :: rest =>
        if t.is ':' then
          match nameRest rest with
          | .ok (more, after) => colons fuel (name ++ ':' :: more) after
          | .error e => .error e
        else .ok (name, signs)
      | [] => .ok (name, signs)

/-- A tag after its `<`. -/
def startTag (signs : Signs) : Except Flaw (Found Token) := do
  let (name, after) ← qualifiedName signs
  match after with
  | [] => throw .unclosed
  | s :: rest =>
    match tagEnd? s rest with
    | some scan =>
      let (empty, after) ← scan
      return (.startTag name [] empty, after)
    | none =>
      if s.isBlank then
        match skipBlanks rest with
        | [] => throw .unclosed
        | t :: more =>
          match tagEnd? t more with
          | some scan =>
            let (empty, after) ← scan
            return (.startTag name [] empty, after)
          | none =>
            let ((attributes, empty), after) ← attributes (more.length + 2) (t :: more)
            return (.startTag name attributes empty, after)
      else throw (.invalid s.position)

/-- Markup after `<`. -/
def markup (signs : Signs) : Except Flaw (Found Token) :=
  match signs with
  | [] => .error .unclosed
  | s :: rest =>
    if s.is '!' then
      match rest with
      | [] => .error .unclosed
      | t :: more =>
        if t.is '-' then (comment more).map fun (_, after) => (.comment, after)
        else if t.is '[' then sectionOpen more
        else .error (.invalid t.position)
    else if s.is '?' then instruction rest
    else if s.is '/' then endTag rest
    else
      match s.mark with
      | .char _ => if s.startsName then startTag signs else .error (.invalid s.position)
      | .bad | .broken => .error (.invalid s.position)
      | .cut => .error .cut

/-- The next token of content that is not at its end. -/
def contentToken (s : Sign) (rest : Signs) : Except Flaw (Found Token) := do
  let c ← s.char
  if c = '<' then markup rest
  else if c = '&' then
    let (r, after) ← reference rest
    return (.reference r, after)
  else if c = ']' then
    match rest with
    | t :: u :: _ =>
      if t.is ']' && u.is '>' then throw (.invalid u.position) else return (.text c, rest)
    | _ => return (.text c, rest)
  else return (.text c, rest)

end Xml
end CallPolicy

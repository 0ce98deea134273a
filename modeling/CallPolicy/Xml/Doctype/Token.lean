import CallPolicy.Xml.Markup

/-!
# CallPolicy.Xml.Doctype.Token

The tokens of what stands before and after the root element of a document, declarations of the
document type among them.
-/

namespace CallPolicy
namespace Xml
namespace Doctype

inductive Token where
  | blanks
  | comment
  | instruction
  | declaration (content : Signs) (last : Position)
  /-- The beginning of a tag, which is left in front of what follows. -/
  | tagAhead
  /-- The beginning of a markup declaration: `<!` and a word. -/
  | opening (word : List Char)
  /-- A `>`. -/
  | closing
  | literal (content : Signs)
  | name (cs : List Char)
  /-- A name with one colon in it. -/
  | qualified (cs : List Char)
  /-- Characters of names that make no name. -/
  | word
  /-- A name and a sign that says how often it may come. -/
  | repeated
  /-- A `#` and a name. -/
  | hashed (cs : List Char)
  | percent
  /-- A reference to a parameter entity. -/
  | parameter
  | comma
  | bar
  | openBracket
  | closeBracket
  | openGroup
  /-- A `)`, and whether a star follows it, or a star, a plus or a question mark. -/
  | closeGroup (isStarred isRepeated : Bool)
  | sectionOpen
  | sectionClose

/-- A word after `<!`, of signs that begin names by their first unit. -/
def openingWord : Signs → Except Flaw (Found (List Char))
  | [] => .error .unclosed
  | s :: rest =>
    if s.isBlank then .ok ([], s :: rest)
    else if s.is '%' then
      match rest with
      | [] => .error .unclosed
      | t :: _ =>
        if t.isBlank || t.is '%' then .error (.invalid s.position) else .ok ([], s :: rest)
    else
      match s.mark with
      | .char c =>
        if s.lead == .name then
          match openingWord rest with
          | .ok (cs, after) => .ok (c :: cs, after)
          | .error e => .error e
        else .error (.invalid s.position)
      | _ => .error (.invalid s.position)

/-- What follows `<!`. -/
def declarationOpen (signs : Signs) : Except Flaw (Found Token) :=
  match signs with
  | [] => .error .unclosed
  | s :: rest =>
    if s.is '-' then (Xml.comment rest).map fun (_, after) => (.comment, after)
    else if s.is '[' then .ok (.sectionOpen, rest)
    else
      match s.mark with
      | .char c =>
        if s.lead == .name then
          (openingWord rest).map fun (cs, after) => (.opening (c :: cs), after)
        else .error (.invalid s.position)
      | _ => .error (.invalid s.position)

/-- A literal up to its closing quote. What follows it cannot be just anything. -/
def literal (quote : Char) : Signs → Except Flaw (Found Signs)
  | [] => .error .unclosed
  | s :: rest =>
    match s.mark with
    | .bad | .broken => .error (.invalid s.position)
    | .cut => .error .cut
    | .char c =>
      if c = quote then
        match rest with
        | [] => .ok ([], [])
        | t :: _ =>
          if t.isBlank || t.is '>' || t.is '%' || t.is '[' then .ok ([], rest)
          else .error (.invalid t.position)
      else
        match literal quote rest with
        | .ok (content, after) => .ok (s :: content, after)
        | .error e => .error e

/-- The kinds of words that names and their like make. -/
inductive WordKind where
  | name
  | qualified
  | word
  deriving DecidableEq

def WordKind.token (k : WordKind) (cs : List Char) : Token :=
  match k with
  | name => .name cs
  | qualified => .qualified cs
  | word => .word

/-- Signs that end a word. -/
def endsWord (s : Sign) : Bool :=
  s.isBlank || s.is '>' || s.is ')' || s.is ',' || s.is '|' || s.is '[' || s.is '%'

/-- The rest of a word that begins with `before`. -/
def wordRest (k : WordKind) (before : List Char) : Signs → Except Flaw (Found Token)
  | [] => .ok (k.token before, [])
  | s :: rest =>
    match s.mark with
    | .bad | .broken => .error (.invalid s.position)
    | .cut => .error .cut
    | .char c =>
      if s.continuesName then wordRest k (before ++ [c]) rest
      else if endsWord s then .ok (k.token before, s :: rest)
      else if c = ':' then
        match k with
        | .name =>
          match rest with
          | [] => .error .unclosed
          | t :: more =>
            match t.mark with
            | .bad | .broken => .error (.invalid t.position)
            | .cut => .error .cut
            | .char d =>
              if t.continuesName then wordRest .qualified (before ++ [c, d]) more
              else if t.lead == .unsettled then .error (.invalid t.position)
              else wordRest .word (before ++ [c]) (t :: more)
        | _ => wordRest .word (before ++ [c]) rest
      else if (c = '+' ∨ c = '*' ∨ c = '?') ∧ k ≠ .word then .ok (.repeated, rest)
      else .error (.invalid s.position)

/-- A name after `#`. -/
def hashed (signs : Signs) : Except Flaw (Found Token) := do
  let (cs, after) ← plainName signs
  match after with
  | [] => return (.hashed cs, [])
  | s :: _ =>
    if s.isBlank || s.is ')' || s.is '>' || s.is '%' || s.is '|' then return (.hashed cs, after)
    else throw (.invalid s.position)

/-- What follows a percent sign: nothing of its own, or a name and a semicolon. -/
def percent (signs : Signs) : Except Flaw (Found Token) := do
  match signs with
  | [] => throw .unclosed
  | s :: _ =>
    if s.isBlank || s.is '%' then return (.percent, signs)
    else
      let (_, after) ← plainName signs
      match after with
      | [] => throw .unclosed
      | t :: more => if t.is ';' then return (.parameter, more) else throw (.invalid t.position)

/-- What follows `)`. -/
def closeGroup (signs : Signs) : Except Flaw (Found Token) :=
  match signs with
  | [] => .ok (.closeGroup false false, [])
  | s :: rest =>
    if s.is '*' then .ok (.closeGroup true true, rest)
    else if s.is '?' || s.is '+' then .ok (.closeGroup false true, rest)
    else if s.isBlank || s.is '>' || s.is ',' || s.is '|' || s.is ')' then
      .ok (.closeGroup false false, signs)
    else .error (.invalid s.position)

/-- What follows `]`. -/
def closeBracket (signs : Signs) : Except Flaw (Found Token) :=
  match signs with
  | [] => .ok (.closeBracket, [])
  | s :: rest =>
    if s.is ']' then
      match rest with
      | [] => .error .unclosed
      | t :: more => if t.is '>' then .ok (.sectionClose, more) else .ok (.closeBracket, signs)
    else .ok (.closeBracket, signs)

/-- An instruction or a declaration, after `<?`. -/
def instruction (signs : Signs) : Except Flaw (Found Token) := do
  match ← Xml.instruction signs with
  | (.declaration content last, after) => return (.declaration content last, after)
  | (_, after) => return (.instruction, after)

/-- What follows `<`, whose sign is `angle`. -/
def afterAngle (angle : Sign) (signs : Signs) : Except Flaw (Found Token) :=
  match signs with
  | [] => .error .unclosed
  | s :: rest =>
    if s.is '!' then declarationOpen rest
    else if s.is '?' then instruction rest
    else if s.lead == .other then .error (.invalid s.position)
    else .ok (.tagAhead, angle :: signs)

/-- The token that begins with the sign `s`. -/
def nextToken (s : Sign) (rest : Signs) : Except Flaw (Found Token) := do
  let c ← s.char
  if isBlank c then return (.blanks, skipBlanks rest)
  match c with
  | '<' => afterAngle s rest
  | '>' => return (.closing, rest)
  | '"' | '\'' => (literal c rest).map fun (content, after) => (.literal content, after)
  | '%' => percent rest
  | ',' => return (.comma, rest)
  | '|' => return (.bar, rest)
  | '[' => return (.openBracket, rest)
  | ']' => closeBracket rest
  | '(' => return (.openGroup, rest)
  | ')' => closeGroup rest
  | '#' => hashed rest
  | _ =>
    if s.startsName then wordRest .name [c] rest
    else if s.continuesName || c = ':' then wordRest .word [c] rest
    else throw (.invalid s.position)

end Doctype
end Xml
end CallPolicy

import CallPolicy.Pattern.Fault
import CallPolicy.Pattern.Syntax
import CallPolicy.Pattern.Token
import CallPolicy.Text.CharNames

/-!
# CallPolicy.Pattern.Reader

Reading a pattern: from its text to its tree, or the first fault met from left to right.
`readPattern` reads the whole text; the other functions read one construct each and share the state
`ReadState`. Recursion is bounded by a count of steps that no pattern uses up, because every step
takes a token or opens one construct for a token already taken.
-/

namespace CallPolicy
namespace Pattern

/-- Greatest repetition count that a pattern may not reach. -/
def repeatLimit : Nat := 4294967295

/-- Least group number that a pattern may not name. -/
def groupLimit : Nat := 1073741823

/-- Most digits that are read as one number. -/
def digitLimit : Nat := 4300

structure ReadState where
  /-- What is left to read. -/
  tokens : List Placed
  /-- Length of the pattern, the position when nothing is left. -/
  length : Nat
  /-- Options switched on for the whole pattern. -/
  flags : List Flag := []
  /-- Names of groups with their numbers. -/
  names : List (String × Nat) := []
  /-- Widths of the groups by number, none for one still open; the first stands for the pattern. -/
  widths : List (Option Width) := [none]
  /-- Inside a lookbehind, the number of the first group opened in it. -/
  lookbehindStart : Option Nat := none
  /-- Group numbers asked for in conditions, each with the position it is first asked at. -/
  conditions : List (Nat × Nat) := []

abbrev Reader (α : Type) : Type := StateT ReadState (Except ReadError) α

namespace Reader

def fail {α : Type} (cause : Cause) (position : Nat) : Reader α :=
  throw (.invalid ⟨cause, some position⟩)

/-- The next token, not taken. -/
def peek : Reader (Option Token) := do
  return (← get).tokens.head?.map (·.token)

/-- The position of the next token. -/
def tell : Reader Nat := do
  let s ← get
  return (s.tokens.head?.map (·.position)).getD s.length

/-- Refuses a pattern whose next token is a lone backslash. -/
def checkNext : Reader Unit := do
  match (← get).tokens with
  | ⟨.dangling, p⟩ :: _ => fail .danglingEscape p
  | _ => return ()

/-- Takes the next token. -/
def take : Reader (Option Token) := do
  match (← get).tokens with
  | [] => return none
  | t :: rest =>
    modify fun s => { s with tokens := rest }
    checkNext
    return some t.token

/-- Takes the next token when it is the character `c`. -/
def accept (c : Char) : Reader Bool := do
  if (← peek) = some (.char c) then
    let _ ← take
    return true
  return false

/-- Takes at most `n` characters of a class. -/
def takeWhile (isMember : Char → Bool) : Nat → Reader (List Char)
  | 0 => return []
  | n + 1 => do
    match ← peek with
    | some (.char c) =>
      if isMember c then
        let _ ← take
        return c :: (← takeWhile isMember n)
      else return []
    | _ => return []

/-- Takes the characters up to `terminator`, which is taken too, and gives them with the position of
the first. There has to be at least one. -/
def takeName (terminator : Char) (use : NameUse) : Reader (List Char × Nat) := do
  let start ← tell
  let rec go : Nat → List Char → Reader (List Char)
    | 0, taken => return taken
    | fuel + 1, taken => do
      let here ← tell
      match ← take with
      | none =>
        if taken.isEmpty then fail (.missingName use) here
        else fail (.unterminatedName terminator) start
      | some t =>
        if t = .char terminator then
          if taken.isEmpty then fail (.missingName use) here else return taken
        else go fuel (taken ++ t.text)
  let name ← go ((← get).tokens.length + 1) []
  return (name, start)

end Reader

open Reader

def isOctal (c : Char) : Bool := '0' ≤ c && c ≤ '7'

def isHex (c : Char) : Bool := c.isDigit || ('a' ≤ c && c ≤ 'f') || ('A' ≤ c && c ≤ 'F')

def hexValue (c : Char) : Nat :=
  if c.isDigit then c.toNat - 48
  else if 'a' ≤ c && c ≤ 'f' then c.toNat - 87
  else c.toNat - 55

/-- The value of digits in a base. -/
def digitsValue (base : Nat) (cs : List Char) : Nat :=
  cs.foldl (fun n c => n * base + hexValue c) 0

/-- The number that decimal digits write. -/
def readCount (digits : List Char) : Reader Nat := do
  if digits.length > digitLimit then throw .numberTooLong
  return digitsValue 10 digits

/-- A whole number as people write it: white space around it, a sign, single underscores between
digits, digits of any script. -/
def wholeNumber? (cs : List Char) : Option Int :=
  let isSpace := fun c : Char =>
    if c.toNat < 127 then c == ' ' || (9 ≤ c.toNat && c.toNat ≤ 13) else Text.isBlank c
  let trimmed := ((cs.dropWhile isSpace).reverse.dropWhile isSpace).reverse
  let (negative, body) := match trimmed with
    | '-' :: r => (true, r)
    | '+' :: r => (false, r)
    | r => (false, r)
  let rec go (value count : Nat) (afterDigit : Bool) : List Char → Option Nat
    | [] => if afterDigit && count ≤ digitLimit then some value else none
    | c :: r =>
      if c == '_' then (if afterDigit then go value count false r else none)
      else match Text.digitValue? c with
        | some d => go (value * 10 + d) (count + 1) true r
        | none => none
  (go 0 0 false body).map fun n => if negative then -(n : Int) else n

/-- An escape of fixed length in base sixteen after its letter. -/
def readHexEscape (letter : Char) (count start : Nat) : Reader Nat := do
  let digits ← takeWhile isHex count
  let escape := '\\' :: letter :: digits
  if digits.length ≠ count then fail (.incompleteEscape (String.ofList escape)) start
  let value := digitsValue 16 digits
  if value > 0x10FFFF then fail (.badEscape (String.ofList escape)) start
  return value

/-- A character by its name in braces. -/
def readNamedEscape (start : Nat) : Reader Nat := do
  if !(← accept '\x7b') then fail .missingBrace (← tell)
  let (name, _) ← takeName '\x7d' .character
  match Text.charByName? (String.ofList name) with
  | some n => return n
  | none => fail (.undefinedCharacter (String.ofList name)) start

/-- The character that a letter or sign stands for after a backslash. -/
def controlEscape? : Char → Option Nat
  | 'a' => some 7
  | 'f' => some 12
  | 'n' => some 10
  | 'r' => some 13
  | 't' => some 9
  | 'v' => some 11
  | '\\' => some 92
  | _ => none

/-- The class that a letter stands for after a backslash. -/
def kindEscape? : Char → Option SetItem
  | 'd' => some (.kind .digit false)
  | 'D' => some (.kind .digit true)
  | 's' => some (.kind .space false)
  | 'S' => some (.kind .space true)
  | 'w' => some (.kind .word false)
  | 'W' => some (.kind .word true)
  | _ => none

/-- The place that a letter stands for after a backslash. -/
def anchorEscape? : Char → Option Anchor
  | 'A' => some .textStart
  | 'b' => some .boundary
  | 'B' => some .nonBoundary
  | 'Z' => some .textEnd
  | _ => none

/-- The escapes for a character that sets and sequences share: by number, by name, or by itself.
None for a letter that escapes nothing. -/
def readCharEscape? (c : Char) (start : Nat) : Reader (Option Nat) := do
  match c with
  | 'x' => return some (← readHexEscape c 2 start)
  | 'u' => return some (← readHexEscape c 4 start)
  | 'U' => return some (← readHexEscape c 8 start)
  | 'N' => return some (← readNamedEscape start)
  | _ => return if c.isAlpha then none else some c.toNat

/-- An escape inside a set. -/
def readSetEscape (c : Char) (start : Nat) : Reader SetItem := do
  if c = 'b' then return .one 8
  if let some n := controlEscape? c then return .one n
  if let some k := kindEscape? c then return k
  if isOctal c then
    let digits := c :: (← takeWhile isOctal 2)
    let value := digitsValue 8 digits
    if value > 0o377 then fail (.octalTooLarge (String.ofList ('\\' :: digits))) start
    return .one value
  let bad := Cause.badEscape (String.ofList ['\\', c])
  if c.isDigit then fail bad start
  match ← readCharEscape? c start with
  | some n => return .one n
  | none => fail bad start

/-- Refuses a reference from a lookbehind to a group that is not closed before the lookbehind
starts. -/
def checkLookbehind (number : Nat) : Reader Unit := do
  let s ← get
  if let some first := s.lookbehindStart then
    if ((s.widths[number]?).bind id).isNone then fail .openGroup (← tell)
    if number ≥ first then fail .sameLookbehind (← tell)

/-- Refers to a group by number. -/
def readReference (digits : List Char) (start : Nat) : Reader Node := do
  let number := digitsValue 10 digits
  let s ← get
  match s.widths[number]? with
  | none => fail (.invalidGroup number) (start + 1)
  | some none => fail .openGroup start
  | some (some _) =>
    checkLookbehind number
    return .capture number

/-- An escape in a sequence that starts with a digit other than zero: a character when there are
three octal digits, otherwise a group. -/
def readDigitEscape (c : Char) (start : Nat) : Reader Node := do
  match ← peek with
  | some (.char d) =>
    if d.isDigit then
      let _ ← take
      match ← peek with
      | some (.char e) =>
        if isOctal c && isOctal d && isOctal e then
          let _ ← take
          let value := digitsValue 8 [c, d, e]
          if value > 0o377 then fail (.octalTooLarge (String.ofList ['\\', c, d, e])) start
          return .literal value
        else readReference [c, d] start
      | _ => readReference [c, d] start
    else readReference [c] start
  | _ => readReference [c] start

/-- An escape in a sequence. -/
def readEscape (c : Char) (start : Nat) : Reader Node := do
  if let some a := anchorEscape? c then return .anchor a
  if let some k := kindEscape? c then return .set false [k]
  if let some n := controlEscape? c then return .literal n
  if c = '0' then
    return .literal (digitsValue 8 (← takeWhile isOctal 2))
  if c.isDigit then readDigitEscape c start
  else
    match ← readCharEscape? c start with
    | some n => return .literal n
    | none => fail (.badEscape (String.ofList ['\\', c])) start

/-- One end of a range, or a member on its own. -/
def readSetMember (t : Token) (start : Nat) : Reader SetItem :=
  match t with
  | .char c => return .one c.toNat
  | .escape c => readSetEscape c start
  | .dangling => fail .danglingEscape start

/-- The members of a set up to its closing bracket, after those in `taken`. A bracket that comes
first is a member. -/
def readSetItems (opening : Nat) : Nat → List SetItem → Reader (List SetItem)
  | 0, taken => return taken
  | fuel + 1, taken => do
    let start ← tell
    match ← take with
    | none => fail .unterminatedSet opening
    | some this =>
      if this = .char ']' ∧ taken ≠ [] then return taken
      let first ← readSetMember this start
      if ← accept '-' then
        let thatStart ← tell
        match ← take with
        | none => fail .unterminatedSet opening
        | some that =>
          if that = .char ']' then return taken ++ [first, .one '-'.toNat]
          let second ← readSetMember that thatStart
          let width := this.text.length + 1 + that.text.length
          let bad := Cause.badRange (String.ofList this.text) (String.ofList that.text)
          match first, second with
          | .one low, .one high =>
            if high < low then fail bad ((← tell) - width)
            readSetItems opening fuel (taken ++ [.range low high])
          | _, _ => fail bad ((← tell) - width)
      else readSetItems opening fuel (taken ++ [first])

/-- A set after its opening bracket. A set of one character is that character. -/
def readSet (opening : Nat) : Reader Node := do
  let negated ← accept '^'
  let items ← readSetItems opening ((← get).tokens.length + 1) []
  match items.eraseDups, negated with
  | [.one n], false => return .literal n
  | [.one n], true => return .notLiteral n
  | items, _ => return .set negated items

/-- The counts of a repetition in braces, after the opening brace; none when the braces hold no
counts, with nothing taken. -/
def readBraces : Reader (Option (Nat × Option Nat)) := do
  let saved ← get
  let here ← tell
  if (← peek) = some (.char '\x7d') then return none
  let fuel := saved.tokens.length
  let low ← takeWhile Char.isDigit fuel
  let high ← if ← accept ',' then takeWhile Char.isDigit fuel else pure low
  if !(← accept '\x7d') then
    set saved
    return none
  let mut min := 0
  let mut max := none
  if !low.isEmpty then
    min ← readCount low
    if min ≥ repeatLimit then throw .repeatTooLarge
  if !high.isEmpty then
    let n ← readCount high
    if n ≥ repeatLimit then throw .repeatTooLarge
    if n < min then fail .repeatOrder here
    max := some n
  return some (min, max)

/-- The repetition that a sign starts; none when an opening brace stands for itself. -/
def readCounts (sign : Char) : Reader (Option (Nat × Option Nat)) :=
  match sign with
  | '?' => return some (0, some 1)
  | '*' => return some (0, none)
  | '+' => return some (1, none)
  | _ => readBraces

def readGreed : Reader Greed := do
  if ← accept '?' then return .lazy
  if ← accept '+' then return .possessive
  return .greedy

/-- Repeats the last node of a sequence that is kept in reverse. -/
def repeatLast (start min : Nat) (max : Option Nat) : List Node → Reader (List Node)
  | [] => fail .nothingToRepeat start
  | .anchor _ :: _ => fail .nothingToRepeat start
  | .repeated _ _ _ _ :: _ => fail .repeatOfRepeat start
  | node :: before => do
    return .repeated (← readGreed) min max [node] :: before

/-- Skips a comment that ends with its line. -/
def skipLine : Nat → Reader Unit
  | 0 => return ()
  | fuel + 1 => do
    match ← take with
    | none => return ()
    | some t => if t = .char '\n' then return () else skipLine fuel

/-- Skips a comment in a group. -/
def skipComment (opening : Nat) : Nat → Reader Unit
  | 0 => return ()
  | fuel + 1 => do
    if (← peek).isNone then fail .unterminatedComment opening
    let t ← take
    if t = some (.char ')') then return () else skipComment opening fuel

/-- The fault of a token that is no flag: unknown if it is a letter, otherwise `other`. -/
def flagFault (other : Cause) : Token → Cause
  | .char c => if Text.isLetter c then .unknownFlag else other
  | _ => other

def flagOf? : Token → Option Flag
  | .char c => Flag.ofChar? c
  | _ => none

/-- Flags to switch on, from the first on. Ends with the token after them. -/
def readFlagsOn (flag : Flag) : Nat → List Flag → Reader (List Flag × Char)
  | 0, on => return (on, ')')
  | fuel + 1, on => do
    if flag = .locale then fail .localeFlag (← tell)
    let on := on ++ [flag]
    if flag.choosesAlphabet && on.any fun f => f.choosesAlphabet && f != flag then
      fail .incompatibleFlags (← tell)
    let here ← tell
    match ← take with
    | none => fail .missingFlagEnd here
    | some (.char ')') => return (on, ')')
    | some (.char '-') => return (on, '-')
    | some (.char ':') => return (on, ':')
    | some t =>
      match flagOf? t with
      | some next => readFlagsOn next fuel on
      | none => fail (flagFault .missingFlagEnd t) here

/-- Flags to switch off, from the first on, up to the colon. -/
def readFlagsOff (flag : Flag) : Nat → List Flag → Reader (List Flag)
  | 0, off => return off
  | fuel + 1, off => do
    if flag.choosesAlphabet then fail .alphabetFlagOff (← tell)
    let off := off ++ [flag]
    let here ← tell
    match ← take with
    | none => fail .missingColon here
    | some (.char ':') => return off
    | some t =>
      match flagOf? t with
      | some next => readFlagsOff next fuel off
      | none => fail (flagFault .missingColon t) here

/-- What flags at the start of a group do: hold for the whole pattern, or for the group. -/
inductive FlagScope where
  | whole
  | here (on off : List Flag)

/-- The flags of a group, whose first token has been taken. -/
def readFlags (first : Token) : Reader FlagScope := do
  let fuel := (← get).tokens.length + 1
  let (on, ending) ← match flagOf? first with
    | some flag => readFlagsOn flag fuel []
    | none => pure ([], '-')
  if ending = ')' then
    modify fun s => { s with flags := s.flags ++ on }
    return .whole
  if on.contains .template then fail .globalFlagOn ((← tell) - 1)
  let off ← if ending = '-' then
      let here ← tell
      match ← take with
      | none => fail .missingFlag here
      | some t =>
        match flagOf? t with
        | some flag => readFlagsOff flag fuel []
        | none => fail (flagFault .missingFlag t) here
    else pure []
  if off.contains .template then fail .globalFlagOff ((← tell) - 1)
  if on.any off.contains then fail .flagOnAndOff ((← tell) - 1)
  return .here on off

/-- Opens a captured group and gives its number. -/
def openGroup (name : Option (String × Nat)) : Reader Nat := do
  let s ← get
  let number := s.widths.length
  modify fun s => { s with widths := s.widths ++ [none] }
  if let some (n, position) := name then
    if let some (_, earlier) := s.names.find? (·.1 == n) then
      fail (.redefinedGroup n number earlier) position
    modify fun s => { s with names := s.names ++ [(n, number)] }
  return number

def closeGroup (number : Nat) (body : List Node) : Reader Unit :=
  modify fun s => { s with widths := s.widths.set number (some (sequenceWidth s.widths body)) }

/-- A group's name up to `terminator`, with its position. -/
def readGroupName (terminator : Char) : Reader (String × Nat) := do
  let (cs, position) ← takeName terminator .group
  let name := String.ofList cs
  if !Text.isIdentifier cs then fail (.badGroupName name) position
  return (name, position)

/-- A reference to a group by name. -/
def readNamedReference : Reader Node := do
  let (name, position) ← readGroupName ')'
  match (← get).names.find? (·.1 == name) with
  | none => fail (.unknownGroupName name) position
  | some (_, number) =>
    if (((← get).widths[number]?).bind id).isNone then fail .openGroup position
    checkLookbehind number
    return .capture number

/-- The group that a condition asks about, by name or number. -/
def readCondition : Reader Nat := do
  let (cs, position) ← takeName ')' .group
  let name := String.ofList cs
  let number ← if Text.isIdentifier cs then
      match (← get).names.find? (·.1 == name) with
      | none => fail (.unknownGroupName name) position
      | some (_, number) => pure number
    else
      match wholeNumber? cs with
      | some (.ofNat 0) => fail .badGroupNumber position
      | some (.ofNat n) =>
        if n ≥ groupLimit then fail (.invalidGroup n) position
        modify fun s =>
          if s.conditions.any (·.1 == n) then s
          else { s with conditions := s.conditions ++ [(n, position)] }
        pure n
      | _ => fail (.badGroupName name) position
  checkLookbehind number
  return number

def isPatternSpace (c : Char) : Bool := c == ' ' || (9 ≤ c.toNat && c.toNat ≤ 13)

/-- Ends a construct that was opened at `opening`. -/
def closeParen (opening : Nat) : Reader Unit := do
  if !(← accept ')') then fail .unterminatedGroup opening

/-- What reading one parenthesis adds to its sequence. -/
inductive Opened where
  /-- A comment: nothing. -/
  | nothing
  /-- Options for the whole pattern. -/
  | options
  | node (n : Node)

mutual

/-- The alternatives from here to the closing parenthesis or the end. At the top, the first
alternative may start with options for the whole pattern, which hold from the next on as well. -/
def readAlternatives (verbose top first : Bool) : Nat → Reader (List (List Node))
  | 0 => return []
  | fuel + 1 => do
    let alternative ← readSequence verbose (top && first) fuel []
    if ← accept '|' then
      let s ← get
      let inner := if top then s.flags.contains .verbose else verbose
      return alternative :: (← readAlternatives inner top false fuel)
    return [alternative]
termination_by structural fuel => fuel

/-- The body of a group: its only alternative, or a branch. -/
def readBody (verbose top : Bool) : Nat → Reader (List Node)
  | 0 => return []
  | fuel + 1 => do
    match ← readAlternatives verbose top true fuel with
    | [alternative] => return alternative
    | alternatives => return [.branch alternatives]
termination_by structural fuel => fuel

/-- A sequence, after the nodes in `before`, which are kept in reverse. -/
def readSequence (verbose first : Bool) : Nat → List Node → Reader (List Node)
  | 0, before => return before.reverse
  | fuel + 1, before => do
    let start ← tell
    match ← peek with
    | none => return before.reverse
    | some (.char '|') => return before.reverse
    | some (.char ')') => return before.reverse
    | some .dangling => fail .danglingEscape start
    | some (.escape c) =>
      let _ ← take
      readSequence verbose first fuel ((← readEscape c start) :: before)
    | some (.char c) =>
      let _ ← take
      if verbose && isPatternSpace c then readSequence verbose first fuel before
      else if verbose && c == '#' then
        skipLine ((← get).tokens.length + 1)
        readSequence verbose first fuel before
      else if c == '[' then readSequence verbose first fuel ((← readSet start) :: before)
      else if c == '*' || c == '+' || c == '?' || c == '\x7b' then
        match ← readCounts c with
        | none => readSequence verbose first fuel (.literal c.toNat :: before)
        | some (min, max) =>
          readSequence verbose first fuel (← repeatLast start min max before)
      else if c == '.' then readSequence verbose first fuel (.any :: before)
      else if c == '^' then readSequence verbose first fuel (.anchor .lineStart :: before)
      else if c == '$' then readSequence verbose first fuel (.anchor .lineEnd :: before)
      else if c == '(' then
        match ← readParen verbose start fuel with
        | .nothing => readSequence verbose first fuel before
        | .node n => readSequence verbose first fuel (n :: before)
        | .options =>
          if !first || !before.isEmpty then fail .flagsNotAtStart start
          readSequence ((← get).flags.contains .verbose) first fuel before
      else readSequence verbose first fuel (.literal c.toNat :: before)
termination_by structural fuel _ => fuel

/-- A parenthesis after its opening at `start`. -/
def readParen (verbose : Bool) (start : Nat) : Nat → Reader Opened
  | 0 => return .nothing
  | fuel + 1 => do
    if !(← accept '?') then
      return .node (← readCaptured verbose start none fuel)
    let here ← tell
    match ← take with
    | none => fail .unexpectedEnd here
    | some (.char 'P') =>
      if ← accept '<' then
        let name ← readGroupName '>'
        return .node (← readCaptured verbose start (some name) fuel)
      else if ← accept '=' then return .node (← readNamedReference)
      else
        let next ← tell
        match ← take with
        | none => fail .unexpectedEnd next
        | some t => fail (.unknownExtension (String.ofList ('P' :: t.text))) (start + 1)
    | some (.char ':') =>
      let body ← readBody verbose false fuel
      closeParen start
      return .node (.group none [] [] body)
    | some (.char '#') =>
      skipComment start ((← get).tokens.length + 1)
      return .nothing
    | some (.char '=') => return .node (← readLook verbose start false false fuel)
    | some (.char '!') => return .node (← readLook verbose start false true fuel)
    | some (.char '<') =>
      let next ← tell
      match ← take with
      | none => fail .unexpectedEnd next
      | some (.char '=') => return .node (← readLook verbose start true false fuel)
      | some (.char '!') => return .node (← readLook verbose start true true fuel)
      | some t => fail (.unknownExtension (String.ofList ('<' :: t.text))) (start + 1)
    | some (.char '(') => return .node (← readConditional verbose start fuel)
    | some (.char '>') =>
      let body ← readBody verbose false fuel
      closeParen start
      return .node (.atomic body)
    | some t =>
      if (flagOf? t).isSome || t = .char '-' then
        match ← readFlags t with
        | .whole => return .options
        | .here on off =>
          let inner := (verbose || on.contains .verbose) && !off.contains .verbose
          let body ← readBody inner false fuel
          closeParen start
          return .node (.group none on off body)
      else fail (.unknownExtension (String.ofList t.text)) (start + 1)
termination_by structural fuel => fuel

/-- The rest of a captured group. -/
def readCaptured (verbose : Bool) (start : Nat) (name : Option (String × Nat)) :
    Nat → Reader Node
  | 0 => return .branch []
  | fuel + 1 => do
    let number ← openGroup name
    let body ← readBody verbose false fuel
    closeParen start
    closeGroup number body
    return .group (some number) [] [] body
termination_by structural fuel => fuel

/-- The rest of a lookahead or lookbehind. -/
def readLook (verbose : Bool) (start : Nat) (behind negated : Bool) : Nat → Reader Node
  | 0 => return .branch []
  | fuel + 1 => do
    let outer := (← get).lookbehindStart
    if behind && outer.isNone then
      modify fun s => { s with lookbehindStart := some s.widths.length }
    let body ← readBody verbose false fuel
    if behind && outer.isNone then
      modify fun s => { s with lookbehindStart := none }
    closeParen start
    return .look behind negated body
termination_by structural fuel => fuel

/-- The rest of a choice that hangs on whether a group is set. -/
def readConditional (verbose : Bool) (start : Nat) : Nat → Reader Node
  | 0 => return .branch []
  | fuel + 1 => do
    let number ← readCondition
    let yes ← readSequence verbose false fuel []
    let no ← if ← accept '|' then
        let no ← readSequence verbose false fuel []
        if (← peek) = some (.char '|') then fail .tooManyBranches (← tell)
        pure no
      else pure []
    closeParen start
    return .conditional number yes no
termination_by structural fuel => fuel

end

mutual

/-- The first construct that can be read but not matched: a lookbehind whose width is not fixed or
too great, or any repetition under the template option. -/
def Node.checkShape (template : Bool) (widths : List (Option Width)) : Node → Except Cause Unit
  | .literal _ | .notLiteral _ | .any | .set _ _ | .anchor _ | .capture _ => .ok ()
  | .group _ _ _ body | .atomic body => checkShapes template widths body
  | .repeated greed _ _ body =>
    if template then
      .error (.templateRepeat (match greed with
        | .greedy => "MAX_REPEAT"
        | .lazy => "MIN_REPEAT"
        | .possessive => "POSSESSIVE_REPEAT"))
    else checkShapes template widths body
  | .look behind _ body =>
    let w := sequenceWidth widths body
    if behind && w.min > repeatLimit then .error .wideLookbehind
    else if behind && w.min != w.max then .error .variableLookbehind
    else checkShapes template widths body
  | .conditional _ yes no => do
    checkShapes template widths yes
    checkShapes template widths no
  | .branch alternatives => checkAlternatives template widths alternatives

def checkShapes (template : Bool) (widths : List (Option Width)) : List Node → Except Cause Unit
  | [] => .ok ()
  | node :: rest => do
    node.checkShape template widths
    checkShapes template widths rest

def checkAlternatives (template : Bool) (widths : List (Option Width)) :
    List (List Node) → Except Cause Unit
  | [] => .ok ()
  | alternative :: others => do
    checkShapes template widths alternative
    checkAlternatives template widths others

end

/-- A pattern read: its text, its tree, the options it starts with and the widths of its groups. -/
structure Parsed where
  mode : Mode
  widths : List (Option Width)
  body : List Node

/-- Reads everything from the current state. -/
def readAll : Reader Parsed := do
  checkNext
  let body ← readBody false true (4 * (← get).tokens.length + 8)
  let s ← get
  if s.flags.contains .ascii && s.flags.contains .unicode then throw .alphabetConflict
  if (← peek).isSome then fail .unbalanced (← tell)
  if let some (number, position) := s.conditions.find? fun c => s.widths.length ≤ c.1 then
    fail (.invalidGroup number) position
  match checkShapes (s.flags.contains .template) s.widths body with
  | .ok () => return ⟨Mode.switch {} s.flags [], s.widths, body⟩
  | .error cause => throw (.invalid ⟨cause, none⟩)

/-- Reads a pattern. -/
def readPattern (text : List Char) : Except ReadError Parsed :=
  (readAll.run { tokens := tokenize 0 text, length := text.length }).map (·.1)

end Pattern
end CallPolicy

import CallPolicy.Pattern.Syntax
import CallPolicy.Text.CharClass
import CallPolicy.Text.LetterCase

/-!
# CallPolicy.Pattern.Matcher

Matching by backtracking. A node is matched at a spot of the text and hands every way to match it,
best first, to a continuation; the first way whose continuation succeeds wins. Repetitions end
because one that starts where the one before it started is the last.
-/

namespace CallPolicy
namespace Pattern

/-- A place in the text: the characters before it, nearest first, and those after it. -/
structure Spot where
  before : List Char
  rest : List Char

namespace Spot

def offset (s : Spot) : Nat := s.before.length

/-- The place `n` characters to the left, if there is one. -/
def back? (s : Spot) : Nat → Option Spot
  | 0 => some s
  | n + 1 =>
    match s.before with
    | [] => none
    | c :: before => back? ⟨before, c :: s.rest⟩ n

end Spot

/-- What a group has captured: where it was last opened, and the offset at which it was last
closed. -/
structure Capture where
  opened : Option Spot := none
  closed : Option Nat := none

/-- The captured text. A group that was opened again after it was last closed has none. -/
def Capture.text? (c : Capture) : Option (List Char) :=
  match c.opened, c.closed with
  | some s, some stop =>
    if s.offset ≤ stop then some (s.rest.take (stop - s.offset)) else none
  | _, _ => none

/-- The captures by group number. -/
abbrev Captures := Nat → Capture

namespace Captures

def empty : Captures := fun _ => {}

def set (cs : Captures) (number : Nat) (c : Capture) : Captures :=
  fun n => if n = number then c else cs n

end Captures

abbrev Result := Option (Spot × Captures)

abbrev Continuation := Spot → Captures → Result

/-- The code point of a character with its case taken away, if case is to be ignored. -/
def folded (m : Mode) (c : Nat) : Nat :=
  if m.ignoreCase then (if m.ascii then Text.lowerAscii c else Text.lower c) else c

/-- A character against one code point. -/
def matchesCode (m : Mode) (code : Nat) (c : Char) : Bool :=
  if m.ignoreCase && !m.ascii then (Text.kin (Text.lower code)).contains (Text.lower c.toNat)
  else folded m code == folded m c.toNat

/-- A character against a class. -/
def matchesKind (m : Mode) (k : CharKind) (c : Char) : Bool :=
  if m.ascii then
    match k with
    | .digit => c.isDigit
    | .space => c == ' ' || (9 ≤ c.toNat && c.toNat ≤ 13)
    | .word => c.isAlphanum || c == '_'
  else
    match k with
    | .digit => Text.isDecimal c
    | .space => Text.isBlank c
    | .word => Text.isWord c

/-- Greatest code point whose case is looked at inside a set. -/
def lastCased : Nat := 0xFFFF

/-- A folded code point against a range, with case ignored: it, or a code point that it is folded
from, lies in the part of the range up to `lastCased`; past that part, it or its upper case lies
anywhere in the range. -/
def inFoldedRange (m : Mode) (low high x : Nat) : Bool :=
  let sources :=
    if m.ascii then (if 97 ≤ x && x ≤ 122 then [x, x - 32] else [x]) else Text.caseClass x
  sources.any (fun i => low ≤ i && i ≤ high && i ≤ lastCased) ||
    (lastCased < high &&
      ((low ≤ x && x ≤ high) || (low ≤ Text.upper x && Text.upper x ≤ high)))

/-- A character against a member of a set. -/
def matchesItem (m : Mode) (c : Char) : SetItem → Bool
  | .one code =>
    if m.ignoreCase && lastCased < folded m code then folded m c.toNat == code
    else matchesCode m code c
  | .range low high =>
    if m.ignoreCase then inFoldedRange m low high (folded m c.toNat)
    else low ≤ c.toNat && c.toNat ≤ high
  | .kind k negated => matchesKind m k c != negated

/-- Whether two texts agree up to case, if case is to be ignored. -/
def sameFolded (m : Mode) : List Char → List Char → Bool
  | [], [] => true
  | a :: as, b :: bs => folded m a.toNat == folded m b.toNat && sameFolded m as bs
  | _, _ => false

def isWordAt (m : Mode) : List Char → Bool
  | [] => false
  | c :: _ => matchesKind m .word c

/-- A condition on a place. No place of an empty text is on or off a word boundary. -/
def holdsAt (m : Mode) (s : Spot) : Anchor → Bool
  | .textStart => s.before.isEmpty
  | .textEnd => s.rest.isEmpty
  | .lineStart => s.before.isEmpty || (m.multiline && s.before.head? == some '\n')
  | .lineEnd =>
    s.rest.isEmpty || (if m.multiline then s.rest.head? == some '\n' else s.rest == ['\n'])
  | .boundary =>
    !(s.before.isEmpty && s.rest.isEmpty) && isWordAt m s.before != isWordAt m s.rest
  | .nonBoundary =>
    !(s.before.isEmpty && s.rest.isEmpty) && isWordAt m s.before == isWordAt m s.rest

/-- Takes one character of a class. -/
def takeChar (isMember : Char → Bool) (s : Spot) (cs : Captures) (k : Continuation) : Result :=
  match s.rest with
  | [] => none
  | c :: rest => if isMember c then k ⟨c :: s.before, rest⟩ cs else none

/-- Takes a given text. -/
def takeText (m : Mode) (text : List Char) (s : Spot) (cs : Captures) (k : Continuation) :
    Result :=
  let n := text.length
  let taken := s.rest.take n
  if sameFolded m taken text then k ⟨taken.reverse ++ s.before, s.rest.drop n⟩ cs else none

abbrev Body := Spot → Captures → Continuation → Result

/-- Every way is good enough: what an assertion or an atomic group asks of its body. -/
def succeed : Continuation := fun s cs => some (s, cs)

/-- The body a fixed number of times. -/
def exactly (body : Body) : Nat → Body
  | 0 => fun s cs k => k s cs
  | n + 1 => fun s cs k => body s cs fun s cs => exactly body n s cs k

/-- Whether one more repetition is allowed, after `count` of them and with the last one starting
at `last`. -/
def mayRepeat (max : Option Nat) (count : Nat) (last : Option Nat) (s : Spot) : Bool :=
  max.all (count < ·) && last != some s.offset

def greedily (body : Body) (max : Option Nat) (k : Continuation) :
    Nat → Nat → Option Nat → Continuation
  | 0, _, _ => k
  | fuel + 1, count, last => fun s cs =>
    if mayRepeat max count last s then
      match body s cs (greedily body max k fuel (count + 1) (some s.offset)) with
      | some r => some r
      | none => k s cs
    else k s cs

def lazily (body : Body) (max : Option Nat) (k : Continuation) :
    Nat → Nat → Option Nat → Continuation
  | 0, _, _ => k
  | fuel + 1, count, last => fun s cs =>
    match k s cs with
    | some r => some r
    | none =>
      if mayRepeat max count last s then
        body s cs (lazily body max k fuel (count + 1) (some s.offset))
      else none

/-- As many repetitions as there are, each matched in its best way. -/
def possessively (body : Body) (max : Option Nat) :
    Nat → Nat → Option Nat → Spot → Captures → Spot × Captures
  | 0, _, _, s, cs => (s, cs)
  | fuel + 1, count, last, s, cs =>
    if mayRepeat max count last s then
      match body s cs succeed with
      | some (s', cs') => possessively body max fuel (count + 1) (some s.offset) s' cs'
      | none => (s, cs)
    else (s, cs)

/-- The body with its best way only. -/
def atomically (body : Body) : Body := fun s cs k =>
  match body s cs succeed with
  | some (s, cs) => k s cs
  | none => none

/-- Between `min` and `max` repetitions. The optional ones are bounded by the characters left,
since each but the last takes at least one. -/
def repeatedly (greed : Greed) (min : Nat) (max : Option Nat) (body : Body) : Body :=
  fun s cs k =>
    match greed with
    | .greedy =>
      exactly body min s cs fun s cs => greedily body max k (s.rest.length + 2) min none s cs
    | .lazy =>
      exactly body min s cs fun s cs => lazily body max k (s.rest.length + 2) min none s cs
    | .possessive =>
      exactly (atomically body) min s cs fun s cs =>
        let (s, cs) := possessively body max (s.rest.length + 2) min none s cs
        k s cs

/-- A condition on what comes after the place or, over `width` characters, before it. What its body
captures is kept unless the condition is negated. -/
def looking (width : Option Nat) (negated : Bool) (body : Body) : Body := fun s cs k =>
  let found := match width with
    | none => body s cs succeed
    | some n => (s.back? n).bind fun s => body s cs succeed
  match found, negated with
  | some (_, cs), false => k s cs
  | none, true => k s cs
  | _, _ => none

/-- A body whose ends are recorded as a capture. -/
def capturing (number : Nat) (body : Body) : Body := fun s cs k =>
  let opened := cs.set number { cs number with opened := some s }
  body s opened fun s cs => k s (cs.set number { cs number with closed := some s.offset })

mutual

def matchNode (widths : List (Option Width)) (m : Mode) : Node → Body
  | .literal code => takeChar (matchesCode m code)
  | .notLiteral code => takeChar fun c => !matchesCode m code c
  | .any => takeChar fun c => m.dotAll || c != '\n'
  | .set negated items => takeChar fun c => items.any (matchesItem m c) != negated
  | .anchor a => fun s cs k => if holdsAt m s a then k s cs else none
  | .group number on off body =>
    let inner := matchSequence widths (m.switch on off) body
    match number with
    | some n => capturing n inner
    | none => inner
  | .atomic body => atomically (matchSequence widths m body)
  | .repeated greed min max body => repeatedly greed min max (matchSequence widths m body)
  | .look behind negated body =>
    let width := if behind then some (sequenceWidth widths body).min else none
    looking width negated (matchSequence widths m body)
  | .capture number => fun s cs k =>
    match (cs number).text? with
    | some text => takeText m text s cs k
    | none => none
  | .conditional number yes no => fun s cs k =>
    match (cs number).text? with
    | some _ => matchSequence widths m yes s cs k
    | none => matchSequence widths m no s cs k
  | .branch alternatives => matchBranch widths m alternatives

def matchSequence (widths : List (Option Width)) (m : Mode) : List Node → Body
  | [] => fun s cs k => k s cs
  | node :: rest => fun s cs k =>
    matchNode widths m node s cs fun s cs => matchSequence widths m rest s cs k

def matchBranch (widths : List (Option Width)) (m : Mode) : List (List Node) → Body
  | [] => fun _ _ _ => none
  | alternative :: others => fun s cs k =>
    match matchSequence widths m alternative s cs k with
    | some r => some r
    | none => matchBranch widths m others s cs k

end

/-- Only the end of the text will do. -/
def atEnd : Continuation := fun s cs => if s.rest.isEmpty then some (s, cs) else none

/-- Whether a sequence matches a text from its first character to its last. -/
def fullMatch (widths : List (Option Width)) (m : Mode) (body : List Node) (text : List Char) :
    Bool :=
  (matchSequence widths m body ⟨[], text⟩ Captures.empty atEnd).isSome

end Pattern
end CallPolicy

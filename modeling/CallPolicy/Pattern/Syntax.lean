/-!
# CallPolicy.Pattern.Syntax

What a pattern means, as a tree: sequences of nodes that match one character, a place, a group, a
repetition, an alternative or an earlier capture. Code points are natural numbers, since a pattern
may name ones that no text holds.
-/

namespace CallPolicy
namespace Pattern

/-- The letters that switch an option inside a pattern. -/
inductive Flag where
  | ascii
  | ignoreCase
  | locale
  | multiline
  | dotAll
  | template
  | unicode
  | verbose
  deriving DecidableEq

namespace Flag

def ofChar? : Char → Option Flag
  | 'a' => some .ascii
  | 'i' => some .ignoreCase
  | 'L' => some .locale
  | 'm' => some .multiline
  | 's' => some .dotAll
  | 't' => some .template
  | 'u' => some .unicode
  | 'x' => some .verbose
  | _ => none

/-- The flags that choose the alphabet of character classes, of which one holds at a time. -/
def choosesAlphabet (f : Flag) : Bool := f == .ascii || f == .locale || f == .unicode

end Flag

/-- The options in force while matching. -/
structure Mode where
  ascii : Bool := false
  ignoreCase : Bool := false
  multiline : Bool := false
  dotAll : Bool := false
  deriving DecidableEq

namespace Mode

/-- Options after switching `on` and `off`. -/
def switch (m : Mode) (on off : List Flag) : Mode where
  ascii := on.contains .ascii || (m.ascii && !on.contains .unicode)
  ignoreCase := (m.ignoreCase || on.contains .ignoreCase) && !off.contains .ignoreCase
  multiline := (m.multiline || on.contains .multiline) && !off.contains .multiline
  dotAll := (m.dotAll || on.contains .dotAll) && !off.contains .dotAll

end Mode

inductive CharKind where
  | digit
  | space
  | word
  deriving DecidableEq

/-- A member of a character set. -/
inductive SetItem where
  | one (code : Nat)
  | range (low high : Nat)
  | kind (k : CharKind) (negated : Bool)
  deriving DecidableEq

/-- A condition on a place in the text. -/
inductive Anchor where
  | textStart
  | textEnd
  | lineStart
  | lineEnd
  | boundary
  | nonBoundary
  deriving DecidableEq

/-- How a repetition trades with what follows: as many as possible, as few as possible, or as many
as possible without giving any back. -/
inductive Greed where
  | greedy
  | lazy
  | possessive
  deriving DecidableEq

inductive Node where
  | literal (code : Nat)
  | notLiteral (code : Nat)
  | any
  | set (negated : Bool) (items : List SetItem)
  | anchor (a : Anchor)
  /-- A group, captured when it has a number, with the options it switches. -/
  | group (number : Option Nat) (on off : List Flag) (body : List Node)
  | atomic (body : List Node)
  | repeated (greed : Greed) (min : Nat) (max : Option Nat) (body : List Node)
  | look (behind negated : Bool) (body : List Node)
  | capture (number : Nat)
  | conditional (number : Nat) (yes no : List Node)
  | branch (alternatives : List (List Node))

/-- Greatest width that is told apart. -/
def widthLimit : Nat := Nat.pow 2 64

/-- Least and greatest number of characters matched. -/
structure Width where
  min : Nat
  max : Nat
  deriving DecidableEq

namespace Width

def capped (w : Width) : Width := ⟨Nat.min w.min widthLimit, Nat.min w.max widthLimit⟩

def add (a b : Width) : Width := ⟨a.min + b.min, a.max + b.max⟩

def join (a b : Width) : Width := ⟨Nat.min a.min b.min, Nat.max a.max b.max⟩

/-- Width of `min` to `max` repetitions. -/
def times (w : Width) (min : Nat) (max : Option Nat) : Width :=
  match max with
  | none => ⟨w.min * min, if w.max = 0 then 0 else widthLimit⟩
  | some n => ⟨w.min * min, w.max * n⟩

end Width

mutual

/-- Width of a node, where `captures` holds the widths of the groups closed before it. -/
def Node.width (captures : List (Option Width)) : Node → Width
  | .literal _ | .notLiteral _ | .any | .set _ _ => ⟨1, 1⟩
  | .anchor _ | .look _ _ _ => ⟨0, 0⟩
  | .group _ _ _ body | .atomic body => sequenceWidth captures body
  | .repeated _ min max body => (sequenceWidth captures body).times min max
  | .capture number => ((captures[number]?).bind id).getD ⟨0, 0⟩
  | .conditional _ yes no => (sequenceWidth captures yes).join (sequenceWidth captures no)
  | .branch [] => ⟨0, 0⟩
  | .branch (alternative :: others) =>
    branchWidth captures (sequenceWidth captures alternative) others

/-- Width of a sequence. -/
def sequenceWidth (captures : List (Option Width)) : List Node → Width
  | [] => ⟨0, 0⟩
  | node :: rest => ((node.width captures).add (sequenceWidth captures rest)).capped

/-- Width of a choice between what has width `w` and the alternatives. -/
def branchWidth (captures : List (Option Width)) (w : Width) : List (List Node) → Width
  | [] => w
  | alternative :: others =>
    branchWidth captures (w.join (sequenceWidth captures alternative)) others

end

end Pattern
end CallPolicy

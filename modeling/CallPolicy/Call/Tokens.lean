import CallPolicy.Text.CharClass

/-!
# CallPolicy.Call.Tokens

Reading lists of C++ tokens: bracket groups, items between commas, and what stands outside template
arguments.
-/

namespace CallPolicy
namespace Call

/-- The bracket that closes an opening one. -/
def closerOf : String → Option String
  | "(" => some ")"
  | "[" => some "]"
  | "\x7b" => some "\x7d"
  | _ => none

def isOpener (t : String) : Bool := (closerOf t).isSome

def isCloser (t : String) : Bool := t == ")" || t == "]" || t == "\x7d"

/-- Splits tokens after the bracket that closes the first one, given the closers still awaited,
innermost first. A closer other than the innermost is passed over. -/
def takeGroup : List String → List String → Option (List String × List String)
  | _, [] => none
  | awaited, t :: rest =>
    match closerOf t with
    | some closer => (takeGroup (closer :: awaited) rest).map fun (a, b) => (t :: a, b)
    | none =>
      match awaited with
      | [] => (takeGroup [] rest).map fun (a, b) => (t :: a, b)
      | closer :: outer =>
        if t = closer then
          match outer with
          | [] => some ([t], rest)
          | _ => (takeGroup outer rest).map fun (a, b) => (t :: a, b)
        else (takeGroup awaited rest).map fun (a, b) => (t :: a, b)

/-- The bracket group that tokens start with, or all of them when it is not closed. -/
def leadingGroup (tokens : List String) : List String :=
  match takeGroup [] tokens with
  | some (group, _) => group
  | none => tokens

/-- The tokens between the first and the last. -/
def inside (group : List String) : List String := group.tail.dropLast

/-- How a token changes the depth of template arguments. -/
def angleStep : String → Int
  | "<" => 1
  | ">" => -1
  | ">>" => -2
  | _ => 0

def isAngle (t : String) : Bool := angleStep t != 0

/-- A token that starts like an identifier. -/
def isWordLike (t : String) : Bool :=
  match t.toList with
  | [] => false
  | c :: _ => Text.isLetter c || c == '_'

/-- Commas outside brackets. -/
def topCommas : Int → List String → Nat
  | _, [] => 0
  | depth, t :: rest =>
    if isOpener t then topCommas (depth + 1) rest
    else if isCloser t then topCommas (depth - 1) rest
    else if t = "," ∧ depth = 0 then topCommas depth rest + 1
    else topCommas depth rest

/-- The number of items in a bracket group: none, or one more than its commas. -/
def countItems (group : List String) : Nat :=
  match inside group with
  | [] => 0
  | inner => topCommas 0 inner + 1

/-- The tokens at which no template argument list is open, angle brackets left out. -/
def outsideAngles : Int → List String → List String
  | _, [] => []
  | depth, t :: rest =>
    if isAngle t then outsideAngles (depth + angleStep t) rest
    else if depth ≤ 0 then t :: outsideAngles depth rest
    else outsideAngles depth rest

end Call
end CallPolicy

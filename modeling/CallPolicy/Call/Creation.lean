import CallPolicy.Call.Tokens

/-!
# CallPolicy.Call.Creation

New-expressions by their tokens: the written type, the token that follows it and the initializer.
-/

namespace CallPolicy
namespace Call

structure Creation where
  typeTokens : List String
  initializer : List String
  /-- The token after the type. -/
  opener : Option String

namespace Creation

/-- What cannot be told apart. -/
def unknown : Creation := ⟨[], [], none⟩

/-- The tokens of a type that is not in parentheses, and those after it: the type ends at the first
bracket outside template arguments. -/
def splitType : Int → List String → List String × List String
  | _, [] => ([], [])
  | depth, t :: rest =>
    if depth = 0 ∧ isOpener t then ([], t :: rest)
    else
      let (typeTokens, after) := splitType (depth + angleStep t) rest
      (t :: typeTokens, after)

/-- A type and the tokens after it. -/
def ofParts (typeTokens after : List String) : Creation :=
  match after with
  | [] => ⟨typeTokens, [], none⟩
  | opener :: _ => ⟨typeTokens, leadingGroup after, some opener⟩

def ofPlain (tokens : List String) : Creation :=
  let (typeTokens, after) := splitType 0 tokens
  ofParts typeTokens after

/-- A type in parentheses, which may be an array. -/
def ofParenthesized (typeTokens after : List String) : Creation :=
  if typeTokens.contains "[" then ⟨typeTokens.takeWhile (· != "["), [], some "["⟩
  else ofParts typeTokens after

/-- Whether the parentheses before these tokens held the type, not placement arguments. -/
def endsType (after : List String) : Bool :=
  match after with
  | [] => true
  | t :: _ => t == "(" || t == "\x7b"

/-- What follows the word `new`. -/
def afterNew (tokens : List String) : Creation :=
  match tokens with
  | "(" :: _ =>
    match takeGroup [] tokens with
    | none => unknown
    | some (group, after) =>
      if endsType after then ofParenthesized (inside group) after else ofPlain after
  | _ => ofPlain tokens

def ofTokens (tokens : List String) : Creation :=
  match tokens.dropWhile (· != "new") with
  | [] => unknown
  | _ :: rest => afterNew rest

/-- The last word outside template arguments, after an earlier one: the simple name of a type. -/
def lastWord : Int → Option String → List String → Option String
  | _, name, [] => name
  | depth, name, t :: rest =>
    if isAngle t then lastWord (depth + angleStep t) name rest
    else if depth = 0 ∧ isWordLike t then lastWord depth (some t) rest
    else lastWord depth name rest

/-- The simple name of the written type. -/
def typeName (c : Creation) : Option String := lastWord 0 none c.typeTokens

end Creation
end Call
end CallPolicy

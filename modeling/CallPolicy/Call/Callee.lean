import CallPolicy.Call.Tokens

/-!
# CallPolicy.Call.Callee

What is called, by its written tokens: whether it is qualified, whether it is a name at all, and
which.
-/

namespace CallPolicy
namespace Call

def isQualifier (t : String) : Bool := t == "." || t == "->" || t == "::"

/-- Words that may stand in a callee and are no names. -/
def isCalleeKeyword (t : String) : Bool := t == "template" || t == "this"

def isIdentifier (t : String) : Bool := isWordLike t && !isCalleeKeyword t

def isQualified (callee : List String) : Bool := (outsideAngles 0 callee).any isQualifier

/-- Template arguments are closed as often as they are opened. -/
def anglesBalance (callee : List String) : Bool :=
  callee.count "<" == callee.count ">" + 2 * callee.count ">>"

/-- Nothing but names, qualifiers and keywords stands outside template arguments. -/
def isNamed (callee : List String) : Bool :=
  (outsideAngles 0 callee).all fun t => isQualifier t || isCalleeKeyword t || isIdentifier t

/-- The tokens before the first parenthesis, when there is one and they are a name. -/
def writtenCallee (tokens : List String) : Option (List String) :=
  if tokens.contains "(" then
    let callee := tokens.takeWhile (· != "(")
    if callee.isEmpty || !anglesBalance callee || !isNamed callee then none else some callee
  else none

/-- The last name outside template arguments. -/
def lastName (callee : List String) : Option String :=
  ((outsideAngles 0 callee).filter isIdentifier).getLast?

end Call
end CallPolicy

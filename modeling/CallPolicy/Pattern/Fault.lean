import CallPolicy.Text.Quoted

/-!
# CallPolicy.Pattern.Fault

Why a pattern cannot be read. A fault has a cause and, where one exists, the position in the pattern
that it is reported at; its message adds line and column when the pattern has several lines.
-/

namespace CallPolicy
namespace Pattern

/-- What getting a name can be for, in the words of messages. -/
inductive NameUse where
  | character
  | group
  deriving DecidableEq

def NameUse.text : NameUse → String
  | .character => "character name"
  | .group => "group name"

inductive Cause where
  | danglingEscape
  | badEscape (escape : String)
  | incompleteEscape (escape : String)
  | octalTooLarge (escape : String)
  | missingBrace
  | missingName (use : NameUse)
  | unterminatedName (terminator : Char)
  | undefinedCharacter (name : String)
  | openGroup
  | sameLookbehind
  | invalidGroup (number : Nat)
  | unterminatedSet
  | badRange (low high : String)
  | repeatOrder
  | nothingToRepeat
  | repeatOfRepeat
  | unexpectedEnd
  | badGroupName (name : String)
  | unknownGroupName (name : String)
  | redefinedGroup (name : String) (number earlier : Nat)
  | badGroupNumber
  | unknownExtension (text : String)
  | unterminatedComment
  | unterminatedGroup
  | tooManyBranches
  | flagsNotAtStart
  | localeFlag
  | incompatibleFlags
  | unknownFlag
  | missingFlag
  | missingFlagEnd
  | missingColon
  | globalFlagOn
  | globalFlagOff
  | alphabetFlagOff
  | flagOnAndOff
  | unbalanced
  | variableLookbehind
  | wideLookbehind
  | templateRepeat (kind : String)

namespace Cause

def text : Cause → String
  | danglingEscape => "bad escape (end of pattern)"
  | badEscape e => "bad escape " ++ e
  | incompleteEscape e => "incomplete escape " ++ e
  | octalTooLarge e => "octal escape value " ++ e ++ " outside of range 0-0o377"
  | missingBrace => "missing \x7b"
  | missingName use => "missing " ++ use.text
  | unterminatedName c => "missing " ++ c.toString ++ ", unterminated name"
  | undefinedCharacter name => "undefined character name " ++ Text.quoted name
  | openGroup => "cannot refer to an open group"
  | sameLookbehind => "cannot refer to group defined in the same lookbehind subpattern"
  | invalidGroup n => "invalid group reference " ++ toString n
  | unterminatedSet => "unterminated character set"
  | badRange low high => "bad character range " ++ low ++ "-" ++ high
  | repeatOrder => "min repeat greater than max repeat"
  | nothingToRepeat => "nothing to repeat"
  | repeatOfRepeat => "multiple repeat"
  | unexpectedEnd => "unexpected end of pattern"
  | badGroupName name => "bad character in group name " ++ Text.quoted name
  | unknownGroupName name => "unknown group name " ++ Text.quoted name
  | redefinedGroup name number earlier =>
    "redefinition of group name " ++ Text.quoted name ++ " as group " ++ toString number ++
      "; was group " ++ toString earlier
  | badGroupNumber => "bad group number"
  | unknownExtension e => "unknown extension ?" ++ e
  | unterminatedComment => "missing ), unterminated comment"
  | unterminatedGroup => "missing ), unterminated subpattern"
  | tooManyBranches => "conditional backref with more than two branches"
  | flagsNotAtStart => "global flags not at the start of the expression"
  | localeFlag => "bad inline flags: cannot use 'L' flag with a str pattern"
  | incompatibleFlags => "bad inline flags: flags 'a', 'u' and 'L' are incompatible"
  | unknownFlag => "unknown flag"
  | missingFlag => "missing flag"
  | missingFlagEnd => "missing -, : or )"
  | missingColon => "missing :"
  | globalFlagOn => "bad inline flags: cannot turn on global flag"
  | globalFlagOff => "bad inline flags: cannot turn off global flag"
  | alphabetFlagOff => "bad inline flags: cannot turn off flags 'a', 'u' and 'L'"
  | flagOnAndOff => "bad inline flags: flag turned on and off"
  | unbalanced => "unbalanced parenthesis"
  | variableLookbehind => "look-behind requires fixed-width pattern"
  | wideLookbehind => "looks too much behind"
  | templateRepeat kind => "internal: unsupported template operator " ++ kind

end Cause

structure Fault where
  cause : Cause
  position : Option Nat

namespace Fault

/-- Line from one and column from one of a position. -/
def lineColumn (pattern : List Char) (position : Nat) : Nat × Nat :=
  let before := pattern.take position
  (before.count '\n' + 1, (before.reverse.takeWhile (· != '\n')).length + 1)

def message (pattern : List Char) (f : Fault) : String :=
  match f.position with
  | none => f.cause.text
  | some p =>
    let place := f.cause.text ++ " at position " ++ toString p
    if pattern.contains '\n' then
      let (line, column) := lineColumn pattern p
      place ++ " (line " ++ toString line ++ ", column " ++ toString column ++ ")"
    else place

end Fault

/-- Why reading stops: a fault in the pattern, a repetition count past the limit, a number with more
digits than are read, or the two alphabets asked for at once. -/
inductive ReadError where
  | invalid (fault : Fault)
  | repeatTooLarge
  | numberTooLong
  | alphabetConflict

end Pattern
end CallPolicy

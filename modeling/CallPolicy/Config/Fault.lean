import CallPolicy.Pattern
import CallPolicy.Yaml.Failure

/-!
# CallPolicy.Config.Fault

What can be wrong with a configuration. A `Fault` is a mistake that the user is told about, with its
wording in `Fault.message`. A `Failure` is a fault or a `Defect`: an input that validation does not
foresee.
-/

namespace CallPolicy
namespace Config

/-- The two patterns of a rule. -/
inductive PatternRole where
  | methodName
  | argumentCount
  deriving DecidableEq

def PatternRole.text : PatternRole → String
  | .methodName => "method name"
  | .argumentCount => "argument count"

/-- Names of rules stand in faults as they are displayed. -/
inductive Fault where
  | missingName (rule : String)
  | missingMethodName (rule : String)
  | missingReason (rule : String)
  | badPattern (rule : String) (role : PatternRole) (pattern : String) (why : Pattern.Fault)
  | notCompiled (rule : String) (role : PatternRole)
  | reasonNotText (rule : String)
  | ruleNotMapping (rule : String)
  | unknownAttributes (rule : String) (names : List String)
  | attributeNotText (rule key kind : String)
  | noMethodAttribute
  | rulesNotList (source : String)
  | entryNotMapping (source : String) (index : Nat)
  | entryNameNotText (source : String) (index : Nat)
  | entryNameMissing (source : String) (index : Nat)
  | notMapping (source : String)
  | unknownKeys (source : String) (keys : List String)
  | switchNotBool (source key got : String)
  | fileNotText (source : String)
  | notFound (reference : String)
  | unreadable (path : String)
  | notYaml (path : String)
  | notXml (source why : String)
  | wrongRoot (source got : String)
  | unexpectedElement (source got : String)
  | inRulesFile (source : String) (fault : Fault)

/-- The attributes of a rule in a configuration, in the order of messages. -/
def ruleAttributes : List String := ["methodName", "argumentCount", "reason"]

/-- The keys of a configuration, in the order of messages. -/
def configKeys : List String := ["checkConstructors", "file", "optional", "rules"]

/-- The root element of a rules file. -/
def rootElement : String := "ForbiddenMethods"

/-- The element of a rule in a rules file. -/
def ruleElement : String := "ForbiddenMethod"

namespace Fault

def ofRule (rule : String) (what : String) : String := "Rule '" ++ rule ++ "': " ++ what

def inParse (source : String) (what : String) : String :=
  "Unable to parse " ++ source ++ " - " ++ what

def message : Fault → String
  | missingName rule => ofRule rule "missing required 'name'"
  | missingMethodName rule => ofRule rule "missing required 'methodName'"
  | missingReason rule => ofRule rule "missing required 'reason'"
  | badPattern rule role pattern why =>
    ofRule rule ("invalid regex for " ++ role.text ++ " '" ++ pattern ++ "' - " ++
      why.message pattern.toList)
  | notCompiled rule role => ofRule rule (role.text ++ " must be a compiled pattern")
  | reasonNotText rule => ofRule rule "reason must be a string"
  | ruleNotMapping rule => ofRule rule "rule block must be a mapping"
  | unknownAttributes rule names =>
    ofRule rule ("unknown attribute(s) " ++ String.intercalate ", " names ++
      ". Valid attributes: " ++ String.intercalate ", " ruleAttributes ++ ".")
  | attributeNotText rule key kind =>
    ofRule rule ("'" ++ key ++ "' must be a string, got " ++ kind)
  | noMethodAttribute => "missing methodName attribute"
  | rulesNotList source => source ++ ": 'rules' must be a list"
  | entryNotMapping source index =>
    source ++ ": rule at index " ++ toString index ++ " must be a mapping"
  | entryNameNotText source index =>
    source ++ ": rule at index " ++ toString index ++ " has a non-string 'name'"
  | entryNameMissing source index =>
    source ++ ": rule at index " ++ toString index ++ " missing required 'name' field"
  | notMapping source => source ++ " must be a YAML mapping"
  | unknownKeys source keys =>
    source ++ ": unknown key(s) " ++ String.intercalate ", " keys ++ ". Valid keys: " ++
      String.intercalate ", " configKeys ++ "."
  | switchNotBool source key got =>
    source ++ ": '" ++ key ++ "' must be true or false, got " ++ got
  | fileNotText source => source ++ ": 'file' must be a non-empty string"
  | notFound reference => "Unable to find: " ++ reference
  | unreadable path => "Unable to read " ++ path
  | notYaml path => inParse path "<yaml error>"
  | notXml source why => inParse source why
  | wrongRoot source got =>
    inParse source ("root element must be <" ++ rootElement ++ ">, got <" ++ got ++ ">")
  | unexpectedElement source got => inParse source ("unexpected element <" ++ got ++ ">")
  | inRulesFile source fault => inParse source fault.message

end Fault

/-- Inputs that validation does not foresee. Nesting is not among them: how deep patterns and
documents may go before they cannot be read depends on the machine, and has no limit here. -/
inductive Defect where
  /-- A pattern that is no text. -/
  | patternNotText
  /-- A repetition count past the limit. -/
  | repeatTooLarge
  /-- A number with more digits than are read or written out. -/
  | numberTooLong
  /-- A pattern that asks for two alphabets. -/
  | alphabetConflict
  /-- Attribute names that have no order among themselves. -/
  | unorderedNames
  /-- A file URI whose authority is not well formed. -/
  | badAuthority
  /-- A file that is to be read under a name that is no path. -/
  | notPath
  /-- A value in a configuration file that does not exist. -/
  | badValue (v : Yaml.BadValue)
  /-- A configuration file that is not UTF-8. -/
  | notUtf8
  /-- A rules file that names an encoding that is not known. -/
  | unknownEncoding
  /-- A rules file that names an encoding whose characters differ in length. -/
  | multibyteEncoding
  deriving DecidableEq

inductive Failure where
  | fault (f : Fault)
  | defect (d : Defect)

end Config
end CallPolicy

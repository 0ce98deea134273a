import CallPolicy.Config.Loading
import CallPolicy.Files
import CallPolicy.Reference
import CallPolicy.Rule.Forms
import CallPolicy.Xml.Document

/-!
# CallPolicy.Config.RulesFile

Rules files: a root element with one element for each rule, in the order in which they apply. A file
gives all of its rules, or fails at the first element that is none.
-/

namespace CallPolicy
namespace Config
namespace RulesFile

/-- The failure of a document that cannot be read. -/
def unread (source : String) : Xml.Failure → Failure
  | .fault f => .fault (.notXml source f.message)
  | .noSuchEncoding => .defect .unknownEncoding
  | .multibyteEncoding => .defect .multibyteEncoding

/-- A fault in one rule is a fault in its file. -/
def within (source : String) : Failure → Failure
  | .fault f => .fault (.inRulesFile source f)
  | .defect d => .defect d

/-- The rule of an element with its place among the others, counted from one. -/
def ruleOf (source : String) (index : Nat) (e : Xml.Element) : Except Failure Rule :=
  if e.name ≠ ruleElement then .error (.fault (.unexpectedElement source e.name))
  else
    (Rule.filed source index (e.attributes.map fun (k, v) => (.text k, .text v))).mapError
      (within source)

/-- The rules of elements from a place on. -/
def rulesFrom (source : String) (index : Nat) : List Xml.Element → Except Failure (List Rule)
  | [] => .ok []
  | e :: rest => do
    let rule ← ruleOf source index e
    return rule :: (← rulesFrom source (index + 1) rest)

def rulesOf (source : String) (root : Xml.Element) : Except Failure (List Rule) :=
  if root.name ≠ rootElement then .error (.fault (.wrongRoot source root.name))
  else rulesFrom source 1 root.children

def note (source : String) (count : Nat) : Log.Entry :=
  ⟨.debug, .rulesFile,
    "Loaded " ++ toString count ++ " forbidden method rule(s) from " ++ source⟩

/-- The rules of a document. -/
def parse (source : String) (document : Except Xml.Failure Xml.Element) : Loading (List Rule) := do
  let root ← Loading.ofExcept (document.mapError (unread source))
  let rules ← Loading.ofExcept (rulesOf source root)
  Loading.tell (note source rules.length)
  return rules

def parseText (source text : String) : Loading (List Rule) :=
  parse source (Xml.Document.ofText text)

def parseOctets (source : String) (octets : List UInt8) : Loading (List Rule) :=
  parse source (Xml.Document.ofOctets octets)

def missingNote (reference : String) (why : String) : Log.Entry :=
  ⟨.warning, .rulesFile, "Optional rules file " ++ reference ++ " cannot be opened (" ++ why ++
    "); no rules loaded from it."⟩

/-- The rules of the file that a reference leads to, seen from `base`. An optional file that cannot
be opened has none; what is no path is not taken for a missing file. -/
def load (fs : Files) (reference : String) (isOptional : Bool) (base : Option String) :
    Loading (List Rule) := do
  let path ← Loading.ofExcept ((Reference.path reference base).mapError Failure.defect)
  match fs.read path with
  | .ok octets => parseOctets reference octets
  | .error .notPath => throw (.defect .notPath)
  | .error (.unopenable why) =>
    if isOptional then
      Loading.tell (missingNote reference (why.message path))
      return []
    else Loading.fail (.notFound reference)

end RulesFile
end Config
end CallPolicy

import CallPolicy.Call
import CallPolicy.Message
import CallPolicy.Rule

/-!
# CallPolicy.Finding

A forbidden call as it is reported: where it stands, and the message's form and arguments.
-/

namespace CallPolicy

structure Finding where
  line : Coordinate
  column : Coordinate
  form : Message.Form
  args : List Datum
  /-- The name of the rule. -/
  rule : String

namespace Finding

def key (f : Finding) : String := f.form.key

def message (f : Finding) : Except Message.Fault String := Message.render f.form f.args

def rank (f : Finding) : Rank := .ofPosition f.line f.column

/-- A call of a name with a number of arguments that breaks a rule. The message states the number
and its pattern where the rule has one, and then the reason where there is one. -/
def ofCall (name : String) (count : Int) (line column : Coordinate) (rule : Rule) : Finding :=
  let reason := rule.reason.toList.map Datum.text
  match rule.countPattern with
  | some p =>
    ⟨line, column, .counted,
      [.text name, .text rule.namePattern.text, .int count, .text p.text] ++ reason, rule.name⟩
  | none =>
    ⟨line, column, .uncounted, [.text name, .text rule.namePattern.text] ++ reason, rule.name⟩

/-- The finding for a call site. -/
def ofSite (site : Call.Site) (rule : Rule) : Finding :=
  ofCall site.name site.argumentCount site.line site.column rule

end Finding
end CallPolicy

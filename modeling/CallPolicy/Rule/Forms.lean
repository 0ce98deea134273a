import CallPolicy.Rule

/-!
# CallPolicy.Rule.Forms

The two written forms of a rule: a named block of a configuration, which has to give a reason, and
an entry of a rules file, which is named after its file and place and has none.
-/

namespace CallPolicy

open Config

namespace Rule

/-- The text of an attribute, if it has one. A count of arguments may be written as a number. -/
def attributeText (rule key : String) (value : Datum) : Except Failure Datum :=
  match value with
  | .null => .ok .null
  | .text s => .ok (.text s)
  | .int n =>
    if key = "argumentCount" then
      if value.isWritable then .ok (.text (toString n)) else .error (.defect .numberTooLong)
    else .error (.fault (.attributeNotText rule key value.kindName))
  | _ => .error (.fault (.attributeNotText rule key value.kindName))

def isKnownAttribute (key : Datum) : Bool :=
  match key with
  | .text s => ruleAttributes.contains s
  | _ => false

/-- Fails when a block has attributes that it may not have. They are told in order, as far as they
have one. -/
def checkAttributes (rule : String) (entries : List (Datum × Datum)) : Except Failure Unit :=
  match Datum.sorted? ((entries.map (·.1)).filter fun key => !isKnownAttribute key) with
  | none => .error (.defect .unorderedNames)
  | some [] => .ok ()
  | some names =>
    if Datum.areWritable names then
      .error (.fault (.unknownAttributes rule (names.map Datum.shown)))
    else .error (.defect .numberTooLong)

/-- A rule from a named block. -/
def declared (name attributes : Datum) : Except Failure Rule :=
  let rule := name.displayed
  match attributes with
  | .mapping entries => do
    checkAttributes rule entries
    let methodName ← attributeText rule "methodName" (Datum.field "methodName" entries)
    let argumentCount ← attributeText rule "argumentCount" (Datum.field "argumentCount" entries)
    let reason ← attributeText rule "reason" (Datum.field "reason" entries)
    compile ⟨name, methodName, argumentCount, reason, true, true⟩
  | _ => .error (.fault (.ruleNotMapping rule))

/-- The name of an entry of a rules file. -/
def filedName (source : String) (index : Int) : String := source ++ ":" ++ toString index

/-- A rule from an entry of a rules file. -/
def filed (source : String) (index : Int) (attributes : List (Datum × Datum)) :
    Except Failure Rule :=
  match Datum.field "methodName" attributes with
  | .null => .error (.fault .noMethodAttribute)
  | methodName =>
    compile ⟨.text (filedName source index), methodName, Datum.field "argCount" attributes, .null,
      false, false⟩

end Rule
end CallPolicy

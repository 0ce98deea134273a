import CallPolicy.Datum

/-!
# CallPolicy.Message

The wording of findings. A message has one of two forms, told by its key, and takes its arguments in
order; one argument more than the form takes is a reason.
-/

namespace CallPolicy
namespace Message

inductive Form where
  /-- The number of arguments is part of why the call is forbidden. -/
  | counted
  | uncounted
  deriving DecidableEq

/-- A part of a form's wording. -/
inductive Piece where
  | words (s : String)
  | argument (index : Nat)

/-- What keeps a message from being worded. -/
inductive Fault where
  | unknownKey
  | missingArgument
  deriving DecidableEq

namespace Form

def key : Form → String
  | counted => "forbid.certain.methods"
  | uncounted => "forbid.certain.methods.noarg"

def ofKey? (s : String) : Option Form :=
  if s = counted.key then some counted else if s = uncounted.key then some uncounted else none

/-- The number of arguments a form takes. -/
def arity : Form → Nat
  | counted => 4
  | uncounted => 2

def pieces : Form → List Piece
  | counted =>
    [.words "Call to '", .argument 0, .words "' with ", .argument 2,
      .words " argument(s) is forbidden: name matches '", .argument 1,
      .words "' and argument count matches '", .argument 3, .words "'."]
  | uncounted =>
    [.words "Call to '", .argument 0, .words "' is forbidden: name matches '", .argument 1,
      .words "'."]

end Form

def Piece.fill (args : List Datum) : Piece → Except Fault String
  | words s => .ok s
  | argument i =>
    match args[i]? with
    | some d => .ok d.displayed
    | none => .error .missingArgument

/-- The reason as it follows the wording: nothing for one that counts as false. -/
def reasonText : Option Datum → String
  | some d => if d.truthy then " Reason: " ++ d.displayed else ""
  | none => ""

/-- The message of a form with its arguments. -/
def render (form : Form) (args : List Datum) : Except Fault String :=
  match form.pieces.mapM (Piece.fill (args.take form.arity)) with
  | .ok parts => .ok (String.join parts ++ reasonText args[form.arity]?)
  | .error e => .error e

def renderKey (key : Datum) (args : List Datum) : Except Fault String :=
  match key with
  | .text s =>
    match Form.ofKey? s with
    | some form => render form args
    | none => .error .unknownKey
  | _ => .error .unknownKey

end Message
end CallPolicy

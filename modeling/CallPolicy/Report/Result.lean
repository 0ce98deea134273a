import CallPolicy.Report.Item
import CallPolicy.Report.Timing
import CallPolicy.Text.CharClass

/-!
# CallPolicy.Report.Result

The report on one file, as data and as lines of text. The text shows errors and warnings; a file
that could not be parsed shows only why.
-/

namespace CallPolicy
namespace Report

structure Result where
  file : String
  path : String
  /-- Why the file could not be parsed. -/
  error : Option String
  items : List Item
  summary : Summary
  timing : Timing

namespace Result

def isOk (r : Result) : Bool := r.error.isNone

def datum (r : Result) : Datum :=
  .record [("file", .text r.file), ("path", .text r.path), ("ok", .bool r.isOk),
    ("error", .ofText? r.error), ("items", .list (r.items.map Item.datum)),
    ("summary", r.summary.datum), ("timing_ms", r.timing.datum)]

/-- What a message of an item shown in text has to be. -/
inductive TextFault where
  | messageNotText
  deriving DecidableEq

def location (i : Item) : String :=
  let part := fun (name : String) (c : Coordinate) =>
    match c with
    | .absent => []
    | c => [name ++ " " ++ c.text]
  match part "line" i.line ++ part "column" i.column with
  | [] => ""
  | parts => " (" ++ String.intercalate ", " parts ++ ")"

/-- The mark of a severity that is shown. -/
def mark? : Severity → Option String
  | .error => some "[ERROR]"
  | .warning => some "[WARN]"
  | _ => none

/-- The line of an item, none for one that is not shown. -/
def itemLine? (i : Item) : Except TextFault (Option String) :=
  match mark? i.severity with
  | none => .ok none
  | some mark =>
    match i.message with
    | some m =>
      .ok (some (mark ++ " " ++ String.ofList (Text.trimBlank m.toList) ++ location i))
    | none => .error .messageNotText

def itemLines : List Item → Except TextFault (List String)
  | [] => .ok []
  | i :: rest => do
    let line ← itemLine? i
    return line.toList ++ (← itemLines rest)

/-- The lines of a report. -/
def lines (r : Result) (showsHeader : Bool) : Except TextFault (List String) := do
  let header := if showsHeader then ["=== " ++ r.file ++ " ==="] else []
  match r.error with
  | some e => return header ++ [e]
  | none => return header ++ (← itemLines r.items) ++ [r.timing.text]

end Result

/-- Lines as they are printed. -/
def printed (lines : List String) : String := String.join (lines.map (· ++ "\n"))

end Report
end CallPolicy

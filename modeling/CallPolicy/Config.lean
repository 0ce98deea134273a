import CallPolicy.Config.RulesFile
import CallPolicy.Policy
import CallPolicy.Yaml

/-!
# CallPolicy.Config

Configurations: a mapping with named rule blocks and a reference to a rules file, from which a
policy is made. The blocks come first, then the rules of the file.
-/

namespace CallPolicy
namespace Config

def isKnownKey (key : Datum) : Bool :=
  match key with
  | .text s => configKeys.contains s
  | _ => false

/-- The value of a switch, off where it is not set. -/
def switch (source key : String) (entries : List (Datum × Datum)) : Except Failure Bool :=
  match Datum.field? key entries with
  | none => .ok false
  | some (.bool b) => .ok b
  | some d =>
    if d.isWritable then .error (.fault (.switchNotBool source key d.shown))
    else .error (.defect .numberTooLong)

/-- The rule of one block. -/
def blockRule (source : String) (index : Nat) (block : Datum) : Except Failure Rule :=
  match block with
  | .mapping entries =>
    match Datum.field "name" entries with
    | .text "" | .null => .error (.fault (.entryNameMissing source index))
    | .text name =>
      let attributes := entries.filter fun (k, _) => !Datum.sameKey k (.text "name")
      Rule.declared (.text name) (.mapping attributes)
    | _ => .error (.fault (.entryNameNotText source index))
  | _ => .error (.fault (.entryNotMapping source index))

/-- The rules of blocks from a place on. -/
def blockRules (source : String) (index : Nat) : List Datum → Except Failure (List Rule)
  | [] => .ok []
  | block :: rest => do
    let rule ← blockRule source index block
    return rule :: (← blockRules source (index + 1) rest)

/-- The rules that a configuration holds itself. -/
def declaredRules (source : String) (blocks : Datum) : Except Failure (List Rule) :=
  match blocks with
  | .null => .ok []
  | .list blocks => blockRules source 0 blocks
  | _ => .error (.fault (.rulesNotList source))

/-- The reference to a rules file, if there is one. -/
def fileReference (source : String) (value : Datum) : Except Failure (Option String) :=
  match value with
  | .null => .ok none
  | .text "" => .error (.fault (.fileNotText source))
  | .text reference => .ok (some reference)
  | _ => .error (.fault (.fileNotText source))

def note (source : String) (p : Policy) : Log.Entry :=
  ⟨.debug, .config,
    source ++ ": " ++ toString p.rules.length ++ " rule(s), constructor checking " ++
      (if p.checkConstructors then "on" else "off")⟩

/-- Fails when a configuration has keys that it may not have. They are told as they are displayed,
in order. -/
def checkKeys (source : String) (entries : List (Datum × Datum)) : Except Failure Unit :=
  match (entries.map (·.1)).filter (!isKnownKey ·) with
  | [] => .ok ()
  | unknown =>
    if Datum.areWritable unknown then
      let keys := (unknown.map Datum.displayed).mergeSort fun a b => decide (a ≤ b)
      .error (.fault (.unknownKeys source keys))
    else .error (.defect .numberTooLong)

/-- The policy of a configuration's entries. -/
def ofEntries (fs : Files) (source : String) (base : Option String)
    (entries : List (Datum × Datum)) : Loading Policy := do
  Loading.ofExcept (checkKeys source entries)
  let checkConstructors ← Loading.ofExcept (switch source "checkConstructors" entries)
  let isOptional ← Loading.ofExcept (switch source "optional" entries)
  let declared ← Loading.ofExcept (declaredRules source (Datum.field "rules" entries))
  let filed ←
    match ← Loading.ofExcept (fileReference source (Datum.field "file" entries)) with
    | some reference => RulesFile.load fs reference isOptional base
    | none => pure []
  let policy : Policy := ⟨declared ++ filed, checkConstructors⟩
  Loading.tell (note source policy)
  return policy

/-- The policy of a configuration. -/
def build (fs : Files) (data : Datum) (source : String) (base : Option String) : Loading Policy :=
  match data with
  | .null => ofEntries fs source base []
  | .mapping entries => ofEntries fs source base entries
  | _ => Loading.fail (.notMapping source)

/-- The failure of a text that cannot be read as YAML. -/
def unread (path : String) : Yaml.Failure → Failure
  | .malformed => .fault (.notYaml path)
  | .value v => .defect (.badValue v)

/-- The data of a configuration file. -/
def readFile (fs : Files) (path : String) : Except Failure Datum :=
  match fs.read path with
  | .error .notPath => .error (.defect .notPath)
  | .error (.unopenable .missing) => .error (.fault (.notFound path))
  | .error (.unopenable _) => .error (.fault (.unreadable path))
  | .ok octets =>
    match Text.Utf8.decode? octets with
    | none => .error (.defect .notUtf8)
    | some text => (Yaml.ofText text).mapError (unread path)

/-- The policy of a configuration file. Relative references in it are seen from its folder. -/
def load (fs : Files) (path : String) : Loading Policy := do
  let data ← Loading.ofExcept (readFile fs path)
  build fs data (Path.baseName path) (some (Path.directory (Path.absolute path)))

/-- What a command line asks for: a configuration file, a further rules file and whether it may be
missing, and constructor checking. Empty paths count as none. -/
structure Request where
  configPath : Option String := none
  rulesFile : Option String := none
  isOptional : Datum := .bool false
  checkConstructors : Bool := false

def given? (path : Option String) : Option String := path.filter (· != "")

/-- The policy of a command line. The rules of the further file come last, and constructor checking
is on when either side asks for it. -/
def resolve (fs : Files) (r : Request) : Loading Policy := do
  let configured : Policy ←
    match given? r.configPath with
    | some path => load fs path
    | none => pure {}
  let further : Policy ←
    match given? r.rulesFile with
    | some path =>
      ofEntries fs "command line" none
        [(.text "file", .text path), (.text "optional", r.isOptional)]
    | none => pure {}
  return ⟨configured.rules ++ further.rules, configured.checkConstructors || r.checkConstructors⟩

end Config
end CallPolicy

import CallPolicy.Config.Fault
import CallPolicy.Path
import CallPolicy.Reference.Host
import CallPolicy.Text.Quoted
import CallPolicy.Text.Utf8

/-!
# CallPolicy.Reference

References to files: a path, or a URI that starts with `file:`. `path` turns a reference into a
path; `ofPath` writes the URI of a path.
-/

namespace CallPolicy
namespace Reference

def hexValue? (c : Char) : Option Nat :=
  if '0' ≤ c && c ≤ '9' then some (c.toNat - '0'.toNat)
  else if 'a' ≤ c && c ≤ 'f' then some (c.toNat - 'a'.toNat + 10)
  else if 'A' ≤ c && c ≤ 'F' then some (c.toNat - 'A'.toNat + 10)
  else none

/-- The octet that two digits write. -/
def escaped? (a b : Char) : Option UInt8 :=
  match hexValue? a, hexValue? b with
  | some m, some n => some (UInt8.ofNat (16 * m + n))
  | _, _ => none

/-- The octets of a text, with every percent escape taken for the octet it writes. -/
def octets : List Char → List UInt8
  | '%' :: a :: b :: rest =>
    match escaped? a b with
    | some o => o :: octets rest
    | none => Text.Utf8.encodeChar '%' ++ octets (a :: b :: rest)
  | c :: rest => Text.Utf8.encodeChar c ++ octets rest
  | [] => []

def unescape (cs : List Char) : List Char := Text.Utf8.decodeLossy (octets cs)

/-- Octets that a URI shows as the characters they are. -/
def isPlain (o : UInt8) : Bool :=
  let n := o.toNat
  let c := Char.ofNat n
  n < 128 && (c.isAlphanum || c == '_' || c == '.' || c == '-' || c == '~' || c == '/')

def upperHex (n : Nat) : Char := (Nat.digitChar n).toUpper

def escapeOctet (o : UInt8) : List Char :=
  if isPlain o then [Char.ofNat o.toNat]
  else ['%', upperHex (o.toNat / 16), upperHex (o.toNat % 16)]

/-- A text with all octets escaped that are not plain. -/
def escape (cs : List Char) : List Char := (Text.Utf8.encode cs).flatMap escapeOctet

/-- The URI of a path from the root. -/
def ofPath (path : String) : String := "file://" ++ String.ofList (escape path.toList)

/-- Characters that are dropped from a URI wherever they stand. -/
def isDropped (c : Char) : Bool := c == '\t' || c == '\n' || c == '\r'

/-- Characters that end the authority. -/
def endsAuthority (c : Char) : Bool := c == '/' || c == '?' || c == '#'

/-- Characters outside ASCII that stand for a text with `/`, `?`, `#`, `@` or `:` in it. -/
def deceptive : List Char :=
  ['⁇', '⁈', '⁉', '℀', '℁', '℅', '℆', '⩴', '︓', '︖', '﹕', '﹖', '﹟', '﹫', '＃', '／', '：', '？',
    '＠']

/-- What stands between the first opening bracket and the next closing one. -/
def bracketed (authority : List Char) : List Char :=
  (authority.dropWhile (· != '[')).tail.takeWhile (· != ']')

/-- Brackets come in pairs and hold a host, and no character stands for a delimiter. -/
def isAuthority (authority : List Char) : Bool :=
  let opened := authority.contains '['
  let closed := authority.contains ']'
  opened == closed && (!opened || Host.isBracketed (bracketed authority)) &&
    !authority.any deceptive.contains

/-- The authority and the path of a URI, given what follows its scheme. -/
def split (rest : List Char) : List Char × List Char :=
  let beforeQuery := fun (cs : List Char) => cs.takeWhile fun c => c != '#' && c != '?'
  match rest with
  | '/' :: '/' :: more =>
    let authority := more.takeWhile (!endsAuthority ·)
    (authority, beforeQuery (more.drop authority.length))
  | _ => ([], beforeQuery rest)

/-- The path of a file URI, given what follows `file:`: its authority and path together. -/
def uriPath (rest : List Char) : Except Config.Defect (List Char) :=
  let (authority, path) := split (rest.filter (!isDropped ·))
  if isAuthority authority then .ok (unescape (authority ++ path)) else .error .badAuthority

def scheme : String := "file:"

/-- The path that a reference stands for, seen from the directory `base` where one is given. -/
def path (reference : String) (base : Option String) : Except Config.Defect String := do
  let plain ←
    if reference.startsWith scheme then
      String.ofList <$> uriPath (reference.toList.drop scheme.length)
    else pure reference
  match base with
  | some b => return if b = "" then plain else Path.join b plain
  | none => return plain

end Reference
end CallPolicy

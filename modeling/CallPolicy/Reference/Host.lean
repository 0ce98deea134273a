/-!
# CallPolicy.Reference.Host

Hosts written in brackets in the authority of a URI: version 6 addresses, with the last two groups
also as four decimal numbers and an optional zone, and addresses of later versions.
-/

namespace CallPolicy
namespace Reference
namespace Host

/-- The parts of a text between separators. -/
def splitAt (separator : Char) : List Char → List (List Char)
  | [] => [[]]
  | c :: rest =>
    if c = separator then [] :: splitAt separator rest
    else
      match splitAt separator rest with
      | [] => [[c]]
      | part :: parts => (c :: part) :: parts

def isDigit (c : Char) : Bool := '0' ≤ c && c ≤ '9'

def isHexDigit (c : Char) : Bool :=
  isDigit c || ('a' ≤ c && c ≤ 'f') || ('A' ≤ c && c ≤ 'F')

/-- One of the numbers of a version 4 address: up to 255, without zeros in front. -/
def isOctet (cs : List Char) : Bool :=
  let value := cs.foldl (fun n c => n * 10 + (c.toNat - '0'.toNat)) 0
  !cs.isEmpty && cs.all isDigit && cs.length ≤ 3 && (cs == ['0'] || cs.head? != some '0') &&
    value ≤ 255

def isVersion4 (cs : List Char) : Bool :=
  let parts := splitAt '.' cs
  parts.length == 4 && parts.all isOctet

/-- One group of a version 6 address. -/
def isGroup (cs : List Char) : Bool := !cs.isEmpty && cs.all isHexDigit && cs.length ≤ 4

/-- The groups of a version 6 address, a version 4 address at the end counted as two. -/
def groups? (cs : List Char) : Option (List (List Char)) :=
  let parts := splitAt ':' cs
  match parts.getLast? with
  | none => none
  | some last =>
    if parts.length < 3 then none
    else if last.contains '.' then
      if isVersion4 last then some (parts.dropLast ++ [['0'], ['0']]) else none
    else some parts

/-- Groups without a gap. -/
def areAllGroups (parts : List (List Char)) : Bool := parts.length == 8 && parts.all isGroup

/-- Groups on one side of a gap: none, written as one empty part at the end of the address, or
some. -/
def isSide (parts : List (List Char)) : Bool := parts == [[]] || parts.all isGroup

/-- How many groups a side has. -/
def sideLength (parts : List (List Char)) : Nat := if parts == [[]] then 0 else parts.length

/-- Groups with one gap, which stands for at least one group. -/
def areGroupsWithGap (before after : List (List Char)) : Bool :=
  isSide before && isSide after && sideLength before + sideLength after ≤ 7

/-- A version 6 address without its zone. -/
def isVersion6Address (cs : List Char) : Bool :=
  match groups? cs with
  | none => false
  | some parts =>
    if 9 < parts.length then false
    else
      let inner := parts.tail.dropLast
      match inner.findIdx? List.isEmpty with
      | none => areAllGroups parts
      | some i =>
        if (inner.drop (i + 1)).any List.isEmpty then false
        else areGroupsWithGap (parts.take (i + 1)) (parts.drop (i + 2))

def isVersion6 (cs : List Char) : Bool :=
  match splitAt '%' cs with
  | [address] => isVersion6Address address
  | [address, zone] => !zone.isEmpty && isVersion6Address address
  | _ => false

/-- An address of a later version: its number, a point and at least one character. -/
def isLater (cs : List Char) : Bool :=
  match cs with
  | 'v' :: rest =>
    let number := rest.takeWhile isHexDigit
    match rest.drop number.length with
    | '.' :: first :: more => !number.isEmpty && !(first :: more).contains '\n'
    | _ => false
  | _ => false

/-- What may stand in brackets. -/
def isBracketed (cs : List Char) : Bool :=
  if cs.head? == some 'v' then isLater cs else isVersion6 cs

end Host
end Reference
end CallPolicy

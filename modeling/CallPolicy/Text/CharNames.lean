import CallPolicy.Text.CharNames.Aliases
import CallPolicy.Text.CharNames.Alphabets
import CallPolicy.Text.CharNames.Brahmic
import CallPolicy.Text.CharNames.EastAsia
import CallPolicy.Text.CharNames.Historic
import CallPolicy.Text.CharNames.Notations
import CallPolicy.Text.CharNames.Pictographs
import CallPolicy.Text.CharNames.Row
import CallPolicy.Text.CharNames.Signs
import CallPolicy.Text.CharNames.Symbols

/-!
# CallPolicy.Text.CharNames

Characters by their Unicode 14 names and aliases. Case does not matter in a name, save in those of
Hangul syllables and unified ideographs, which are not listed but put together.
-/

namespace CallPolicy
namespace Text
namespace CharNames

/-- The tables of all names that are listed. -/
def tables : List String :=
  [alphabets, brahmic, symbols, eastAsia, historic, signs, notations, pictographs, aliases]

/-- Names that end in the character's own code: how they begin, and the ranges of codes. -/
def coded : List (String × List (Nat × Nat)) :=
  [("CJK COMPATIBILITY IDEOGRAPH-", [(0xF900, 0xFA6D), (0xFA70, 0xFAD9), (0x2F800, 0x2FA1D)]),
    ("NUSHU CHARACTER-", [(0x1B170, 0x1B2FB)]),
    ("KHITAN SMALL SCRIPT CHARACTER-", [(0x18B00, 0x18CD5)])]

/-- The ranges of unified ideographs. -/
def unified : List (Nat × Nat) :=
  [(0x3400, 0x4DBF), (0x4E00, 0x9FFF), (0x20000, 0x2A6DF), (0x2A700, 0x2B738), (0x2B740, 0x2B81D),
    (0x2B820, 0x2CEA1), (0x2CEB0, 0x2EBE0), (0x30000, 0x3134A)]

def lies (ranges : List (Nat × Nat)) (n : Nat) : Bool := ranges.any fun (a, b) => a ≤ n && n ≤ b

/-- What follows a beginning. -/
def rest? : List Char → List Char → Option (List Char)
  | [], name => some name
  | _ :: _, [] => none
  | a :: stem, b :: name => if a = b then rest? stem name else none

/-- A code of the given number of digits, within ranges. -/
def codeIn (sizes : List Nat) (ranges : List (Nat × Nat)) (digits : List Char) : Option Nat :=
  if sizes.contains digits.length then (hexNumber? digits).filter (lies ranges) else none

def findCoded (name : String) : Option Nat :=
  coded.findSome? fun (stem, ranges) =>
    match rest? stem.toList name.toList with
    | some ('0' :: _) => none
    | some digits => codeIn [4, 5] ranges digits
    | none => none

/-- The letters of Hangul syllables in order: initials, vowels and finals. -/
def initials : List String :=
  ["G", "GG", "N", "D", "DD", "R", "M", "B", "BB", "S", "SS", "", "J", "JJ", "C", "K", "T", "P", "H"]

def vowels : List String :=
  ["A", "AE", "YA", "YAE", "EO", "E", "YEO", "YE", "O", "WA", "WAE", "OE", "YO", "U", "WEO", "WE",
    "WI", "YU", "EU", "YI", "I"]

def finals : List String :=
  ["", "G", "GG", "GS", "N", "NJ", "NH", "D", "L", "LG", "LM", "LB", "LS", "LT", "LP", "LH", "M", "B",
    "BS", "S", "SS", "NG", "J", "C", "K", "T", "P", "H"]

/-- The longest of the letters that a name begins with: its index, and what follows. -/
def longest (letters : List String) (name : List Char) : Option (Nat × List Char) :=
  letters.zipIdx.foldl (fun best (letter, i) =>
    match rest? letter.toList name, best with
    | none, _ => best
    | some rest, none => some (i, rest)
    | some rest, some (_, known) => if rest.length < known.length then some (i, rest) else best) none

/-- A Hangul syllable by its letters. -/
def syllable (name : List Char) : Option Nat :=
  match longest initials name with
  | none => none
  | some (i, name) =>
    match longest vowels name with
    | none => none
    | some (v, name) =>
      match longest finals name with
      | some (f, []) => some (0xAC00 + (i * 21 + v) * 28 + f)
      | _ => none

end CharNames

open CharNames

/-- The code of the character with a name. -/
def charByName? (name : String) : Option Nat :=
  match rest? "HANGUL SYLLABLE ".toList name.toList with
  | some letters => syllable letters
  | none =>
    match rest? "CJK UNIFIED IDEOGRAPH-".toList name.toList with
    | some digits => codeIn [4, 5] unified digits
    | none =>
      let name := name.toUpper
      match findCoded name with
      | some n => some n
      | none => tables.findSome? (findIn name)

end Text
end CallPolicy

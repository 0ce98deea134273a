import CallPolicy.Text.CharClass

/-!
# CallPolicy.Text.Quoted

Text in quotes, as messages show a value: single quotes unless only double quotes spare an escape,
and a backslash escape for the quote, the backslash and every character that is not printable.
-/

namespace CallPolicy
namespace Text
namespace Quoted

/-- The lower-case digits of `n` in base sixteen, padded with zeros to `width`. -/
def hex (width n : Nat) : List Char :=
  let digits := Nat.toDigits 16 n
  List.replicate (width - digits.length) '0' ++ digits

/-- The quote to use: double when the text has a single quote and no double one. -/
def quoteFor (cs : List Char) : Char :=
  if cs.contains '\'' && !cs.contains '"' then '"' else '\''

/-- A code point that stands for itself in no form of quoted text, by its number. -/
def escapeCode (n : Nat) : List Char :=
  if n < 0x100 then '\\' :: 'x' :: hex 2 n
  else if n < 0x10000 then '\\' :: 'u' :: hex 4 n
  else '\\' :: 'U' :: hex 8 n

def escape (quote c : Char) : List Char :=
  if c = quote ∨ c = '\\' then ['\\', c]
  else if c = '\t' then ['\\', 't']
  else if c = '\n' then ['\\', 'n']
  else if c = '\r' then ['\\', 'r']
  else if isPrintable c then [c]
  else escapeCode c.toNat

def quoteChars (cs : List Char) : List Char :=
  let q := quoteFor cs
  q :: cs.flatMap (escape q) ++ [q]

end Quoted

/-- The text in quotes. -/
def quoted (s : String) : String := String.ofList (Quoted.quoteChars s.toList)

/-- Octets in quotes, marked by a leading `b`: only ASCII is shown as itself. -/
def quotedOctets (bs : List UInt8) : String :=
  let cs := bs.map fun b => Char.ofNat b.toNat
  let q := Quoted.quoteFor cs
  let body := cs.flatMap fun c =>
    if c.toNat < 128 then Quoted.escape q c else Quoted.escapeCode c.toNat
  String.ofList ('b' :: q :: body ++ [q])

end Text
end CallPolicy

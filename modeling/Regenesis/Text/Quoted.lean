import Regenesis.Octets
import Regenesis.Text.Printable

/-!
# Quoted — texts and byte strings in messages

Messages show a text between quotation marks, so that its ends and its unprintable characters can be
seen. Apostrophes enclose it, unless it contains an apostrophe and no double quote. The enclosing
mark and the backslash are escaped; tab, line feed and carriage return have short escapes; other
characters that are not printable are written as hex escapes of two, four or eight digits. Byte
strings are shown the same way behind a `b`, every byte outside printable ASCII as `\xNN`.
-/

namespace Regenesis.Text

/-- The lower-case hex digit of a number below 16. -/
def hexDigit (n : Nat) : Char := Nat.digitChar n

/-- A number in lower-case hex, with exactly `width` digits. -/
def hexDigits : Nat → Nat → List Char
  | 0, _ => []
  | width + 1, n => hexDigits width (n / 16) ++ [hexDigit (n % 16)]

/-- The mark that encloses a text. -/
def quoteMark (cs : List Char) : Char :=
  if cs.contains '\'' && !cs.contains '"' then '"' else '\''

/-- One character inside quotation marks, given which characters stand for themselves. -/
def escapeChar (shown : Char → Bool) (mark c : Char) : List Char :=
  if c == mark || c == '\\' then ['\\', c]
  else if c == '\t' then ['\\', 't']
  else if c == '\n' then ['\\', 'n']
  else if c == '\r' then ['\\', 'r']
  else if shown c then [c]
  else if c.toNat < 0x100 then '\\' :: 'x' :: hexDigits 2 c.toNat
  else if c.toNat < 0x10000 then '\\' :: 'u' :: hexDigits 4 c.toNat
  else '\\' :: 'U' :: hexDigits 8 c.toNat

/-- The characters of a text in quotation marks. -/
def quotedChars (shown : Char → Bool) (cs : List Char) : List Char :=
  let mark := quoteMark cs
  mark :: cs.flatMap (escapeChar shown mark) ++ [mark]

/-- A text in quotation marks. -/
def quote (s : String) : String := String.ofList (quotedChars isPrintable s.toList)

/-- Whether a character is printable ASCII. -/
def isPrintableAscii (c : Char) : Bool := 32 ≤ c.toNat && c.toNat < 127

/-- A byte string in quotation marks. -/
def quoteOctets (b : Octets) : String :=
  String.ofList ('b' :: quotedChars isPrintableAscii (b.map fun x => Char.ofNat x.toNat))

end Regenesis.Text

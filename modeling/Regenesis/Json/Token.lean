import Regenesis.Json.Value
import Regenesis.Decimal.Integer
import Regenesis.Hex

/-!
# Json.Token — the symbols of a JSON text

A JSON text is a row of symbols with blanks between them: brackets, braces, colons, commas, and
scalars, which are the values without parts. `tokens?` finds the symbols. It knows nothing of how
they fit together; that is the reader's task. Beside the usual scalars, `NaN`, `Infinity` and
`-Infinity` stand for the doubles of these names. In a text the control characters must be escaped,
and an escaped surrogate must be half of a pair.
-/

namespace Regenesis.Json

/-- A symbol of a JSON text. -/
inductive Token where
  | openList
  | closeList
  | openObject
  | closeObject
  | colon
  | comma
  /-- A value without parts. -/
  | scalar (v : Json)
deriving Inhabited

namespace Token

-- ---------------------------------------------------------------------------
-- Texts
-- ---------------------------------------------------------------------------

/-- The value of four hex digits. -/
def hexUnit? (a b c d : Char) : Option Nat := do
  let a ← Hex.digitValue? a
  let b ← Hex.digitValue? b
  let c ← Hex.digitValue? c
  let d ← Hex.digitValue? d
  return ((a * 16 + b) * 16 + c) * 16 + d

/-- The character that a letter behind a backslash stands for. -/
def shortEscape? : Char → Option Char
  | '"' => some '"'
  | '\\' => some '\\'
  | '/' => some '/'
  | 'b' => some (Char.ofNat 8)
  | 'f' => some (Char.ofNat 12)
  | 'n' => some '\n'
  | 'r' => some '\r'
  | 't' => some '\t'
  | _ => none

/-- The character of a pair of surrogates. -/
def pairChar (high low : Nat) : Char :=
  Char.ofNat (0x10000 + (high - 0xD800) * 0x400 + (low - 0xDC00))

/-- The characters of a text up to its closing quotation mark, and what follows the mark. -/
def textBody : List Char → Option (List Char × List Char)
  | [] => none
  | '"' :: rest => some ([], rest)
  | '\\' :: 'u' :: a :: b :: c :: d :: rest =>
    match hexUnit? a b c d with
    | none => none
    | some unit =>
      if 0xD800 ≤ unit ∧ unit < 0xDC00 then
        match rest with
        | '\\' :: 'u' :: a' :: b' :: c' :: d' :: rest =>
          match hexUnit? a' b' c' d' with
          | none => none
          | some low =>
            if 0xDC00 ≤ low ∧ low < 0xE000 then
              (textBody rest).map fun (cs, tail) => (pairChar unit low :: cs, tail)
            else none
        | _ => none
      else if 0xDC00 ≤ unit ∧ unit < 0xE000 then none
      else (textBody rest).map fun (cs, tail) => (Char.ofNat unit :: cs, tail)
  | '\\' :: e :: rest =>
    match shortEscape? e with
    | none => none
    | some c => (textBody rest).map fun (cs, tail) => (c :: cs, tail)
  | c :: rest =>
    if c.toNat < 0x20 ∨ c = '\\' then none
    else (textBody rest).map fun (cs, tail) => (c :: cs, tail)

-- ---------------------------------------------------------------------------
-- Numbers
-- ---------------------------------------------------------------------------

/-- The value of an ASCII digit. -/
def digitValue (c : Char) : Nat := c.toNat - '0'.toNat

/-- The number that ASCII digits stand for. -/
def digitsValue (cs : List Char) : Nat := Decimal.valueFrom 0 (cs.map digitValue)

/-- The digits of the fraction behind a whole part, and what follows; no digits if there is no
point. A point must be followed by a digit. -/
def fraction? : List Char → Option (List Char × List Char)
  | '.' :: cs => if (cs.takeWhile Char.isDigit).isEmpty then none else some (cs.span Char.isDigit)
  | cs => some ([], cs)

/-- The exponent behind a number, and what follows; `none` inside if there is no exponent. -/
def exponent? : List Char → Option (Option Int × List Char)
  | c :: cs =>
    if c = 'e' ∨ c = 'E' then
      let (negative, cs) := Decimal.takeSign cs
      let (digits, rest) := cs.span Char.isDigit
      if digits.isEmpty then none
      else
        let n : Int := digitsValue digits
        some (some (if negative then -n else n), rest)
    else some (none, c :: cs)
  | [] => some (none, [])

/-- The whole part of a number: a zero alone, or digits that do not begin with a zero. -/
def wholePart? : List Char → Option (List Char × List Char)
  | '0' :: rest => some (['0'], rest)
  | cs => if (cs.takeWhile Char.isDigit).isEmpty then none else some (cs.span Char.isDigit)

/-- A number without its sign, and what follows it. `maxLength` bounds the number of digits of the
whole part. -/
def number? (maxLength : Option Nat) (negative : Bool) (cs : List Char) :
    Option (Json × List Char) := do
  let (whole, rest) ← wholePart? cs
  if maxLength.any (· < whole.length) then none
  let (fraction, rest) ← fraction? rest
  let (exponent, rest) ← exponent? rest
  if fraction.isEmpty ∧ exponent.isNone then
    let n : Int := digitsValue whole
    some (.int (if negative then -n else n), rest)
  else
    let shift := exponent.getD 0 - (fraction.length : Int)
    some (.float (.ofDecimal negative (digitsValue (whole ++ fraction)) shift), rest)

-- ---------------------------------------------------------------------------
-- The row of symbols
-- ---------------------------------------------------------------------------

/-- The text behind an expected beginning. -/
def expect? : List Char → List Char → Option (List Char)
  | [], cs => some cs
  | e :: es, c :: cs => if e = c then expect? es cs else none
  | _ :: _, [] => none

/-- The words that are scalars. -/
def words : List (List Char × Json) := [
  ("null".toList, .null), ("true".toList, .bool true), ("false".toList, .bool false),
  ("NaN".toList, .float .nan), ("Infinity".toList, .float (.infinite false)),
  ("-Infinity".toList, .float (.infinite true))]

/-- The word at the front of a text, and what follows it. -/
def word? (cs : List Char) : Option (Json × List Char) :=
  words.findSome? fun (w, v) => (expect? w cs).map (v, ·)

/-- The first symbol of a text that does not begin with a blank, and what follows it. -/
def first? (maxLength : Option Nat) : List Char → Option (Token × List Char)
  | [] => none
  | '[' :: cs => some (.openList, cs)
  | ']' :: cs => some (.closeList, cs)
  | '{' :: cs => some (.openObject, cs)
  | '}' :: cs => some (.closeObject, cs)
  | ':' :: cs => some (.colon, cs)
  | ',' :: cs => some (.comma, cs)
  | '"' :: cs => (textBody cs).map fun (body, rest) => (.scalar (.str (String.ofList body)), rest)
  | cs =>
    match word? cs with
    | some (v, rest) => some (.scalar v, rest)
    | none =>
      let number :=
        match cs with
        | '-' :: cs => number? maxLength true cs
        | cs => number? maxLength false cs
      number.map fun (v, rest) => (.scalar v, rest)

/-- The blanks of JSON. -/
def isSpace (c : Char) : Bool := c = ' ' ∨ c = '\t' ∨ c = '\n' ∨ c = '\r'

/-- The symbols of a text, at most `fuel` of them and blanks together. -/
def tokensWithin (maxLength : Option Nat) : Nat → List Char → Option (List Token)
  | _, [] => some []
  | 0, _ => none
  | fuel + 1, c :: cs =>
    if isSpace c then tokensWithin maxLength fuel cs
    else do
      let (t, rest) ← first? maxLength (c :: cs)
      return t :: (← tokensWithin maxLength fuel rest)

/-- The symbols of a text; `none` if it is not a row of symbols. Every symbol and every blank takes
a character, so the length of the text bounds their number. -/
def tokens? (maxLength : Option Nat) (cs : List Char) : Option (List Token) :=
  tokensWithin maxLength cs.length cs

end Token

end Regenesis.Json

import Regenesis.Hex
import Regenesis.Decimal.Integer
import Regenesis.Record.Checked

/-!
# Record.Field — the values of members

A member's value is taken generously. Integers may be written as numbers without a fraction, as
booleans, or as texts; booleans as numbers, or as the usual words in any case. Texts, lists and
objects must be what they are. Hex texts are taken as the bytes they stand for, so that two
spellings of one byte string make no difference.
-/

namespace Regenesis.Record

-- ---------------------------------------------------------------------------
-- Integers in texts
-- ---------------------------------------------------------------------------

/-- What a text is, taken as a plain integer: a minus sign or none, and digits that do not begin
with a superfluous zero. -/
inductive PlainInteger where
  | number (n : Int)
  | tooLong
  | malformed

/-- Takes a text as a plain integer. A number with more digits than the limit is too long whatever
follows its digits. -/
def plainInteger (cs : List Char) : PlainInteger :=
  let (negative, unsigned) :=
    match cs with
    | '-' :: rest => (true, rest)
    | cs => (false, cs)
  let (digits, rest) := unsigned.span Char.isDigit
  match digits with
  | [] => .malformed
  | ['0'] => if rest.isEmpty then .number 0 else .malformed
  | '0' :: _ => .malformed
  | digits =>
    if Decimal.maxDigits < digits.length then .tooLong
    else if !rest.isEmpty then .malformed
    else
      let n : Int := Decimal.valueFrom 0 (digits.map fun c => c.toNat - '0'.toNat)
      .number (if negative then -n else n)

/-- Drops the zeros in front of a number without a sign, underscores between them included; a single
character stays. A minus sign may follow the zeros, but a text that does not begin with a digit is
no number. -/
def dropLeadingZeros (cs : List Char) : Option (List Char) :=
  match cs with
  | '0' :: rest =>
    match rest.dropWhile fun c => c = '0' ∨ c = '_' with
    | [] => some (cs.drop (cs.length - 1))
    | '.' :: tail => some (cs.drop (cs.length - tail.length - 2))
    | c :: tail => if c.isDigit ∨ c = '-' then some (c :: tail) else none
  | c :: _ => if c.isDigit then some cs else none
  | [] => none

/-- Drops the zeros in front of a number, which may have a minus sign. -/
def dropSignedZeros : List Char → Option (List Char)
  | '-' :: cs => (dropLeadingZeros cs).map ('-' :: ·)
  | cs => dropLeadingZeros cs

/-- Drops a point with nothing but zeros behind it, at least one. -/
def dropZeroFraction (cs : List Char) : List Char :=
  match cs.dropWhile (· != '.') with
  | _ :: fraction =>
    if !fraction.isEmpty && fraction.all (· == '0') then cs.takeWhile (· != '.') else cs
  | [] => cs

/-- Whether a text has two underscores in a row. -/
def hasDoubleUnderscore : List Char → Bool
  | '_' :: '_' :: _ => true
  | _ :: rest => hasDoubleUnderscore rest
  | [] => false

/-- Drops the underscores of a text, if they are single ones inside it. -/
def dropUnderscores (cs : List Char) : List Char :=
  if cs.head? == some '_' || cs.getLast? == some '_' || hasDoubleUnderscore cs then cs
  else cs.filter (· != '_')

/-- The plain form of a generously written integer. -/
def tidyInteger? (cs : List Char) : Option (List Char) := do
  let cs ←
    match Text.trimBlanks cs with
    | '+' :: '-' :: _ => none
    | '+' :: rest => some rest
    | cs => some cs
  return dropUnderscores (dropZeroFraction (← dropSignedZeros cs))

/-- The integer of a text. That a number is too long is said of a plain integer only; a number that
is too long once it is tidied is no better than any other text. -/
def integerText (s : String) : Checked Int :=
  match plainInteger s.toList with
  | .number n => .ok n
  | .tooLong => .fail .oversizeInteger
  | .malformed =>
    match (tidyInteger? s.toList).map plainInteger with
    | some (.number n) => .ok n
    | _ => .fail .badInteger

-- ---------------------------------------------------------------------------
-- Integers
-- ---------------------------------------------------------------------------

/-- The end of the integers of 64 bits: they are at least its negative, and below it. -/
def wordEnd : Int := Nat.pow 2 63

/-- The integer that a double is equal to, if it fits into 64 bits. The least integer of 64 bits is
left out. -/
def integerFloat (x : Binary64) : Checked Int :=
  match x with
  | .nan | .infinite _ => .fail .notFinite
  | x =>
    match x.toInt? with
    | none => .fail .fractional
    | some n => if -wordEnd < n ∧ n < wordEnd then .ok n else .fail .oversizeInteger

/-- An integer. -/
def integer : Json → Checked Int
  | .int n => .ok n
  | .bool b => .ok (if b then 1 else 0)
  | .float x => integerFloat x
  | .str s => integerText s
  | _ => .fail .notInteger

/-- An integer that is not negative. -/
def natural (v : Json) : Checked Nat :=
  (integer v).andThen fun
    | .ofNat n => .ok n
    | .negSucc _ => .fail .negative

-- ---------------------------------------------------------------------------
-- Other values
-- ---------------------------------------------------------------------------

/-- The words for true. -/
def trueWords : List String := ["1", "t", "y", "on", "yes", "true"]

/-- The words for false. -/
def falseWords : List String := ["0", "f", "n", "no", "off", "false"]

/-- The boolean of a number. -/
def booleanNumber (n : Int) : Checked Bool :=
  if n = 0 then .ok false else if n = 1 then .ok true else .fail .badBoolean

/-- The text with its ASCII capitals made small. -/
def lowerAscii (s : String) : String := String.ofList (s.toList.map Char.toLower)

/-- A boolean. A number beyond 64 bits, or with a fraction, is not even taken for a candidate. -/
def boolean : Json → Checked Bool
  | .bool b => .ok b
  | .int n => if -wordEnd ≤ n ∧ n < wordEnd then booleanNumber n else .fail .notBoolean
  | .float x =>
    match integerFloat x with
    | .ok n => booleanNumber n
    | .issues _ => .fail .notBoolean
  | .str s =>
    if trueWords.contains (lowerAscii s) then .ok true
    else if falseWords.contains (lowerAscii s) then .ok false
    else .fail .badBoolean
  | _ => .fail .notBoolean

/-- A text. -/
def text : Json → Checked String
  | .str s => .ok s
  | _ => .fail .notText

/-- The bytes of a hex text. -/
def hexText (s : String) : Checked Octets :=
  match Hex.decode s with
  | .ok b => .ok b
  | .error _ => .fail (.notHex s)

/-- A hex byte string. -/
def hex (v : Json) : Checked Octets := (text v).andThen hexText

/-- A list. -/
def list {α : Type} (read : Json → Checked α) : Json → Checked (List α)
  | .arr items => readItems read 0 items
  | _ => .fail .notList

/-- The byte strings of hex texts, or a complaint about the first that is none. -/
def hexTexts : List String → Checked (List Octets)
  | [] => .ok []
  | s :: rest => (hexText s).andThen fun b => (hexTexts rest).map (b :: ·)

/-- A list of hex byte strings. It must be a list of texts first; then the first text that is not
hex is an issue of the list as a whole. -/
def hexList (v : Json) : Checked (List Octets) := (list text v).andThen hexTexts

/-- An object, whatever its members are. -/
def object : Json → Checked Json.Members
  | .obj members => .ok members
  | _ => .fail .notObject

end Regenesis.Record

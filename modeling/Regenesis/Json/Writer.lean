import Regenesis.Json.Value
import Regenesis.Decimal.Integer
import Regenesis.Decimal.Shortest
import Regenesis.Text.Quoted

/-!
# Json.Writer — from value to text

Three forms are written. Stored records are compact: no blanks, members in their own order, only
control characters, quotation marks and backslashes escaped. Hashed texts are canonical: compact as
well, but in pure ASCII and with the members of every object in the order of their names. Files are
indented: every item and every member on a line of its own, two spaces further in than its
container, in pure ASCII.
-/

namespace Regenesis.Json

-- ---------------------------------------------------------------------------
-- Texts
-- ---------------------------------------------------------------------------

/-- The letter that stands for a character behind a backslash. -/
def shortEscapeOf? (c : Char) : Option Char :=
  if c = '"' then some '"'
  else if c = '\\' then some '\\'
  else if c = Char.ofNat 8 then some 'b'
  else if c = Char.ofNat 12 then some 'f'
  else if c = '\n' then some 'n'
  else if c = '\r' then some 'r'
  else if c = '\t' then some 't'
  else none

/-- A sixteen-bit unit as an escape. -/
def escapeUnit (n : Nat) : List Char := '\\' :: 'u' :: Text.hexDigits 4 n

/-- A character of a text; all but the characters that must be escaped stand for themselves. -/
def writeChar (c : Char) : List Char :=
  match shortEscapeOf? c with
  | some e => ['\\', e]
  | none => if c.toNat < 0x20 then escapeUnit c.toNat else [c]

/-- A character of a text in ASCII; a character beyond the first 65536 becomes two surrogates. -/
def writeCharAscii (c : Char) : List Char :=
  match shortEscapeOf? c with
  | some e => ['\\', e]
  | none =>
    if Text.isPrintableAscii c then [c]
    else if c.toNat < 0x10000 then escapeUnit c.toNat
    else
      let n := c.toNat - 0x10000
      escapeUnit (0xD800 + n / 0x400) ++ escapeUnit (0xDC00 + n % 0x400)

-- ---------------------------------------------------------------------------
-- Styles
-- ---------------------------------------------------------------------------

/-- How scalars are written. -/
structure Style where
  /-- The form of a character inside a text. -/
  char : Char → List Char
  /-- The form of a double. -/
  float : Binary64 → List Char

/-- Stored records write doubles without an exponent from 0.00001 up to below 10^16; what is no
number becomes null. -/
def storedFloats : Decimal.Layout := ⟨-4, 16, true, 1, "null", fun _ => "null"⟩

/-- Hashed texts and files write doubles without an exponent from 0.0001 up to below 10^16, and name
what is no number. -/
def namedFloats : Decimal.Layout :=
  ⟨-3, 16, true, 2, "NaN", fun negative => if negative then "-Infinity" else "Infinity"⟩

/-- The style of stored records. -/
def Style.stored : Style := ⟨writeChar, storedFloats.write⟩

/-- The style of hashed texts and files. -/
def Style.ascii : Style := ⟨writeCharAscii, namedFloats.write⟩

/-- A text with its quotation marks. -/
def Style.text (style : Style) (s : String) : List Char :=
  '"' :: s.toList.flatMap style.char ++ ['"']

-- ---------------------------------------------------------------------------
-- Compact form
-- ---------------------------------------------------------------------------

mutual

/-- A value without blanks. -/
def compactChars (style : Style) : Json → List Char
  | .null => "null".toList
  | .bool true => "true".toList
  | .bool false => "false".toList
  | .int n => Decimal.intDigits n
  | .float x => style.float x
  | .str s => style.text s
  | .arr [] => ['[', ']']
  | .arr (v :: rest) => '[' :: compactChars style v ++ compactItems style rest
  | .obj [] => ['{', '}']
  | .obj ((name, v) :: rest) =>
    '{' :: style.text name ++ ':' :: compactChars style v ++ compactMembers style rest

/-- The items of a list behind the first one, and its end. -/
def compactItems (style : Style) : List Json → List Char
  | [] => [']']
  | v :: rest => ',' :: compactChars style v ++ compactItems style rest

/-- The members of an object behind the first one, and its end. -/
def compactMembers (style : Style) : List (String × Json) → List Char
  | [] => ['}']
  | (name, v) :: rest =>
    ',' :: style.text name ++ ':' :: compactChars style v ++ compactMembers style rest

end

/-- A value as it is stored. -/
def stored (v : Json) : String := String.ofList (compactChars .stored v)

/-- A value as it is hashed. -/
def canonicalText (v : Json) : String := String.ofList (compactChars .ascii v.canonical)

-- ---------------------------------------------------------------------------
-- Indented form
-- ---------------------------------------------------------------------------

/-- A new line, `depth` levels in. -/
def newLine (depth : Nat) : List Char := '\n' :: List.replicate (2 * depth) ' '

mutual

/-- A value on indented lines, inside `depth` containers. -/
def indentedChars (style : Style) (depth : Nat) : Json → List Char
  | .null => "null".toList
  | .bool true => "true".toList
  | .bool false => "false".toList
  | .int n => Decimal.intDigits n
  | .float x => style.float x
  | .str s => style.text s
  | .arr [] => ['[', ']']
  | .arr (v :: rest) =>
    '[' :: newLine (depth + 1) ++ indentedChars style (depth + 1) v ++
      indentedItems style depth rest
  | .obj [] => ['{', '}']
  | .obj ((name, v) :: rest) =>
    '{' :: newLine (depth + 1) ++ style.text name ++ ':' :: ' ' ::
      indentedChars style (depth + 1) v ++ indentedMembers style depth rest

/-- The items of a list behind the first one, and its end. -/
def indentedItems (style : Style) (depth : Nat) : List Json → List Char
  | [] => newLine depth ++ [']']
  | v :: rest =>
    ',' :: newLine (depth + 1) ++ indentedChars style (depth + 1) v ++
      indentedItems style depth rest

/-- The members of an object behind the first one, and its end. -/
def indentedMembers (style : Style) (depth : Nat) : List (String × Json) → List Char
  | [] => newLine depth ++ ['}']
  | (name, v) :: rest =>
    ',' :: newLine (depth + 1) ++ style.text name ++ ':' :: ' ' ::
      indentedChars style (depth + 1) v ++ indentedMembers style depth rest

end

/-- A value as it is written into a file. -/
def indented (v : Json) : String := String.ofList (indentedChars .ascii 0 v)

end Regenesis.Json

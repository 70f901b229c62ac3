/-!
# Blank — white space

Two classes: the six blanks of ASCII, which may stand between the bytes of a hex text, and all
characters with Unicode's white-space property, which may stand around a number.
-/

namespace Regenesis.Text

/-- The six blanks of ASCII: tab, line feed, vertical tab, form feed, carriage return, space. -/
def isAsciiBlank (c : Char) : Bool :=
  c.toNat == 32 || (9 ≤ c.toNat && c.toNat ≤ 13)

/-- The ranges, ends included, of Unicode's white space outside ASCII. -/
def blankRanges : List (Nat × Nat) := [
  (0x85, 0x85), (0xA0, 0xA0), (0x1680, 0x1680), (0x2000, 0x200A), (0x2028, 0x2029),
  (0x202F, 0x202F), (0x205F, 0x205F), (0x3000, 0x3000)
]

/-- Unicode's white space. -/
def isBlank (c : Char) : Bool :=
  isAsciiBlank c || blankRanges.any fun (low, high) => low ≤ c.toNat && c.toNat ≤ high

/-- A text without the blanks before and after it. -/
def trimBlanks (cs : List Char) : List Char :=
  ((cs.dropWhile isBlank).reverse.dropWhile isBlank).reverse

end Regenesis.Text

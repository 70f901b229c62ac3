import Regenesis.Text.Decomposition

/-!
# Collation — alphabetical order

Names are put in the order of the Unicode collation algorithm. Every character contributes elements
of three weights; a text's key lists all primary weights, then all secondary, then all tertiary
ones, leaving out the zeros and closing each list by a zero, and keys are compared as lists of
numbers. So letters decide first, then marks, then case, a small letter coming before its capital.
Spaces and punctuation count like other characters.
-/

namespace Regenesis.Text

/-- A collation element: the weights of one character, or of one part of it. -/
structure Element where
  primary : Nat
  secondary : Nat
  tertiary : Nat
deriving DecidableEq, Repr

/-- The elements of the default table, version 9.0.0, for the characters in use. -/
def defaultElements : List (Nat × List Element) := [
  (0x0000, []), (0x0001, []), (0x0009, [⟨0x0201, 0x0020, 0x0002⟩]),
  (0x000A, [⟨0x0202, 0x0020, 0x0002⟩]), (0x0020, [⟨0x0209, 0x0020, 0x0002⟩]),
  (0x0021, [⟨0x0260, 0x0020, 0x0002⟩]), (0x0022, [⟨0x030C, 0x0020, 0x0002⟩]),
  (0x0023, [⟨0x0398, 0x0020, 0x0002⟩]), (0x0024, [⟨0x1C12, 0x0020, 0x0002⟩]),
  (0x0025, [⟨0x0399, 0x0020, 0x0002⟩]), (0x0026, [⟨0x0396, 0x0020, 0x0002⟩]),
  (0x0027, [⟨0x0305, 0x0020, 0x0002⟩]), (0x0028, [⟨0x0317, 0x0020, 0x0002⟩]),
  (0x0029, [⟨0x0318, 0x0020, 0x0002⟩]), (0x002A, [⟨0x038F, 0x0020, 0x0002⟩]),
  (0x002B, [⟨0x0616, 0x0020, 0x0002⟩]), (0x002C, [⟨0x0222, 0x0020, 0x0002⟩]),
  (0x002D, [⟨0x020D, 0x0020, 0x0002⟩]), (0x002E, [⟨0x0277, 0x0020, 0x0002⟩]),
  (0x002F, [⟨0x0394, 0x0020, 0x0002⟩]), (0x0030, [⟨0x1C3D, 0x0020, 0x0002⟩]),
  (0x0031, [⟨0x1C3E, 0x0020, 0x0002⟩]), (0x0032, [⟨0x1C3F, 0x0020, 0x0002⟩]),
  (0x0033, [⟨0x1C40, 0x0020, 0x0002⟩]), (0x0034, [⟨0x1C41, 0x0020, 0x0002⟩]),
  (0x0035, [⟨0x1C42, 0x0020, 0x0002⟩]), (0x0036, [⟨0x1C43, 0x0020, 0x0002⟩]),
  (0x0037, [⟨0x1C44, 0x0020, 0x0002⟩]), (0x0038, [⟨0x1C45, 0x0020, 0x0002⟩]),
  (0x0039, [⟨0x1C46, 0x0020, 0x0002⟩]), (0x003A, [⟨0x0239, 0x0020, 0x0002⟩]),
  (0x003B, [⟨0x0234, 0x0020, 0x0002⟩]), (0x003C, [⟨0x061A, 0x0020, 0x0002⟩]),
  (0x003D, [⟨0x061B, 0x0020, 0x0002⟩]), (0x003E, [⟨0x061C, 0x0020, 0x0002⟩]),
  (0x003F, [⟨0x0266, 0x0020, 0x0002⟩]), (0x0040, [⟨0x038E, 0x0020, 0x0002⟩]),
  (0x0041, [⟨0x1C47, 0x0020, 0x0008⟩]), (0x0042, [⟨0x1C60, 0x0020, 0x0008⟩]),
  (0x0043, [⟨0x1C7A, 0x0020, 0x0008⟩]), (0x0044, [⟨0x1C8F, 0x0020, 0x0008⟩]),
  (0x0045, [⟨0x1CAA, 0x0020, 0x0008⟩]), (0x0046, [⟨0x1CE5, 0x0020, 0x0008⟩]),
  (0x0047, [⟨0x1CF4, 0x0020, 0x0008⟩]), (0x0048, [⟨0x1D18, 0x0020, 0x0008⟩]),
  (0x0049, [⟨0x1D32, 0x0020, 0x0008⟩]), (0x004A, [⟨0x1D4C, 0x0020, 0x0008⟩]),
  (0x004B, [⟨0x1D65, 0x0020, 0x0008⟩]), (0x004C, [⟨0x1D77, 0x0020, 0x0008⟩]),
  (0x004D, [⟨0x1DAA, 0x0020, 0x0008⟩]), (0x004E, [⟨0x1DB9, 0x0020, 0x0008⟩]),
  (0x004F, [⟨0x1DDD, 0x0020, 0x0008⟩]), (0x0050, [⟨0x1E0C, 0x0020, 0x0008⟩]),
  (0x0051, [⟨0x1E21, 0x0020, 0x0008⟩]), (0x0052, [⟨0x1E33, 0x0020, 0x0008⟩]),
  (0x0053, [⟨0x1E71, 0x0020, 0x0008⟩]), (0x0054, [⟨0x1E95, 0x0020, 0x0008⟩]),
  (0x0055, [⟨0x1EB5, 0x0020, 0x0008⟩]), (0x0056, [⟨0x1EE3, 0x0020, 0x0008⟩]),
  (0x0057, [⟨0x1EF5, 0x0020, 0x0008⟩]), (0x0058, [⟨0x1EFF, 0x0020, 0x0008⟩]),
  (0x0059, [⟨0x1F0B, 0x0020, 0x0008⟩]), (0x005A, [⟨0x1F21, 0x0020, 0x0008⟩]),
  (0x005B, [⟨0x0319, 0x0020, 0x0002⟩]), (0x005C, [⟨0x0395, 0x0020, 0x0002⟩]),
  (0x005D, [⟨0x031A, 0x0020, 0x0002⟩]), (0x005E, [⟨0x0485, 0x0020, 0x0002⟩]),
  (0x005F, [⟨0x020B, 0x0020, 0x0002⟩]), (0x0060, [⟨0x0482, 0x0020, 0x0002⟩]),
  (0x0061, [⟨0x1C47, 0x0020, 0x0002⟩]), (0x0062, [⟨0x1C60, 0x0020, 0x0002⟩]),
  (0x0063, [⟨0x1C7A, 0x0020, 0x0002⟩]), (0x0064, [⟨0x1C8F, 0x0020, 0x0002⟩]),
  (0x0065, [⟨0x1CAA, 0x0020, 0x0002⟩]), (0x0066, [⟨0x1CE5, 0x0020, 0x0002⟩]),
  (0x0067, [⟨0x1CF4, 0x0020, 0x0002⟩]), (0x0068, [⟨0x1D18, 0x0020, 0x0002⟩]),
  (0x0069, [⟨0x1D32, 0x0020, 0x0002⟩]), (0x006A, [⟨0x1D4C, 0x0020, 0x0002⟩]),
  (0x006B, [⟨0x1D65, 0x0020, 0x0002⟩]), (0x006C, [⟨0x1D77, 0x0020, 0x0002⟩]),
  (0x006D, [⟨0x1DAA, 0x0020, 0x0002⟩]), (0x006E, [⟨0x1DB9, 0x0020, 0x0002⟩]),
  (0x006F, [⟨0x1DDD, 0x0020, 0x0002⟩]), (0x0070, [⟨0x1E0C, 0x0020, 0x0002⟩]),
  (0x0071, [⟨0x1E21, 0x0020, 0x0002⟩]), (0x0072, [⟨0x1E33, 0x0020, 0x0002⟩]),
  (0x0073, [⟨0x1E71, 0x0020, 0x0002⟩]), (0x0074, [⟨0x1E95, 0x0020, 0x0002⟩]),
  (0x0075, [⟨0x1EB5, 0x0020, 0x0002⟩]), (0x0076, [⟨0x1EE3, 0x0020, 0x0002⟩]),
  (0x0077, [⟨0x1EF5, 0x0020, 0x0002⟩]), (0x0078, [⟨0x1EFF, 0x0020, 0x0002⟩]),
  (0x0079, [⟨0x1F0B, 0x0020, 0x0002⟩]), (0x007A, [⟨0x1F21, 0x0020, 0x0002⟩]),
  (0x007B, [⟨0x031B, 0x0020, 0x0002⟩]), (0x007C, [⟨0x061E, 0x0020, 0x0002⟩]),
  (0x007D, [⟨0x031C, 0x0020, 0x0002⟩]), (0x007E, [⟨0x0620, 0x0020, 0x0002⟩]),
  (0x00A3, [⟨0x1C13, 0x0020, 0x0002⟩]), (0x00A5, [⟨0x1C14, 0x0020, 0x0002⟩]),
  (0x00B2, [⟨0x1C3F, 0x0020, 0x0014⟩]), (0x00B9, [⟨0x1C3E, 0x0020, 0x0014⟩]),
  (0x00BC, [⟨0x1C3E, 0x0020, 0x001E⟩, ⟨0x0626, 0x0020, 0x001E⟩, ⟨0x1C41, 0x0020, 0x001E⟩]),
  (0x00BD, [⟨0x1C3E, 0x0020, 0x001E⟩, ⟨0x0626, 0x0020, 0x001E⟩, ⟨0x1C3F, 0x0020, 0x001E⟩]),
  (0x00C6, [⟨0x1C47, 0x0020, 0x000A⟩, ⟨0x0000, 0x0110, 0x0004⟩, ⟨0x1CAA, 0x0020, 0x000A⟩]),
  (0x00D8, [⟨0x1DDD, 0x0020, 0x0008⟩, ⟨0x0000, 0x002F, 0x0002⟩]),
  (0x00DF, [⟨0x1E71, 0x0020, 0x0004⟩, ⟨0x0000, 0x0110, 0x0004⟩, ⟨0x1E71, 0x0020, 0x0004⟩]),
  (0x00E6, [⟨0x1C47, 0x0020, 0x0004⟩, ⟨0x0000, 0x0110, 0x0004⟩, ⟨0x1CAA, 0x0020, 0x0004⟩]),
  (0x00F0, [⟨0x1C8F, 0x0020, 0x0004⟩, ⟨0x0000, 0x0110, 0x0004⟩]),
  (0x00F8, [⟨0x1DDD, 0x0020, 0x0002⟩, ⟨0x0000, 0x002F, 0x0002⟩]),
  (0x00FE, [⟨0x1F50, 0x0020, 0x0002⟩]), (0x0300, [⟨0x0000, 0x0025, 0x0002⟩]),
  (0x0301, [⟨0x0000, 0x0024, 0x0002⟩]), (0x0302, [⟨0x0000, 0x0027, 0x0002⟩]),
  (0x0303, [⟨0x0000, 0x002D, 0x0002⟩]), (0x0308, [⟨0x0000, 0x002B, 0x0002⟩]),
  (0x030A, [⟨0x0000, 0x0029, 0x0002⟩]), (0x0327, [⟨0x0000, 0x0030, 0x0002⟩]),
  (0x20AC, [⟨0x1C2A, 0x0020, 0x0002⟩])
]

/-- The base of the implicit primary weights: the unified ideographs come before their extensions,
and these before all other characters. -/
def implicitBase (c : Nat) : Nat :=
  if (0x4E00 ≤ c && c ≤ 0x9FD5) || (0xF900 ≤ c && c ≤ 0xFAFF) then 0xFB40
  else if (0x3400 ≤ c && c ≤ 0x4DB5) || (0x20000 ≤ c && c ≤ 0x2CEA1) then 0xFB80
  else 0xFBC0

/-- A character without an entry gets two elements made of its code point. -/
def implicitElements (c : Nat) : List Element :=
  [⟨implicitBase c + c / 0x8000, 0x0020, 0x0002⟩, ⟨c % 0x8000 + 0x8000, 0, 0⟩]

/-- The elements of a character. -/
def elements (c : Nat) : List Element := (defaultElements.lookup c).getD (implicitElements c)

/-- The weights of one level, without zeros and closed by a zero. -/
def levelKey (weight : Element → Nat) (es : List Element) : List Nat :=
  (es.map weight).filter (· != 0) ++ [0]

/-- The key by which a text is put in alphabetical order. -/
def collationKey (s : String) : List Nat :=
  let es := (decompose s).flatMap elements
  levelKey Element.primary es ++ levelKey Element.secondary es ++ levelKey Element.tertiary es

/-- Whether a key comes no later than another: the first number in which they differ decides, and a
beginning comes before what it begins. -/
def keyLe : List Nat → List Nat → Bool
  | [], _ => true
  | _ :: _, [] => false
  | a :: as, b :: bs => decide (a < b) || (a == b && keyLe as bs)

end Regenesis.Text

/-!
# Decomposition — letters and their marks apart

Canonical decomposition replaces a composed letter by its base letter and its marks, and then brings
each run of marks into the order of their combining classes; marks of one class keep their order.
The tables cover the Latin letters that are composed with the marks in use: grave, acute,
circumflex, tilde, diaeresis, ring and cedilla.
-/

namespace Regenesis.Text

/-- Composed characters with what they are composed of. -/
def compositions : List (Nat × List Nat) := [
  (0x00C0, [0x0041, 0x0300]), (0x00C1, [0x0041, 0x0301]), (0x00C2, [0x0041, 0x0302]),
  (0x00C3, [0x0041, 0x0303]), (0x00C4, [0x0041, 0x0308]), (0x00C5, [0x0041, 0x030A]),
  (0x00C7, [0x0043, 0x0327]), (0x00C8, [0x0045, 0x0300]), (0x00C9, [0x0045, 0x0301]),
  (0x00CA, [0x0045, 0x0302]), (0x00CB, [0x0045, 0x0308]), (0x00CC, [0x0049, 0x0300]),
  (0x00CD, [0x0049, 0x0301]), (0x00CE, [0x0049, 0x0302]), (0x00CF, [0x0049, 0x0308]),
  (0x00D1, [0x004E, 0x0303]), (0x00D2, [0x004F, 0x0300]), (0x00D3, [0x004F, 0x0301]),
  (0x00D4, [0x004F, 0x0302]), (0x00D5, [0x004F, 0x0303]), (0x00D6, [0x004F, 0x0308]),
  (0x00D9, [0x0055, 0x0300]), (0x00DA, [0x0055, 0x0301]), (0x00DB, [0x0055, 0x0302]),
  (0x00DC, [0x0055, 0x0308]), (0x00DD, [0x0059, 0x0301]), (0x00E0, [0x0061, 0x0300]),
  (0x00E1, [0x0061, 0x0301]), (0x00E2, [0x0061, 0x0302]), (0x00E3, [0x0061, 0x0303]),
  (0x00E4, [0x0061, 0x0308]), (0x00E5, [0x0061, 0x030A]), (0x00E7, [0x0063, 0x0327]),
  (0x00E8, [0x0065, 0x0300]), (0x00E9, [0x0065, 0x0301]), (0x00EA, [0x0065, 0x0302]),
  (0x00EB, [0x0065, 0x0308]), (0x00EC, [0x0069, 0x0300]), (0x00ED, [0x0069, 0x0301]),
  (0x00EE, [0x0069, 0x0302]), (0x00EF, [0x0069, 0x0308]), (0x00F1, [0x006E, 0x0303]),
  (0x00F2, [0x006F, 0x0300]), (0x00F3, [0x006F, 0x0301]), (0x00F4, [0x006F, 0x0302]),
  (0x00F5, [0x006F, 0x0303]), (0x00F6, [0x006F, 0x0308]), (0x00F9, [0x0075, 0x0300]),
  (0x00FA, [0x0075, 0x0301]), (0x00FB, [0x0075, 0x0302]), (0x00FC, [0x0075, 0x0308]),
  (0x00FD, [0x0079, 0x0301]), (0x00FF, [0x0079, 0x0308]), (0x0106, [0x0043, 0x0301]),
  (0x0107, [0x0063, 0x0301]), (0x0108, [0x0043, 0x0302]), (0x0109, [0x0063, 0x0302]),
  (0x011C, [0x0047, 0x0302]), (0x011D, [0x0067, 0x0302]), (0x0122, [0x0047, 0x0327]),
  (0x0123, [0x0067, 0x0327]), (0x0124, [0x0048, 0x0302]), (0x0125, [0x0068, 0x0302]),
  (0x0128, [0x0049, 0x0303]), (0x0129, [0x0069, 0x0303]), (0x0134, [0x004A, 0x0302]),
  (0x0135, [0x006A, 0x0302]), (0x0136, [0x004B, 0x0327]), (0x0137, [0x006B, 0x0327]),
  (0x0139, [0x004C, 0x0301]), (0x013A, [0x006C, 0x0301]), (0x013B, [0x004C, 0x0327]),
  (0x013C, [0x006C, 0x0327]), (0x0143, [0x004E, 0x0301]), (0x0144, [0x006E, 0x0301]),
  (0x0145, [0x004E, 0x0327]), (0x0146, [0x006E, 0x0327]), (0x0154, [0x0052, 0x0301]),
  (0x0155, [0x0072, 0x0301]), (0x0156, [0x0052, 0x0327]), (0x0157, [0x0072, 0x0327]),
  (0x015A, [0x0053, 0x0301]), (0x015B, [0x0073, 0x0301]), (0x015C, [0x0053, 0x0302]),
  (0x015D, [0x0073, 0x0302]), (0x015E, [0x0053, 0x0327]), (0x015F, [0x0073, 0x0327]),
  (0x0162, [0x0054, 0x0327]), (0x0163, [0x0074, 0x0327]), (0x0168, [0x0055, 0x0303]),
  (0x0169, [0x0075, 0x0303]), (0x016E, [0x0055, 0x030A]), (0x016F, [0x0075, 0x030A]),
  (0x0174, [0x0057, 0x0302]), (0x0175, [0x0077, 0x0302]), (0x0176, [0x0059, 0x0302]),
  (0x0177, [0x0079, 0x0302]), (0x0178, [0x0059, 0x0308]), (0x0179, [0x005A, 0x0301]),
  (0x017A, [0x007A, 0x0301]), (0x01D7, [0x0055, 0x0308, 0x0301]),
  (0x01D8, [0x0075, 0x0308, 0x0301]), (0x01DB, [0x0055, 0x0308, 0x0300]),
  (0x01DC, [0x0075, 0x0308, 0x0300]), (0x01F4, [0x0047, 0x0301]), (0x01F5, [0x0067, 0x0301]),
  (0x01F8, [0x004E, 0x0300]), (0x01F9, [0x006E, 0x0300]), (0x01FA, [0x0041, 0x030A, 0x0301]),
  (0x01FB, [0x0061, 0x030A, 0x0301]), (0x01FC, [0x00C6, 0x0301]), (0x01FD, [0x00E6, 0x0301]),
  (0x01FE, [0x00D8, 0x0301]), (0x01FF, [0x00F8, 0x0301]), (0x0228, [0x0045, 0x0327]),
  (0x0229, [0x0065, 0x0327]), (0x0340, [0x0300]), (0x0341, [0x0301]), (0x0344, [0x0308, 0x0301]),
  (0x037E, [0x003B]), (0x1E08, [0x0043, 0x0327, 0x0301]), (0x1E09, [0x0063, 0x0327, 0x0301]),
  (0x1E10, [0x0044, 0x0327]), (0x1E11, [0x0064, 0x0327]), (0x1E26, [0x0048, 0x0308]),
  (0x1E27, [0x0068, 0x0308]), (0x1E28, [0x0048, 0x0327]), (0x1E29, [0x0068, 0x0327]),
  (0x1E2E, [0x0049, 0x0308, 0x0301]), (0x1E2F, [0x0069, 0x0308, 0x0301]),
  (0x1E30, [0x004B, 0x0301]), (0x1E31, [0x006B, 0x0301]), (0x1E3E, [0x004D, 0x0301]),
  (0x1E3F, [0x006D, 0x0301]), (0x1E4C, [0x004F, 0x0303, 0x0301]),
  (0x1E4D, [0x006F, 0x0303, 0x0301]), (0x1E4E, [0x004F, 0x0303, 0x0308]),
  (0x1E4F, [0x006F, 0x0303, 0x0308]), (0x1E54, [0x0050, 0x0301]), (0x1E55, [0x0070, 0x0301]),
  (0x1E78, [0x0055, 0x0303, 0x0301]), (0x1E79, [0x0075, 0x0303, 0x0301]),
  (0x1E7C, [0x0056, 0x0303]), (0x1E7D, [0x0076, 0x0303]), (0x1E80, [0x0057, 0x0300]),
  (0x1E81, [0x0077, 0x0300]), (0x1E82, [0x0057, 0x0301]), (0x1E83, [0x0077, 0x0301]),
  (0x1E84, [0x0057, 0x0308]), (0x1E85, [0x0077, 0x0308]), (0x1E8C, [0x0058, 0x0308]),
  (0x1E8D, [0x0078, 0x0308]), (0x1E90, [0x005A, 0x0302]), (0x1E91, [0x007A, 0x0302]),
  (0x1E97, [0x0074, 0x0308]), (0x1E98, [0x0077, 0x030A]), (0x1E99, [0x0079, 0x030A]),
  (0x1EA4, [0x0041, 0x0302, 0x0301]), (0x1EA5, [0x0061, 0x0302, 0x0301]),
  (0x1EA6, [0x0041, 0x0302, 0x0300]), (0x1EA7, [0x0061, 0x0302, 0x0300]),
  (0x1EAA, [0x0041, 0x0302, 0x0303]), (0x1EAB, [0x0061, 0x0302, 0x0303]),
  (0x1EBC, [0x0045, 0x0303]), (0x1EBD, [0x0065, 0x0303]), (0x1EBE, [0x0045, 0x0302, 0x0301]),
  (0x1EBF, [0x0065, 0x0302, 0x0301]), (0x1EC0, [0x0045, 0x0302, 0x0300]),
  (0x1EC1, [0x0065, 0x0302, 0x0300]), (0x1EC4, [0x0045, 0x0302, 0x0303]),
  (0x1EC5, [0x0065, 0x0302, 0x0303]), (0x1ED0, [0x004F, 0x0302, 0x0301]),
  (0x1ED1, [0x006F, 0x0302, 0x0301]), (0x1ED2, [0x004F, 0x0302, 0x0300]),
  (0x1ED3, [0x006F, 0x0302, 0x0300]), (0x1ED6, [0x004F, 0x0302, 0x0303]),
  (0x1ED7, [0x006F, 0x0302, 0x0303]), (0x1EF2, [0x0059, 0x0300]), (0x1EF3, [0x0079, 0x0300]),
  (0x1EF8, [0x0059, 0x0303]), (0x1EF9, [0x0079, 0x0303]), (0x1FEF, [0x0060]), (0x212A, [0x004B]),
  (0x212B, [0x0041, 0x030A])
]

/-- The combining class of a character; zero for one that is not a mark. -/
def combiningClass (c : Nat) : Nat :=
  if c == 0x327 then 202
  else if [0x300, 0x301, 0x302, 0x303, 0x308, 0x30A].contains c then 230
  else 0

/-- Inserts a character into a text that it follows on, before the marks of higher class with which
the text begins. A character that is no mark stays in front. -/
def insertMark (c : Nat) : List Nat → List Nat
  | [] => [c]
  | d :: rest =>
    if combiningClass d != 0 && combiningClass d < combiningClass c then d :: insertMark c rest
    else c :: d :: rest

/-- Brings every run of marks into the order of their classes. -/
def orderMarks : List Nat → List Nat
  | [] => []
  | c :: rest => insertMark c (orderMarks rest)

/-- The canonical decomposition of a text, as code points. -/
def decompose (s : String) : List Nat :=
  orderMarks (s.toList.flatMap fun c => (compositions.lookup c.toNat).getD [c.toNat])

end Regenesis.Text

import Regenesis.Octets

/-!
# Address.Bech32 — labelled, checksummed text for a byte string

A Bech32 text is a label, a `1`, and letters of an alphabet of 32 which stand for five bits each:
the bytes, regrouped, and six letters of checksum over label and bytes. Writing takes the label as
it is. Reading accepts printable ASCII in one case, takes the last `1` as the separator of a label
of at most `maxLabel` characters, and gives the label in lower case. The length of the whole has no
bound.
-/

namespace Regenesis.Bech32

-- ---------------------------------------------------------------------------
-- Groups of bits
-- ---------------------------------------------------------------------------

/-- The lowest `width` bits of a number, the highest first. -/
def bits : Nat → Nat → List Bool
  | 0, _ => []
  | width + 1, n => n.testBit width :: bits width n

/-- The number of a row of bits, the highest first. -/
def number (bs : List Bool) : Nat := bs.foldl (fun n b => 2 * n + b.toNat) 0

/-- The five-bit groups of a row of bits, the last one filled up with zeros. -/
def fives : List Bool → List Nat
  | a :: b :: c :: d :: e :: rest => number [a, b, c, d, e] :: fives rest
  | [] => []
  | rest => [number (rest ++ List.replicate (5 - rest.length) false)]

/-- The bytes of a row of bits, and the bits left over. -/
def eights : List Bool → Octets × List Bool
  | a :: b :: c :: d :: e :: f :: g :: h :: rest =>
    let (bytes, left) := eights rest
    (UInt8.ofNat (number [a, b, c, d, e, f, g, h]) :: bytes, left)
  | rest => ([], rest)

/-- A byte string in five-bit groups. -/
def toGroups (b : Octets) : List Nat := fives (b.flatMap fun x => bits 8 x.toNat)

/-- The byte string of five-bit groups. What is left over must be a part of one group, and zero. -/
def ofGroups? (groups : List Nat) : Option Octets :=
  let (bytes, left) := eights (groups.flatMap (bits 5))
  if left.length < 5 && left.all (!·) then some bytes else none

-- ---------------------------------------------------------------------------
-- Checksum
-- ---------------------------------------------------------------------------

/-- The generator of the checksum, by the bit that brings it in. -/
def generator : List Nat := [0x3b6a57b2, 0x26508e6d, 0x1ea119fa, 0x3d4233dd, 0x2a1462b3]

/-- One step of the checksum. -/
def polymodStep (sum value : Nat) : Nat :=
  let top := sum >>> 25
  (generator.zipIdx.foldl (fun s (g, i) => if top.testBit i then s ^^^ g else s)
    (((sum &&& 0x1ffffff) <<< 5) ^^^ value))

/-- The checksum register after a row of values. -/
def polymod (values : List Nat) : Nat := values.foldl polymodStep 1

/-- The values by which a label takes part in the checksum. -/
def expandLabel (label : List Char) : List Nat :=
  label.map (·.toNat >>> 5) ++ 0 :: label.map (·.toNat &&& 31)

/-- The six groups that make the checksum of a label and groups right. -/
def checksum (label : List Char) (groups : List Nat) : List Nat :=
  let sum := polymod (expandLabel label ++ groups ++ [0, 0, 0, 0, 0, 0]) ^^^ 1
  [25, 20, 15, 10, 5, 0].map fun shift => (sum >>> shift) &&& 31

/-- Whether groups with their checksum are right for a label. -/
def verify (label : List Char) (groups : List Nat) : Bool :=
  polymod (expandLabel label ++ groups) == 1

-- ---------------------------------------------------------------------------
-- Text
-- ---------------------------------------------------------------------------

/-- The letters of the groups 0 to 31. -/
def alphabet : List Char := "qpzry9x8gf2tvdw0s3jn54khce6mua7l".toList

/-- The letter of a group. -/
def letter (group : Nat) : Char := alphabet.getD group 'q'

/-- The group of a letter. -/
def group? (c : Char) : Option Nat := alphabet.idxOf? c

/-- The text of a label and groups. -/
def encode (label : List Char) (groups : List Nat) : List Char :=
  label ++ '1' :: (groups ++ checksum label groups).map letter

/-- What stands before and after the last `1` of a text. -/
def splitLast? : List Char → Option (List Char × List Char)
  | [] => none
  | c :: rest =>
    match splitLast? rest with
    | some (before, after) => some (c :: before, after)
    | none => if c = '1' then some ([], rest) else none

/-- Whether a text is written in one case. -/
def isOneCase (cs : List Char) : Bool := cs.all (!·.isUpper) || cs.all (!·.isLower)

/-- The number of characters of the longest label that is read. -/
def maxLabel : Nat := 83

/-- The label and the groups of a text, without the checksum. -/
def decode? (cs : List Char) : Option (List Char × List Nat) := do
  if !cs.all (fun c => 33 ≤ c.toNat && c.toNat ≤ 126) || !isOneCase cs then none
  let (label, letters) ← splitLast? (cs.map Char.toLower)
  if label.isEmpty || maxLabel < label.length || letters.length < 6 then none
  let groups ← letters.mapM group?
  if verify label groups then some (label, groups.take (groups.length - 6)) else none

end Regenesis.Bech32

/-!
# Octets — byte strings

Keys, values, digests and addresses are lists of bytes. They are ordered byte by byte, a proper
beginning coming before what it begins, which is the order of the store's keys. Heights are written
big-endian, so that for one width the order of the bytes is the order of the numbers.
-/

namespace Regenesis

/-- A byte string. -/
abbrev Octets := List UInt8

namespace Octets

/-- The UTF-8 form of a text. -/
def ofText (s : String) : Octets := s.toUTF8.data.toList

/-- The text that the bytes are the UTF-8 form of, if they are one. -/
def toText? (b : Octets) : Option String := String.fromUTF8? ⟨b.toArray⟩

theorem toText?_ofText (s : String) : toText? (ofText s) = some s := by
  simp only [toText?, ofText, String.fromUTF8?, String.toUTF8_eq_toByteArray]
  exact dif_pos s.isValidUTF8

theorem ofText_injective {s t : String} (h : ofText s = ofText t) : s = t :=
  Option.some.inj (by rw [← toText?_ofText, h, toText?_ofText])

/-- Whether `a` comes no later than `b` in byte order. -/
def le (a b : Octets) : Bool := decide (a ≤ b)

/-- The lowest `width` bytes of a number, the highest byte first. -/
def bigEndian : Nat → Nat → Octets
  | 0, _ => []
  | width + 1, n => bigEndian width (n / 256) ++ [UInt8.ofNat (n % 256)]

/-- The number that the bytes are the big-endian form of. -/
def toNat (b : Octets) : Nat := b.foldl (fun n x => n * 256 + x.toNat) 0

theorem length_bigEndian (width n : Nat) : (bigEndian width n).length = width := by
  induction width generalizing n with
  | zero => rfl
  | succ w ih => simp [bigEndian, ih]

theorem toNat_append_singleton (b : Octets) (x : UInt8) :
    toNat (b ++ [x]) = toNat b * 256 + x.toNat := by
  simp [toNat, List.foldl_append]

/-- Reading a big-endian form gives the number back, less what does not fit into its width. -/
theorem toNat_bigEndian (width n : Nat) : toNat (bigEndian width n) = n % Nat.pow 256 width := by
  induction width generalizing n with
  | zero => simp [bigEndian, toNat, Nat.mod_one]
  | succ w ih =>
    have hpow : Nat.pow 256 (w + 1) = 256 * Nat.pow 256 w := Nat.mul_comm _ _
    rw [bigEndian, toNat_append_singleton, ih, hpow, Nat.mod_mul]
    simp only [UInt8.toNat_ofNat']
    omega

end Octets

end Regenesis

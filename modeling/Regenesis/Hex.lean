import Regenesis.Octets
import Regenesis.Text.Blank
import Regenesis.Text.Quoted

/-!
# Hex — byte strings as text

A byte is written as two lower-case hex digits. Reading is more generous: digits may be of either
case, and ASCII blanks may stand before, between and after the pairs, though not inside one.
`normalize` reads and writes again, so that two texts of the same bytes become the same text.
Reading a faulty text tells the position of the first character that does not fit, counted in
characters; a character outside ASCII is reported before any other.
-/

namespace Regenesis.Hex

-- ---------------------------------------------------------------------------
-- Writing
-- ---------------------------------------------------------------------------

/-- The two digits of a byte. -/
def ofByte (b : UInt8) : List Char := [Text.hexDigit (b.toNat / 16), Text.hexDigit (b.toNat % 16)]

/-- The digits of a byte string. -/
def digits (b : Octets) : List Char := b.flatMap ofByte

/-- The hex text of a byte string. -/
def encode (b : Octets) : String := String.ofList (digits b)

-- ---------------------------------------------------------------------------
-- Reading
-- ---------------------------------------------------------------------------

/-- The value of a hex digit of either case. -/
def digitValue? (c : Char) : Option Nat :=
  if '0' ≤ c ∧ c ≤ '9' then some (c.toNat - '0'.toNat)
  else if 'a' ≤ c ∧ c ≤ 'f' then some (c.toNat - 'a'.toNat + 10)
  else if 'A' ≤ c ∧ c ≤ 'F' then some (c.toNat - 'A'.toNat + 10)
  else none

/-- The bytes of a text of hex pairs and blanks, or the position of the first character that does
not fit; `position` counts the characters before the text. -/
def scan (position : Nat) : List Char → Except Nat Octets
  | [] => .ok []
  | c :: rest =>
    if Text.isAsciiBlank c then scan (position + 1) rest
    else
      match digitValue? c, rest with
      | none, _ => .error position
      | some _, [] => .error (position + 1)
      | some high, d :: rest =>
        match digitValue? d with
        | none => .error (position + 1)
        | some low => do
          let bytes ← scan (position + 2) rest
          return UInt8.ofNat (high * 16 + low) :: bytes

/-- The bytes that a hex text stands for, or the position of the character at fault. -/
def decode (s : String) : Except Nat Octets :=
  match s.toList.findIdx? fun c => 128 ≤ c.toNat with
  | some position => .error position
  | none => scan 0 s.toList

theorem hexDigit_isHex : ∀ n < 16, digitValue? (Text.hexDigit n) = some n ∧
    Text.isAsciiBlank (Text.hexDigit n) = false ∧ (Text.hexDigit n).toNat < 128 := by decide

/-- Reading the digits of a byte string gives it back. -/
theorem scan_digits (b : Octets) (position : Nat) : scan position (digits b) = .ok b := by
  induction b generalizing position with
  | nil => rfl
  | cons x rest ih =>
    have hx := x.toNat_lt
    obtain ⟨hhigh, hblank, -⟩ := hexDigit_isHex (x.toNat / 16) (by omega)
    obtain ⟨hlow, -, -⟩ := hexDigit_isHex (x.toNat % 16) (by omega)
    have hdigits : digits (x :: rest) =
        Text.hexDigit (x.toNat / 16) :: Text.hexDigit (x.toNat % 16) :: digits rest := rfl
    have hsum : x.toNat / 16 * 16 + x.toNat % 16 = x.toNat := by omega
    rw [hdigits]
    unfold scan
    simp [hblank, hhigh, hlow, ih, hsum, bind, Except.bind, pure, Except.pure]

theorem toNat_lt_of_mem_digits {b : Octets} {c : Char} (h : c ∈ digits b) : c.toNat < 128 := by
  obtain ⟨x, -, hc⟩ := List.mem_flatMap.1 h
  have hx := x.toNat_lt
  simp only [ofByte, List.mem_cons, List.not_mem_nil, or_false] at hc
  rcases hc with rfl | rfl
  · exact (hexDigit_isHex _ (by omega)).2.2
  · exact (hexDigit_isHex _ (by omega)).2.2

theorem decode_encode (b : Octets) : decode (encode b) = .ok b := by
  have hascii : (digits b).findIdx? (fun c => decide (128 ≤ c.toNat)) = none := by
    rw [List.findIdx?_eq_none_iff]
    intro c hc
    have := toNat_lt_of_mem_digits hc
    simp only [decide_eq_false_iff_not]
    omega
  simp only [decode, encode, String.toList_ofList, hascii, scan_digits]

/-- The canonical hex text of the same bytes. -/
def normalize (s : String) : Except Nat String := (decode s).map encode

end Regenesis.Hex

import Mathlib
import Regenesis.Json.Token
import Regenesis.Json.Writer
import Regenesis.Proofs.Decimal

/-!
# Proofs.Json.Scalars — texts and integers are found again

A text that is written between quotation marks is read back character by character, whatever follows
the closing mark: an escape never swallows what stands behind it. An integer is read back if it is
followed by nothing that could go on with a number.
-/

namespace Regenesis.Json.Token

-- ---------------------------------------------------------------------------
-- Characters
-- ---------------------------------------------------------------------------

/-- Four hex digits are read as the unit that they were written for. -/
theorem hexUnit?_hexDigits {n : Nat} (h : n < 0x10000) :
    ∃ a b c d, Text.hexDigits 4 n = [a, b, c, d] ∧ hexUnit? a b c d = some n := by
  refine ⟨_, _, _, _, rfl, ?_⟩
  obtain ⟨ha, -, -⟩ := Hex.hexDigit_isHex (n / 16 / 16 / 16 % 16) (by omega)
  obtain ⟨hb, -, -⟩ := Hex.hexDigit_isHex (n / 16 / 16 % 16) (by omega)
  obtain ⟨hc, -, -⟩ := Hex.hexDigit_isHex (n / 16 % 16) (by omega)
  obtain ⟨hd, -, -⟩ := Hex.hexDigit_isHex (n % 16) (by omega)
  have hsum : ((n / 16 / 16 / 16 % 16 * 16 + n / 16 / 16 % 16) * 16 + n / 16 % 16) * 16 + n % 16 =
      n := by omega
  rw [hexUnit?, ha, hb, hc, hd]
  exact congrArg some hsum

/-- Whether the form of every character is read as the character, whatever follows it. -/
def ReadsBack (form : Char → List Char) : Prop :=
  ∀ (c : Char) (rest : List Char),
    textBody (form c ++ rest) = (textBody rest).map fun (cs, tail) => (c :: cs, tail)

/-- A short escape is read as its character. -/
theorem textBody_short {c e : Char} (h : shortEscapeOf? c = some e) (rest : List Char) :
    textBody ('\\' :: e :: rest) = (textBody rest).map fun (cs, tail) => (c :: cs, tail) := by
  unfold shortEscapeOf? at h
  repeat' split at h
  -- one case for each of the letters, and one for characters without a short escape
  all_goals first
    | (obtain rfl := Option.some.inj h; subst_vars; simp [textBody, shortEscape?])
    | simp at h

/-- A plain character is read as itself. -/
theorem textBody_plain {c : Char} (hshort : shortEscapeOf? c = none) (hlow : 0x20 ≤ c.toNat)
    (rest : List Char) :
    textBody (c :: rest) = (textBody rest).map fun (cs, tail) => (c :: cs, tail) := by
  have hquote : c ≠ '"' := by
    rintro rfl
    exact absurd hshort (by decide)
  have hslash : c ≠ '\\' := by
    rintro rfl
    exact absurd hshort (by decide)
  rw [textBody]
  · rw [if_neg]
    rintro (h | h)
    · omega
    · exact hslash h
  all_goals
    intros
    simp_all

/-- A unit that is no half of a pair. -/
theorem textBody_escapeUnit {n : Nat} (h : n < 0x10000) (hpair : n < 0xD800 ∨ 0xE000 ≤ n)
    (rest : List Char) :
    textBody (escapeUnit n ++ rest) =
      (textBody rest).map fun (cs, tail) => (Char.ofNat n :: cs, tail) := by
  obtain ⟨a, b, c, d, hdigits, hunit⟩ := hexUnit?_hexDigits h
  have hform : escapeUnit n ++ rest = '\\' :: 'u' :: a :: b :: c :: d :: rest := by
    rw [escapeUnit, hdigits]
    rfl
  rw [hform, textBody, hunit]
  dsimp only
  rw [if_neg (by omega), if_neg (by omega)]

/-- Two units that are the halves of a pair. -/
theorem textBody_escapePair {high low : Nat} (hhigh : 0xD800 ≤ high ∧ high < 0xDC00)
    (hlow : 0xDC00 ≤ low ∧ low < 0xE000) (rest : List Char) :
    textBody (escapeUnit high ++ escapeUnit low ++ rest) =
      (textBody rest).map fun (cs, tail) => (pairChar high low :: cs, tail) := by
  have hhighUnit : high < 0x10000 := by omega
  have hlowUnit : low < 0x10000 := by omega
  obtain ⟨a, b, c, d, hdigits, hunit⟩ := hexUnit?_hexDigits hhighUnit
  obtain ⟨a', b', c', d', hdigits', hunit'⟩ := hexUnit?_hexDigits hlowUnit
  have hform : escapeUnit high ++ escapeUnit low ++ rest =
      '\\' :: 'u' :: a :: b :: c :: d :: '\\' :: 'u' :: a' :: b' :: c' :: d' :: rest := by
    rw [escapeUnit, escapeUnit, hdigits, hdigits']
    rfl
  rw [hform, textBody, hunit]
  dsimp only
  rw [if_pos hhigh]
  simp only [hunit', if_pos hlow]

/-- No character is a surrogate. -/
theorem toNat_not_surrogate (c : Char) : c.toNat < 0xD800 ∨ 0xE000 ≤ c.toNat := by
  rcases c.valid with h | h
  · exact Or.inl h
  · exact Or.inr (Nat.succ_le_of_lt h.1)

/-- Characters of hashed texts and files are read back. -/
theorem readsBack_writeCharAscii : ReadsBack writeCharAscii := by
  intro c rest
  unfold writeCharAscii
  split
  · rename_i e hshort
    exact textBody_short hshort rest
  · rename_i hshort
    split
    · rename_i hprint
      rw [Text.isPrintableAscii, Bool.and_eq_true, decide_eq_true_eq] at hprint
      exact textBody_plain hshort hprint.1 rest
    · split
      · rename_i hunit
        rw [textBody_escapeUnit hunit (toNat_not_surrogate c), Char.ofNat_toNat]
      · -- beyond the units: the pair stands for what is left after taking off their number
        -- a character is never beyond the planes that pairs can reach
        have hmax : c.toNat < 0x110000 := by
          rcases c.valid with h | h
          · exact lt_trans h (by decide)
          · exact h.2
        have hpair : pairChar (0xD800 + (c.toNat - 0x10000) / 0x400)
            (0xDC00 + (c.toNat - 0x10000) % 0x400) = c := by
          have hsum : 0x10000 + (0xD800 + (c.toNat - 0x10000) / 0x400 - 0xD800) * 0x400 +
              (0xDC00 + (c.toNat - 0x10000) % 0x400 - 0xDC00) = c.toNat := by omega
          rw [pairChar, hsum, Char.ofNat_toNat]
        rw [textBody_escapePair (by omega) (by omega), hpair]

/-- Characters of stored records are read back. -/
theorem readsBack_writeChar : ReadsBack writeChar := by
  intro c rest
  unfold writeChar
  split
  · rename_i e hshort
    exact textBody_short hshort rest
  · rename_i hshort
    split
    · rename_i hcontrol
      rw [textBody_escapeUnit (by omega) (toNat_not_surrogate c), Char.ofNat_toNat]
    · rename_i hcontrol
      exact textBody_plain hshort (by omega) rest

/-- A text is read up to its closing mark. -/
theorem textBody_flatMap {form : Char → List Char} (h : ReadsBack form) (cs rest : List Char) :
    textBody (cs.flatMap form ++ '"' :: rest) = some (cs, rest) := by
  induction cs with
  | nil => rw [List.flatMap_nil, List.nil_append, textBody]
  | cons c cs ih =>
    rw [List.flatMap_cons, List.append_assoc, h c, ih]
    rfl

-- ---------------------------------------------------------------------------
-- Integers
-- ---------------------------------------------------------------------------

/-- Whether a text cannot go on with a number that stands before it. -/
def EndsNumber (rest : List Char) : Prop :=
  ∀ c tail, rest = c :: tail → c.isDigit = false ∧ c ≠ '.' ∧ c ≠ 'e' ∧ c ≠ 'E'

theorem endsNumber_nil : EndsNumber [] := by
  intro c tail h
  exact nomatch h

/-- A character that is no part of a number ends it. -/
theorem endsNumber_cons {c : Char} {rest : List Char}
    (h : c.isDigit = false ∧ c ≠ '.' ∧ c ≠ 'e' ∧ c ≠ 'E') : EndsNumber (c :: rest) := by
  intro c' tail heq
  rw [← (List.cons.inj heq).1]
  exact h

/-- Digits are read as far as they go. -/
theorem span_digits {ds rest : List Char} (hds : ∀ d ∈ ds, d.isDigit = true)
    (hrest : EndsNumber rest) :
    (ds ++ rest).takeWhile Char.isDigit = ds ∧ (ds ++ rest).span Char.isDigit = (ds, rest) := by
  have htake : (ds ++ rest).takeWhile Char.isDigit = ds := by
    rw [List.takeWhile_append_of_pos hds]
    cases rest with
    | nil => simp
    | cons c tail => simp [(hrest c tail rfl).1]
  have hdrop : (ds ++ rest).dropWhile Char.isDigit = rest := by
    rw [List.dropWhile_append_of_pos hds]
    cases rest with
    | nil => rfl
    | cons c tail => simp [(hrest c tail rfl).1]
  exact ⟨htake, by rw [List.span_eq_takeWhile_dropWhile, htake, hdrop]⟩

/-- The digits of a number begin with a zero only if there is no other digit. -/
theorem natDigits_zero_cons {n : Nat} {ds : List Char} (h : Decimal.natDigits n = '0' :: ds) :
    ds = [] := by
  induction n using Nat.strongRecOn generalizing ds with
  | ind n ih =>
    by_cases hn : n < 10
    · rw [Decimal.natDigits, Nat.toDigits_of_lt_base hn] at h
      exact (List.cons.inj h).2.symm
    · have hsplit : Decimal.natDigits n = Decimal.natDigits (n / 10) ++ [(n % 10).digitChar] :=
        Nat.toDigits_of_base_le (by omega) (by omega)
      obtain ⟨d, ds', hhead⟩ := List.exists_cons_of_ne_nil (Decimal.natDigits_ne_nil (n / 10))
      rw [hsplit, hhead, List.cons_append] at h
      have hzero : Decimal.natDigits (n / 10) = '0' :: ds' := by rw [hhead, (List.cons.inj h).1]
      have hnil := ih (n / 10) (by omega) hzero
      -- the number above the last digit would be zero
      rw [hnil] at hzero
      have hdiv : n / 10 = 0 := Decimal.natDigits_injective (hzero.trans (by decide))
      omega

/-- The digits of a number are read as a whole part. -/
theorem wholePart?_natDigits (n : Nat) {rest : List Char} (hrest : EndsNumber rest) :
    wholePart? (Decimal.natDigits n ++ rest) = some (Decimal.natDigits n, rest) := by
  have hdigits : ∀ d ∈ Decimal.natDigits n, d.isDigit = true :=
    fun d => Decimal.isDigit_of_mem_natDigits
  obtain ⟨htake, hspan⟩ := span_digits hdigits hrest
  obtain ⟨d, ds, hds⟩ := List.exists_cons_of_ne_nil (Decimal.natDigits_ne_nil n)
  by_cases hd : d = '0'
  · rw [hd] at hds
    have hnil := natDigits_zero_cons hds
    rw [hds, hnil]
    rfl
  · rw [wholePart?, htake, hspan, List.isEmpty_eq_false_iff.2 (Decimal.natDigits_ne_nil n)]
    · rfl
    · intro tail htail
      rw [hds, List.cons_append] at htail
      exact hd (List.cons.inj htail).1

/-- Where a number ends, it has no fraction. -/
theorem fraction?_of_endsNumber {rest : List Char} (hrest : EndsNumber rest) :
    fraction? rest = some ([], rest) := by
  unfold fraction?
  split
  · rename_i cs
    exact absurd rfl (hrest '.' cs rfl).2.1
  · rfl

/-- Where a number ends, it has no exponent. -/
theorem exponent?_of_endsNumber {rest : List Char} (hrest : EndsNumber rest) :
    exponent? rest = some (none, rest) := by
  unfold exponent?
  split
  · rename_i c cs
    obtain ⟨-, -, he, hE⟩ := hrest c cs rfl
    rw [if_neg]
    rintro (h | h)
    · exact he h
    · exact hE h
  · rfl

/-- Digits that nothing goes on with are read as an integer. -/
theorem number?_natDigits {maxLength : Option Nat} {n : Nat}
    (hlength : maxLength.any (· < (Decimal.natDigits n).length) = false) (negative : Bool)
    {rest : List Char} (hrest : EndsNumber rest) :
    number? maxLength negative (Decimal.natDigits n ++ rest) =
      some (.int (if negative then -(n : Int) else n), rest) := by
  have hvalue : digitsValue (Decimal.natDigits n) = n := Decimal.valueFrom_natDigits n
  rw [number?, wholePart?_natDigits n hrest]
  simp only [Option.bind_eq_bind, Option.bind_some, hlength, Bool.false_eq_true, if_false,
    fraction?_of_endsNumber hrest, exponent?_of_endsNumber hrest, List.isEmpty_nil,
    Option.isNone_none, and_self, if_true, hvalue]

end Regenesis.Json.Token

import Mathlib
import Regenesis.Failure
import Regenesis.Proofs.Outcome

/-!
# Proofs.Hex — texts of byte strings

The hex text of a byte string is read back, so no two byte strings share one. It is in normal form:
pairs of digits without capitals and nothing else (`IsCanonicalHex`), and texts in normal form are
the same exactly if they stand for the same bytes. Digits are in the order of their values, so texts
in normal form are in the order of the byte strings, too (`encode_lt_encode_iff`).

What is read is a language of its own (`Spells`): pairs of digits of either case, with blanks
before, between and behind them. Normalising makes small pairs of these pairs and leaves out the
blanks: `normalizeText_canonical`.
-/

namespace Regenesis

namespace Hex

-- ---------------------------------------------------------------------------
-- Writing
-- ---------------------------------------------------------------------------

/-- Bytes are read from their hex text. -/
theorem readText_encode (b : Octets) : readText (encode b) = .ok b := by
  rw [readText, decode_encode]

/-- Bytes never share their hex text. -/
theorem encode_injective {a b : Octets} (h : encode a = encode b) : a = b := by
  have hab : decode (encode a) = decode (encode b) := by rw [h]
  rw [decode_encode, decode_encode] at hab
  exact Except.ok.inj hab

/-- Bytes never share their hex digits. -/
theorem digits_injective {a b : Octets} (h : digits a = digits b) : a = b :=
  encode_injective (congrArg String.ofList h)

theorem digits_cons (x : UInt8) (b : Octets) : digits (x :: b) = ofByte x ++ digits b :=
  List.flatMap_cons

/-- The digits of the byte that two values make. -/
theorem ofByte_ofNat {m n : Nat} (hm : m < 16) (hn : n < 16) :
    ofByte (UInt8.ofNat (m * 16 + n)) = [Text.hexDigit m, Text.hexDigit n] := by
  have hvalue : (UInt8.ofNat (m * 16 + n)).toNat = m * 16 + n := by
    rw [UInt8.toNat_ofNat', Nat.mod_eq_of_lt]
    omega
  have hhigh : (m * 16 + n) / 16 = m := by omega
  have hlow : (m * 16 + n) % 16 = n := by omega
  rw [ofByte, hvalue, hhigh, hlow]

-- ---------------------------------------------------------------------------
-- Normal form
-- ---------------------------------------------------------------------------

/-- The hex digits without capitals. -/
def smallDigits : List Char :=
  ['0', '1', '2', '3', '4', '5', '6', '7', '8', '9', 'a', 'b', 'c', 'd', 'e', 'f']

end Hex

/-- Whether a text is pairs of hex digits, of which none is a capital, with nothing between them. -/
def IsCanonicalHex (s : String) : Prop :=
  s.length % 2 = 0 ∧ ∀ c ∈ s.toList, c ∈ Hex.smallDigits

namespace Hex

theorem smallDigits_eq : smallDigits = (List.range 16).map Text.hexDigit := by decide

theorem mem_smallDigits {c : Char} : c ∈ smallDigits ↔ ∃ n < 16, Text.hexDigit n = c := by
  rw [smallDigits_eq, List.mem_map]
  simp only [List.mem_range]

/-- What bytes are written as is in normal form. -/
theorem isCanonicalHex_encode (b : Octets) : IsCanonicalHex (encode b) := by
  have hlength : (digits b).length = 2 * b.length := by
    induction b with
    | nil => rfl
    | cons x rest ih =>
      rw [digits_cons, List.length_append, List.length_cons, ih]
      have hbyte : (ofByte x).length = 2 := rfl
      omega
  constructor
  · rw [encode, String.length_ofList, hlength]
    omega
  · intro c hc
    rw [encode, String.toList_ofList] at hc
    obtain ⟨x, -, hx⟩ := List.mem_flatMap.1 hc
    have hlt := x.toNat_lt
    rcases List.mem_pair.1 hx with rfl | rfl
    · exact mem_smallDigits.2 ⟨_, by omega, rfl⟩
    · exact mem_smallDigits.2 ⟨_, by omega, rfl⟩

/-- Digits in pairs are the digits of a byte string. -/
theorem exists_digits {cs : List Char} (heven : cs.length % 2 = 0)
    (hdigits : ∀ c ∈ cs, c ∈ smallDigits) : ∃ b, digits b = cs := by
  match cs, heven with
  | [], _ => exact ⟨[], rfl⟩
  | high :: low :: rest, heven =>
    obtain ⟨m, hm, rfl⟩ := mem_smallDigits.1 (hdigits high List.mem_cons_self)
    obtain ⟨n, hn, rfl⟩ :=
      mem_smallDigits.1 (hdigits low (List.mem_cons_of_mem _ List.mem_cons_self))
    rw [List.length_cons, List.length_cons] at heven
    have hrest : ∀ c ∈ rest, c ∈ smallDigits :=
      fun c hc => hdigits c (List.mem_cons_of_mem _ (List.mem_cons_of_mem _ hc))
    obtain ⟨b, rfl⟩ := exists_digits (show rest.length % 2 = 0 by omega) hrest
    exact ⟨UInt8.ofNat (m * 16 + n) :: b, by rw [digits_cons, ofByte_ofNat hm hn]; rfl⟩

end Hex

namespace IsCanonicalHex

variable {s t : String}

/-- A text in normal form is what some bytes are written as. -/
theorem exists_encode (h : IsCanonicalHex s) : ∃ b, s = Hex.encode b := by
  have heven : s.toList.length % 2 = 0 := by
    rw [String.length_toList]
    exact h.1
  obtain ⟨b, hb⟩ := Hex.exists_digits heven h.2
  exact ⟨b, by rw [Hex.encode, hb, String.ofList_toList]⟩

/-- **One text for the same bytes.** -/
theorem eq_iff (hs : IsCanonicalHex s) (ht : IsCanonicalHex t) :
    ∃ b c, Hex.decode s = .ok b ∧ Hex.decode t = .ok c ∧ (s = t ↔ b = c) := by
  obtain ⟨b, rfl⟩ := hs.exists_encode
  obtain ⟨c, rfl⟩ := ht.exists_encode
  refine ⟨b, c, Hex.decode_encode b, Hex.decode_encode c, Hex.encode_injective, ?_⟩
  rintro rfl
  rfl

end IsCanonicalHex

namespace Hex

-- ---------------------------------------------------------------------------
-- Order
-- ---------------------------------------------------------------------------

/-- Digits are in the order of their values: ten figures, and then letters. -/
theorem hexDigit_lt_hexDigit_iff :
    ∀ m < 16, ∀ n < 16, Text.hexDigit m < Text.hexDigit n ↔ m < n := by decide

/-- Sixteen numbers have sixteen digits. -/
theorem hexDigit_inj : ∀ m < 16, ∀ n < 16, Text.hexDigit m = Text.hexDigit n ↔ m = n := by decide

/-- Digits of byte strings are in the order of the byte strings. A byte that differs decides, and
with it the first of its two digits that differs. -/
theorem digits_lt_digits_iff {a b : Octets} : digits a < digits b ↔ a < b := by
  induction a generalizing b with
  | nil =>
    cases b with
    | nil => exact iff_of_false (List.lt_irrefl _) (List.lt_irrefl _)
    | cons y b => exact iff_of_true (List.nil_lt_cons _ _) (List.nil_lt_cons _ _)
  | cons x a ih =>
    cases b with
    | nil => exact iff_of_false (List.not_lt_nil _) (List.not_lt_nil _)
    | cons y b =>
      have hx := x.toNat_lt
      have hy := y.toNat_lt
      -- a byte is compared digit by digit: by its quotient by 16, then by its remainder
      have hhigh : x.toNat / 16 < 16 ∧ y.toNat / 16 < 16 := by omega
      have hlow : x.toNat % 16 < 16 ∧ y.toNat % 16 < 16 := by omega
      rw [digits_cons, digits_cons, ofByte, ofByte]
      simp only [List.cons_append, List.nil_append, List.cons_lt_cons_iff, ih,
        hexDigit_lt_hexDigit_iff _ hhigh.1 _ hhigh.2, hexDigit_inj _ hhigh.1 _ hhigh.2,
        hexDigit_lt_hexDigit_iff _ hlow.1 _ hlow.2, hexDigit_inj _ hlow.1 _ hlow.2,
        UInt8.lt_iff_toNat_lt, ← UInt8.toNat_inj]
      constructor
      · rintro (hlt | ⟨heq, hlt | ⟨heq', hlt⟩⟩)
        · exact Or.inl (by omega)
        · exact Or.inl (by omega)
        · exact Or.inr ⟨by omega, hlt⟩
      · rintro (hlt | ⟨heq, hlt⟩)
        · by_cases heq : x.toNat / 16 = y.toNat / 16
          · exact Or.inr ⟨heq, Or.inl (by omega)⟩
          · exact Or.inl (by omega)
        · exact Or.inr ⟨by rw [heq], Or.inr ⟨by rw [heq], hlt⟩⟩

/-- Hex texts are in the order of their bytes. -/
theorem encode_lt_encode_iff {a b : Octets} : encode a < encode b ↔ a < b := by
  rw [String.lt_iff_toList_lt, encode, encode, String.toList_ofList, String.toList_ofList,
    digits_lt_digits_iff]

-- ---------------------------------------------------------------------------
-- The language of hex texts
-- ---------------------------------------------------------------------------

/-- The hex digits of either case. -/
def bothCases : List Char := smallDigits ++ ['A', 'B', 'C', 'D', 'E', 'F']

/-- The blanks of ASCII. -/
def blanks : List Char := [' ', '\t', '\n', Char.ofNat 11, Char.ofNat 12, '\r']

/-- Whether a text is a row of pairs of hex digits, with blanks before, between and behind the
pairs, though not inside one. -/
inductive Spells : List Char → List (Char × Char) → Prop where
  | nil : Spells [] []
  | blank {c : Char} {cs : List Char} {ps : List (Char × Char)} :
      c ∈ blanks → Spells cs ps → Spells (c :: cs) ps
  | pair {high low : Char} {cs : List Char} {ps : List (Char × Char)} :
      high ∈ bothCases → low ∈ bothCases → Spells cs ps →
        Spells (high :: low :: cs) ((high, low) :: ps)

/-- The characters of pairs without capitals. -/
def smallPairs (ps : List (Char × Char)) : List Char :=
  ps.flatMap fun p => [p.1.toLower, p.2.toLower]

theorem smallPairs_cons (high low : Char) (ps : List (Char × Char)) :
    smallPairs ((high, low) :: ps) = [high.toLower, low.toLower] ++ smallPairs ps :=
  List.flatMap_cons

/-- The capitals among the digits are read, and made small, as the small letters are. -/
theorem capitals_read : ∀ n < 6, digitValue? (Char.ofNat (65 + n)) = some (10 + n) ∧
    (Char.ofNat (65 + n)).toLower = Text.hexDigit (10 + n) ∧
    Text.isAsciiBlank (Char.ofNat (65 + n)) = false ∧ (Char.ofNat (65 + n)).toNat < 128 := by
  decide

/-- The digits that are written have no capitals. -/
theorem toLower_hexDigit : ∀ n < 16, (Text.hexDigit n).toLower = Text.hexDigit n := by decide

/-- A digit in either case is a written one, or one of six capitals. -/
theorem mem_bothCases {c : Char} : c ∈ bothCases ↔
    (∃ n < 16, Text.hexDigit n = c) ∨ ∃ n < 6, Char.ofNat (65 + n) = c := by
  have hcapitals : ['A', 'B', 'C', 'D', 'E', 'F'] =
      (List.range 6).map fun n => Char.ofNat (65 + n) := by decide
  rw [bothCases, List.mem_append, mem_smallDigits, hcapitals, List.mem_map]
  simp only [List.mem_range]

/-- A digit has the value of the small digit, and is no blank. -/
theorem digitValue_of_mem {c : Char} (h : c ∈ bothCases) : ∃ n < 16, digitValue? c = some n ∧
    c.toLower = Text.hexDigit n ∧ Text.isAsciiBlank c = false ∧ c.toNat < 128 := by
  rcases mem_bothCases.1 h with ⟨n, hn, rfl⟩ | ⟨n, hn, rfl⟩
  · obtain ⟨hvalue, hblank, hascii⟩ := hexDigit_isHex n hn
    exact ⟨n, hn, hvalue, toLower_hexDigit n hn, hblank, hascii⟩
  · exact ⟨10 + n, by omega, capitals_read n hn⟩

/-- A character with the code point of another one is that one. -/
theorem ofNat_eq_of_toNat {c : Char} {k : Nat} (h : c.toNat = k) : Char.ofNat k = c := by
  rw [← h, Char.ofNat_toNat]

/-- Only digits have values. -/
theorem mem_of_digitValue {c : Char} {n : Nat} (h : digitValue? c = some n) : c ∈ bothCases := by
  -- the three ranges of the reader, each matched with the digits it stands for
  have hfigures : ∀ n < 10, Char.ofNat (48 + n) = Text.hexDigit n := by decide
  have hletters : ∀ n < 6, Char.ofNat (97 + n) = Text.hexDigit (10 + n) := by decide
  rw [mem_bothCases]
  rw [digitValue?] at h
  split at h
  · rename_i hrange
    have hlow : 48 ≤ c.toNat := hrange.1
    have hhigh : c.toNat ≤ 57 := hrange.2
    refine Or.inl ⟨c.toNat - 48, by omega, ?_⟩
    rw [← hfigures _ (by omega)]
    exact ofNat_eq_of_toNat (by omega)
  · split at h
    · rename_i hrange
      have hlow : 97 ≤ c.toNat := hrange.1
      have hhigh : c.toNat ≤ 102 := hrange.2
      refine Or.inl ⟨10 + (c.toNat - 97), by omega, ?_⟩
      rw [← hletters _ (by omega)]
      exact ofNat_eq_of_toNat (by omega)
    · split at h
      · rename_i hrange
        have hlow : 65 ≤ c.toNat := hrange.1
        have hhigh : c.toNat ≤ 70 := hrange.2
        exact Or.inr ⟨c.toNat - 65, by omega, ofNat_eq_of_toNat (by omega)⟩
      · cases h

theorem isAsciiBlank_of_mem {c : Char} (h : c ∈ blanks) :
    Text.isAsciiBlank c = true ∧ c.toNat < 128 := by
  have hall : blanks.all (fun c => Text.isAsciiBlank c && decide (c.toNat < 128)) = true := by
    decide
  have hc := List.all_eq_true.1 hall c h
  rwa [Bool.and_eq_true, decide_eq_true_eq] at hc

/-- There are no other blanks than the six of ASCII. -/
theorem mem_of_isAsciiBlank {c : Char} (h : Text.isAsciiBlank c = true) : c ∈ blanks := by
  have hcontrols : ∀ n < 5, Char.ofNat (9 + n) ∈ blanks := by decide
  simp only [Text.isAsciiBlank, Bool.or_eq_true, beq_iff_eq, Bool.and_eq_true,
    decide_eq_true_eq] at h
  rcases h with hspace | ⟨hlow, hhigh⟩
  · rw [← ofNat_eq_of_toNat hspace]
    exact List.mem_cons_self
  · have hcode : c.toNat = 9 + (c.toNat - 9) := by omega
    rw [← ofNat_eq_of_toNat hcode]
    exact hcontrols _ (by omega)

/-- A text of pairs and blanks is ASCII. -/
theorem Spells.isAscii {cs : List Char} {ps : List (Char × Char)} (h : Spells cs ps) :
    ∀ c ∈ cs, c.toNat < 128 := by
  induction h with
  | nil => exact List.forall_mem_nil _
  | blank hc _ ih =>
    exact List.forall_mem_cons.2 ⟨(isAsciiBlank_of_mem hc).2, ih⟩
  | pair hhigh hlow _ ih =>
    obtain ⟨-, -, -, -, -, hhigh⟩ := digitValue_of_mem hhigh
    obtain ⟨-, -, -, -, -, hlow⟩ := digitValue_of_mem hlow
    exact List.forall_mem_cons.2 ⟨hhigh, List.forall_mem_cons.2 ⟨hlow, ih⟩⟩

-- ---------------------------------------------------------------------------
-- Reading
-- ---------------------------------------------------------------------------

/-- A text of the language is read as the bytes of its pairs. -/
theorem scan_of_spells {cs : List Char} {ps : List (Char × Char)} (h : Spells cs ps)
    (position : Nat) : ∃ b, scan position cs = .ok b ∧ digits b = smallPairs ps := by
  induction h generalizing position with
  | nil => exact ⟨[], rfl, rfl⟩
  | blank hc _ ih =>
    obtain ⟨b, hb, hdigits⟩ := ih (position + 1)
    refine ⟨b, ?_, hdigits⟩
    unfold scan
    rw [if_pos (isAsciiBlank_of_mem hc).1, hb]
  | pair hhigh hlow _ ih =>
    obtain ⟨m, hm, hhigh, hsmall, hblank, -⟩ := digitValue_of_mem hhigh
    obtain ⟨n, hn, hlow, hsmall', -, -⟩ := digitValue_of_mem hlow
    obtain ⟨b, hb, hdigits⟩ := ih (position + 2)
    refine ⟨UInt8.ofNat (m * 16 + n) :: b, ?_, ?_⟩
    · unfold scan
      simp only [hblank, Bool.false_eq_true, if_false, hhigh, hlow, hb]
      rfl
    · rw [digits_cons, ofByte_ofNat hm hn, smallPairs_cons, hsmall, hsmall', hdigits]

/-- Only texts of the language are read. -/
theorem spells_of_scan {position : Nat} {cs : List Char} {b : Octets}
    (h : scan position cs = .ok b) : ∃ ps, Spells cs ps := by
  fun_induction scan position cs generalizing b with
  | case1 => exact ⟨[], .nil⟩
  | case2 position c rest hblank ih =>
    obtain ⟨ps, hps⟩ := ih h
    exact ⟨ps, .blank (mem_of_isAsciiBlank hblank) hps⟩
  | case3 => cases h
  | case4 => cases h
  | case5 => cases h
  | case6 position c hblank m d rest hhigh n hlow ih =>
    obtain ⟨bytes, hbytes, -⟩ := Outcome.bind_eq_ok.1 h
    obtain ⟨ps, hps⟩ := ih hbytes
    exact ⟨_, .pair (mem_of_digitValue hhigh) (mem_of_digitValue hlow) hps⟩

/-- **Reading.** What is read of a text is what its pairs say; nothing is read of other texts. -/
theorem decode_eq_ok_iff {s : String} {b : Octets} :
    decode s = .ok b ↔ ∃ ps, Spells s.toList ps ∧ digits b = smallPairs ps := by
  constructor
  · intro h
    have hscan : scan 0 s.toList = .ok b := by
      rw [decode] at h
      split at h
      · cases h
      · exact h
    obtain ⟨ps, hps⟩ := spells_of_scan hscan
    obtain ⟨b', hb', hdigits⟩ := scan_of_spells hps 0
    rw [hb'] at hscan
    exact ⟨ps, hps, Except.ok.inj hscan ▸ hdigits⟩
  · rintro ⟨ps, hps, hdigits⟩
    obtain ⟨b', hb', hdigits'⟩ := scan_of_spells hps 0
    have hascii : (s.toList.findIdx? fun c => decide (128 ≤ c.toNat)) = none := by
      simp only [List.findIdx?_eq_none_iff, decide_eq_false_iff_not, not_le]
      exact hps.isAscii
    rw [decode, hascii, digits_injective (hdigits.trans hdigits'.symm)]
    exact hb'

theorem readText_eq_ok_iff {s : String} {b : Octets} : readText s = .ok b ↔ decode s = .ok b := by
  rw [readText]
  cases decode s with
  | error position => exact iff_of_false nofun nofun
  | ok b' => exact ⟨fun h => congrArg _ (Except.ok.inj h), fun h => congrArg _ (Except.ok.inj h)⟩

/-- A text is normalised by reading it and writing what was read. -/
theorem normalizeText_eq (s : String) : normalizeText s =
    match readText s with
    | .ok b => .ok (encode b)
    | .error _ => .error (.value (.notHex s)) := by
  rw [normalizeText, normalize, readText]
  cases decode s with
  | error position => rfl
  | ok b => rfl

/-- To normalise a text is to read its bytes and to write them again. -/
theorem normalizeText_eq_ok {s t : String} :
    normalizeText s = .ok t ↔ ∃ b, readText s = .ok b ∧ t = encode b := by
  rw [normalizeText_eq]
  cases readText s with
  | error e => exact iff_of_false nofun nofun
  | ok b =>
    constructor
    · intro h
      exact ⟨b, rfl, (Except.ok.inj h).symm⟩
    · rintro ⟨b', hb', rfl⟩
      rw [Except.ok.inj hb']

/-- **Normal form.** A text is normalised if and only if it is pairs of hex digits with blanks
around them, and then to its pairs without capitals; any other text is refused. The result has an
even length and no blank, stands for the same bytes as the text, and is its own normal form. Two
results are the same if and only if the texts stand for the same bytes, and they are in the order of
the bytes. -/
theorem normalizeText_canonical (s : String) :
    (∀ t, normalizeText s = .ok t ↔
      ∃ ps, Spells s.toList ps ∧ t = String.ofList (smallPairs ps)) ∧
    ((¬∃ ps, Spells s.toList ps) → normalizeText s = .error (.value (.notHex s))) ∧
    ∀ t, normalizeText s = .ok t →
      t.length % 2 = 0 ∧ (∀ c ∈ t.toList, c ∉ blanks) ∧ normalizeText t = .ok t ∧
      ∃ b, readText s = .ok b ∧ readText t = .ok b ∧
        ∀ s' t', normalizeText s' = .ok t' →
          ∃ b', readText s' = .ok b' ∧ (t = t' ↔ b = b') ∧ (t < t' ↔ b < b') := by
  refine ⟨fun t => ?_, fun hno => ?_, fun t ht => ?_⟩
  · rw [normalizeText_eq_ok]
    constructor
    · rintro ⟨b, hb, rfl⟩
      obtain ⟨ps, hps, hdigits⟩ := decode_eq_ok_iff.1 (readText_eq_ok_iff.1 hb)
      exact ⟨ps, hps, congrArg String.ofList hdigits⟩
    · rintro ⟨ps, hps, rfl⟩
      obtain ⟨b, -, hdigits⟩ := scan_of_spells hps 0
      have hread := readText_eq_ok_iff.2 (decode_eq_ok_iff.2 ⟨ps, hps, hdigits⟩)
      exact ⟨b, hread, congrArg String.ofList hdigits.symm⟩
  · rw [normalizeText_eq]
    cases hread : readText s with
    | error e => rfl
    | ok b =>
      obtain ⟨ps, hps, -⟩ := decode_eq_ok_iff.1 (readText_eq_ok_iff.1 hread)
      exact absurd ⟨ps, hps⟩ hno
  · obtain ⟨b, hb, rfl⟩ := normalizeText_eq_ok.1 ht
    obtain ⟨heven, hsmall⟩ := isCanonicalHex_encode b
    refine ⟨heven, fun c hc hblank => ?_,
      normalizeText_eq_ok.2 ⟨b, readText_encode b, rfl⟩, b, hb, readText_encode b, ?_⟩
    · obtain ⟨-, -, -, -, hdigit, -⟩ := digitValue_of_mem (List.mem_append_left _ (hsmall c hc))
      rw [(isAsciiBlank_of_mem hblank).1] at hdigit
      cases hdigit
    · intro s' t' ht'
      obtain ⟨b', hb', rfl⟩ := normalizeText_eq_ok.1 ht'
      exact ⟨b', hb', ⟨encode_injective, congrArg encode⟩, encode_lt_encode_iff⟩

/-- Two spellings of two bytes. -/
theorem normalizeText_canonical_spellings :
    normalizeText " aB\n0F " = .ok "ab0f" ∧ normalizeText "AB0f" = .ok "ab0f" ∧
      ∃ b, readText " aB\n0F " = .ok b ∧ readText "AB0f" = .ok b := by
  have hspells : Spells " aB\n0F ".toList [('a', 'B'), ('0', 'F')] := by
    have hlist : " aB\n0F ".toList = [' ', 'a', 'B', '\n', '0', 'F', ' '] := by decide
    rw [hlist]
    exact .blank (by decide) (.pair (by decide) (by decide)
      (.blank (by decide) (.pair (by decide) (by decide) (.blank (by decide) .nil))))
  have hspells' : Spells "AB0f".toList [('A', 'B'), ('0', 'f')] := by
    have hlist : "AB0f".toList = ['A', 'B', '0', 'f'] := by decide
    rw [hlist]
    exact .pair (by decide) (by decide) (.pair (by decide) (by decide) .nil)
  have hfirst := normalizeText_canonical " aB\n0F "
  have hsecond := normalizeText_canonical "AB0f"
  have hok : normalizeText " aB\n0F " = .ok "ab0f" := (hfirst.1 _).2 ⟨_, hspells, by decide⟩
  have hok' : normalizeText "AB0f" = .ok "ab0f" := (hsecond.1 _).2 ⟨_, hspells', by decide⟩
  obtain ⟨-, -, -, b, hb, -, hothers⟩ := hfirst.2.2 _ hok
  obtain ⟨b', hb', heq, -⟩ := hothers _ _ hok'
  exact ⟨hok, hok', b, hb, by rw [hb', heq.1 rfl]⟩

end Hex

end Regenesis

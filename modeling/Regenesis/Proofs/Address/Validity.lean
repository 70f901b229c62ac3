import Mathlib
import Regenesis.Proofs.Address.Checksum

/-!
# Proofs.Address.Validity — which texts are addresses

What is read was written: six groups that are right behind a label and groups are their checksum, a
register that takes them in from empty being the number of which they are the digits. Bits that are
read as bytes fill up five-bit groups again as they came. So a text is read exactly if it is, in one
case, the text of a label and a byte string, and the addresses are the texts of twenty bytes.

* `Bech32.eq_checksum_of_verify` — a right checksum is the checksum.
* `Bech32.toGroups_of_ofGroups?` — groups that are read as bytes are the groups of these bytes.
* `Bech32.decode?_eq_some_iff` — a text is read exactly if it was written, in one case.
* `Address.isValid_iff_written` — addresses are read as written, nothing else is valid, and no two
  of them have one text.
* `Address.isValid_long` — the label of a valid address can be longer than 51 characters.
-/

namespace Regenesis

namespace Bech32

variable {label cs : List Char} {groups sums : List Nat} {b : Octets}

-- ---------------------------------------------------------------------------
-- The checksum
-- ---------------------------------------------------------------------------

/-- A register with its top five bits empty takes in a group as its last digit. -/
theorem polymodStep_of_lt {n g : Nat} (hn : n < 2 ^ 25) (hg : g < 32) :
    polymodStep n g = n * 32 + g := by
  have hfive : (n * 32 + g) >>> (0 + 5) = n := by
    rw [Nat.shiftRight_eq_div_pow]
    omega
  have hlow : (n * 32 + g) >>> 0 &&& 31 = g := by
    rw [Nat.shiftRight_zero, show (31 : Nat) = 2 ^ 5 - 1 from rfl, Nat.and_two_pow_sub_one_eq_mod]
    omega
  have hdigit := @polymodStep_digit (n * 32 + g) 0 (by rw [hfive]; exact hn)
  rwa [hfive, hlow, Nat.shiftRight_zero] at hdigit

/-- The digits of what an empty register takes in are what it took in. -/
theorem digits_foldl_polymodStep (hlength : sums.length = 6) (h : ∀ g ∈ sums, g < 32) :
    digits (sums.foldl polymodStep 0) = sums := by
  obtain ⟨a, b, c, d, e, f, rfl⟩ : ∃ a b c d e f, sums = [a, b, c, d, e, f] := by
    match sums, hlength with
    | [a, b, c, d, e, f], _ => exact ⟨a, b, c, d, e, f, rfl⟩
  simp only [List.forall_mem_cons] at h
  obtain ⟨ha, hb, hc, hd, he, hf, -⟩ := h
  -- six groups have thirty bits, so that no generator comes in before the last of them
  have hfold : [a, b, c, d, e, f].foldl polymodStep 0 =
      ((((a * 32 + b) * 32 + c) * 32 + d) * 32 + e) * 32 + f := by
    simp only [List.foldl_cons, List.foldl_nil]
    rw [polymodStep_of_lt (by omega) ha, Nat.zero_mul, Nat.zero_add,
      polymodStep_of_lt (by omega) hb, polymodStep_of_lt (by omega) hc,
      polymodStep_of_lt (by omega) hd, polymodStep_of_lt (by omega) he,
      polymodStep_of_lt (by omega) hf]
  have hmod : ∀ n : Nat, n &&& 31 = n % 32 := fun n => Nat.and_two_pow_sub_one_eq_mod n 5
  rw [hfold, digits]
  simp only [List.map_cons, List.map_nil, Nat.shiftRight_eq_div_pow, hmod, List.cons.injEq,
    and_true]
  omega

/-- **Checksum.** Six groups that are right for a label and groups are their checksum. -/
theorem eq_checksum_of_verify (hlength : sums.length = 6) (h : ∀ g ∈ sums, g < 32)
    (hverify : verify label (groups ++ sums) = true) : sums = checksum label groups := by
  rw [verify, beq_iff_eq, ← List.append_assoc, polymod_append] at hverify
  have hzeros : (sums.map fun _ => 0) = [0, 0, 0, 0, 0, 0] := by
    rw [List.map_const', hlength]
    rfl
  -- what the groups add in an empty register is what six zeros leave behind the others, and one
  have hadd := foldl_polymodStep_xor sums (polymod (expandLabel label ++ groups)) 0
  rw [Nat.xor_zero, hverify, hzeros] at hadd
  have hsum : sums.foldl polymodStep 0 =
      [0, 0, 0, 0, 0, 0].foldl polymodStep (polymod (expandLabel label ++ groups)) ^^^ 1 := by
    rw [hadd, ← Nat.xor_assoc, Nat.xor_self, Nat.zero_xor]
  rw [checksum_eq_digits, ← hsum, digits_foldl_polymodStep hlength h]

-- ---------------------------------------------------------------------------
-- Groups of bits
-- ---------------------------------------------------------------------------

/-- Eight bits make a byte, and the byte gives them back. -/
theorem bits_ofNat_number {bs : List Bool} (h : bs.length = 8) :
    bits 8 (UInt8.ofNat (number bs)).toNat = bs := by
  have hlt := number_lt bs
  rw [h] at hlt
  rw [UInt8.toNat_ofNat_of_lt' hlt, ← h, bits_number]

/-- The bits of what is read as bytes, and the bits left over, are the row. -/
theorem flatMap_bits_eights (bs : List Bool) :
    ((eights bs).1.flatMap fun x => bits 8 x.toNat) ++ (eights bs).2 = bs := by
  fun_induction eights bs with
  | case1 a b c d e f g h rest bytes left hrest ih =>
    rw [hrest] at ih
    rw [List.flatMap_cons, bits_ofNat_number rfl, List.append_assoc, ih]
    rfl
  | case2 rest => rfl

/-- Groups are filled up from their own bits. -/
theorem fives_flatMap_bits (h : ∀ g ∈ groups, g < 32) :
    fives (groups.flatMap (bits 5)) = groups := by
  induction groups with
  | nil => rfl
  | cons g rest ih =>
    obtain ⟨hg, hrest⟩ := List.forall_mem_cons.1 h
    have hnumber : number (bits 5 g) = g := number_bits hg
    rw [List.flatMap_cons]
    simp only [bits, List.cons_append, List.nil_append] at hnumber ih ⊢
    rw [fives, hnumber, ih hrest]

/-- Zeros that complete the last group of a row change nothing. -/
theorem fives_append_zeros (bs : List Bool) {zeros : Nat} (hzeros : zeros < 5)
    (hmod : (bs.length + zeros) % 5 = 0) :
    fives (bs ++ List.replicate zeros false) = fives bs := by
  fun_induction fives bs with
  | case1 a b c d e rest ih =>
    simp only [List.length_cons] at hmod
    simp only [List.cons_append]
    rw [fives, ih (by omega)]
  | case2 =>
    obtain rfl : zeros = 0 := by
      rw [List.length_nil] at hmod
      omega
    rfl
  | case3 rest hlong hnil =>
    -- less than a group is left: as many zeros fill it up as were appended
    obtain ⟨a, rfl⟩ | ⟨a, b, rfl⟩ | ⟨a, b, c, rfl⟩ | ⟨a, b, c, d, rfl⟩ := last_cases hlong hnil
    all_goals
      simp only [List.length_cons, List.length_nil] at hmod
    · obtain rfl : zeros = 4 := by omega
      rfl
    · obtain rfl : zeros = 3 := by omega
      rfl
    · obtain rfl : zeros = 2 := by omega
      rfl
    · obtain rfl : zeros = 1 := by omega
      rfl

/-- Groups that are read as bytes are the groups of these bytes. -/
theorem toGroups_of_ofGroups? (h : ∀ g ∈ groups, g < 32) (hb : ofGroups? groups = some b) :
    toGroups b = groups := by
  have hbits := flatMap_bits_eights (groups.flatMap (bits 5))
  unfold ofGroups? at hb
  generalize eights (groups.flatMap (bits 5)) = row at hb hbits
  dsimp only at hb
  split at hb
  · rename_i hleft
    obtain rfl := Option.some.inj hb
    rw [Bool.and_eq_true, decide_eq_true_eq, List.all_eq_true] at hleft
    have hzeros : row.2 = List.replicate row.2.length false :=
      List.eq_replicate_iff.2 ⟨rfl, fun x hx => by simpa using hleft.2 x hx⟩
    have hlength : (groups.flatMap (bits 5)).length = 5 * groups.length := by
      simp only [List.length_flatMap, length_bits, List.map_const', List.sum_replicate,
        smul_eq_mul, Nat.mul_comm]
    rw [← hbits, List.length_append] at hlength
    rw [toGroups, ← fives_append_zeros _ hleft.1 (by omega), ← hzeros, hbits,
      fives_flatMap_bits h]
  · cases hb

-- ---------------------------------------------------------------------------
-- Letters
-- ---------------------------------------------------------------------------

/-- A letter that is read is the letter of its group. -/
theorem letter_of_group? {c : Char} {g : Nat} (h : group? c = some g) : letter g = c ∧ g < 32 := by
  rw [group?, List.idxOf?, List.findIdx?_eq_some_iff_getElem] at h
  obtain ⟨hg, hc, -⟩ := h
  refine ⟨?_, hg⟩
  rw [letter, List.getD_eq_getElem _ _ hg]
  exact eq_of_beq hc

/-- Letters that are read are the letters of their groups. -/
theorem map_letter_of_mapM {letters : List Char} (h : letters.mapM group? = some groups) :
    groups.map letter = letters ∧ ∀ g ∈ groups, g < 32 := by
  induction letters generalizing groups with
  | nil =>
    obtain rfl := Option.some.inj h
    exact ⟨rfl, nofun⟩
  | cons c rest ih =>
    rw [List.mapM_cons, Option.bind_eq_bind, Option.bind_eq_some_iff] at h
    obtain ⟨g, hg, h⟩ := h
    obtain ⟨gs, hgs, h⟩ := Option.bind_eq_some_iff.1 h
    obtain rfl := Option.some.inj h
    obtain ⟨hletter, hlt⟩ := letter_of_group? hg
    obtain ⟨hletters, hall⟩ := ih hgs
    exact ⟨by rw [List.map_cons, hletter, hletters], List.forall_mem_cons.2 ⟨hlt, hall⟩⟩

/-- A text that is split is its two parts with the separator between them. -/
theorem eq_append_of_splitLast? {before after : List Char}
    (h : splitLast? cs = some (before, after)) : cs = before ++ '1' :: after := by
  induction cs generalizing before with
  | nil => cases h
  | cons c rest ih =>
    rw [splitLast?] at h
    split at h
    · rename_i hrest
      obtain ⟨rfl, rfl⟩ := Prod.mk.inj (Option.some.inj h)
      rw [ih hrest, List.cons_append]
    · split at h
      · rename_i hc
        obtain ⟨rfl, rfl⟩ := Prod.mk.inj (Option.some.inj h)
        rw [hc, List.nil_append]
      · cases h

-- ---------------------------------------------------------------------------
-- Cases
-- ---------------------------------------------------------------------------

/-- Whether a text has capital letters and small ones. -/
def IsMixedCase (cs : List Char) : Prop :=
  (∃ c ∈ cs, c.isUpper = true) ∧ ∃ c ∈ cs, c.isLower = true

/-- A text is of one case if it does not mix capitals with other letters. -/
theorem isOneCase_iff : isOneCase cs = true ↔ ¬ IsMixedCase cs := by
  simp only [isOneCase, Bool.or_eq_true, List.all_eq_true, Bool.not_eq_true', IsMixedCase,
    not_and_or, not_exists, Bool.not_eq_true, imp_iff_not_or]

theorem isUpper_iff {c : Char} : c.isUpper = true ↔ 65 ≤ c.toNat ∧ c.toNat ≤ 90 := by
  rw [Char.isUpper, decide_eq_true_eq, ge_iff_le, UInt32.le_iff_toNat_le, UInt32.le_iff_toNat_le]
  rfl

theorem toNat_toLower {c : Char} (h : c.isUpper = true) : c.toLower.toNat = c.toNat + 32 := by
  have hbounds := isUpper_iff.1 h
  rw [Char.isUpper, decide_eq_true_eq] at h
  rw [Char.toLower, dif_pos h]
  show (c.val + 32).toNat = c.toNat + 32
  rw [UInt32.toNat_add]
  exact Nat.mod_eq_of_lt (by show c.toNat + 32 < 2 ^ 32; omega)

/-- Lower case has no capital letters, and takes readable characters to readable ones only. -/
theorem toLower_plain (c : Char) :
    c.toLower.isUpper = false ∧ (IsReadable c.toLower ↔ IsReadable c) := by
  cases h : c.isUpper with
  | true =>
    have hbounds := isUpper_iff.1 h
    have hlower := toNat_toLower h
    constructor
    · rw [← Bool.not_eq_true, isUpper_iff]
      omega
    · unfold IsReadable
      omega
  | false => rw [toLower_of_not_isUpper h]; exact ⟨h, Iff.rfl⟩

theorem map_toLower_toLower (cs : List Char) :
    (cs.map Char.toLower).map Char.toLower = cs.map Char.toLower := by
  rw [List.map_map]
  exact List.map_congr_left fun c _ => toLower_of_not_isUpper (toLower_plain c).1

-- ---------------------------------------------------------------------------
-- Texts
-- ---------------------------------------------------------------------------

/-- A text in one case is read as its lower case. -/
theorem decode?_map_toLower (h : isOneCase cs = true) :
    decode? (cs.map Char.toLower) = decode? cs := by
  have hreadable : (cs.map Char.toLower).all (fun c => 33 ≤ c.toNat && c.toNat ≤ 126) =
      cs.all fun c => 33 ≤ c.toNat && c.toNat ≤ 126 := by
    rw [Bool.eq_iff_iff, List.all_map, List.all_eq_true, List.all_eq_true]
    exact forall₂_congr fun c _ =>
      isReadable_iff.trans ((toLower_plain c).2.trans isReadable_iff.symm)
  have hlower : isOneCase (cs.map Char.toLower) = true := by
    rw [isOneCase, Bool.or_eq_true]
    exact Or.inl (List.all_eq_true.2 (List.forall_mem_map.2 fun c _ => by
      rw [(toLower_plain c).1]
      rfl))
  rw [decode?, decode?, hreadable, hlower, h, map_toLower_toLower]

/-- What is read is a label and groups, and what it is read from is in lower case their text. -/
theorem eq_encode_of_decode? (h : decode? cs = some (label, groups)) :
    isOneCase cs = true ∧ IsLabel label ∧ (∀ g ∈ groups, g < 32) ∧
      cs.map Char.toLower = encode label groups := by
  unfold decode? at h
  split at h
  · cases h
  rename_i hchecks
  simp only [Bool.or_eq_true, Bool.not_eq_true', not_or, Bool.not_eq_false, List.all_eq_true,
    isReadable_iff] at hchecks
  obtain ⟨hreadable, hcase⟩ := hchecks
  simp only [Option.bind_eq_bind] at h
  obtain ⟨⟨found, letters⟩, hsplit, h⟩ := Option.bind_eq_some_iff.1 h
  dsimp only at h
  split at h
  · cases h
  rename_i hbounds
  obtain ⟨all, hall, h⟩ := Option.bind_eq_some_iff.1 h
  split at h
  · rename_i hverify
    obtain ⟨rfl, rfl⟩ := Prod.mk.inj (Option.some.inj h)
    -- what was split, mapped and verified is put together again, step by step
    have htext := eq_append_of_splitLast? hsplit
    obtain ⟨hletters, hlt⟩ := map_letter_of_mapM hall
    have hplain : ∀ c ∈ cs.map Char.toLower, IsReadable c ∧ c.isUpper = false :=
      List.forall_mem_map.2 fun c hc =>
        ⟨(toLower_plain c).2.2 (hreadable c hc), (toLower_plain c).1⟩
    have hfound : ∀ c ∈ found, IsReadable c ∧ c.isUpper = false :=
      fun c hc => hplain c (htext ▸ List.mem_append_left _ hc)
    simp only [Bool.or_eq_true, decide_eq_true_eq, not_or, Nat.not_lt, List.isEmpty_iff] at hbounds
    obtain ⟨⟨hnonempty, hlabel⟩, hsix⟩ := hbounds
    have hsplitAll := List.take_append_drop (all.length - 6) all
    -- groups that verify have one possible checksum
    have hsums : all.drop (all.length - 6) = checksum found (all.take (all.length - 6)) := by
      refine eq_checksum_of_verify ?_ (fun g hg => hlt g (List.mem_of_mem_drop hg)) ?_
      · rw [List.length_drop]
        rw [← hletters, List.length_map] at hsix
        omega
      · rw [hsplitAll]
        exact hverify
    refine ⟨hcase, ⟨hnonempty, hlabel, fun c hc => (hfound c hc).1, fun c hc => (hfound c hc).2⟩,
      fun g hg => hlt g (List.mem_of_mem_take hg), ?_⟩
    rw [htext, encode, ← hsums, hsplitAll, hletters]
  · cases h

/-- **Bech32.** A text is read exactly if it was written, in one case. -/
theorem decode?_eq_some_iff :
    decode? cs = some (label, groups) ↔
      ¬ IsMixedCase cs ∧ IsLabel label ∧ (∀ g ∈ groups, g < 32) ∧
        cs.map Char.toLower = encode label groups := by
  constructor
  · intro h
    obtain ⟨hcase, hwritten⟩ := eq_encode_of_decode? h
    exact ⟨isOneCase_iff.1 hcase, hwritten⟩
  · rintro ⟨hcase, hlabel, hgroups, htext⟩
    rw [← decode?_map_toLower (isOneCase_iff.2 hcase), htext, decode?_encode hlabel hgroups]

end Bech32

-- ---------------------------------------------------------------------------
-- Addresses
-- ---------------------------------------------------------------------------

namespace Address

open Bech32 (IsLabel IsMixedCase)

variable {s label t : String} {a b : Octets}

/-- A text is read as an account of a network exactly if it is, in one case, the account's text. -/
theorem ofText_eq_ok_iff (ha : a.length = length) :
    ofText s = .ok (label, a) ↔
      ¬ IsMixedCase s.toList ∧ IsLabel label.toList ∧ toText label a = .ok s.toLower := by
  have hwritten : toText label a = .ok s.toLower ↔
      s.toList.map Char.toLower = Bech32.encode label.toList (Bech32.toGroups a) := by
    rw [toText, if_pos ha, Except.ok.injEq, ← String.toList_inj, String.toList_ofList,
      String.toLower, String.toList_map, eq_comm]
  rw [hwritten]
  constructor
  · intro h
    rw [ofText] at h
    split at h
    · cases h
    rename_i found groups hdecode
    split at h
    · cases h
    rename_i bytes hbytes
    obtain ⟨rfl, rfl⟩ := Prod.mk.inj (Except.ok.inj h)
    obtain ⟨hcase, hlabel, hgroups, htext⟩ := Bech32.decode?_eq_some_iff.1 hdecode
    -- the groups that were read are those of the bytes they make
    rw [String.toList_ofList, Bech32.toGroups_of_ofGroups? hgroups hbytes]
    exact ⟨hcase, hlabel, htext⟩
  · rintro ⟨hcase, hlabel, htext⟩
    have hdecode := Bech32.decode?_eq_some_iff.2
      ⟨hcase, hlabel, fun g (hg : g ∈ Bech32.toGroups a) => Bech32.lt_of_mem_fives hg, htext⟩
    simp only [ofText, hdecode, Bech32.ofGroups?_toGroups, String.ofList_toList]

/-- A text is valid if it is read as an account of the network that is asked for. -/
theorem isValid_iff_ofText (s : String) (wanted : Option String) :
    isValid s wanted = true ↔
      ∃ label a, ofText s = .ok (label, a) ∧ a.length = length ∧
        ∀ q, wanted = some q → q ≠ "" → q = label := by
  rw [isValid]
  cases hread : ofText s with
  | error e => exact ⟨nofun, fun ⟨_, _, h, _⟩ => nomatch h⟩
  | ok found =>
    obtain ⟨label, a⟩ := found
    simp only [Bool.and_eq_true, Option.all_eq_true, Bool.or_eq_true, String.isEmpty_iff,
      beq_iff_eq, Except.ok.injEq, Prod.mk.injEq]
    constructor
    · rintro ⟨hwanted, ha⟩
      exact ⟨label, a, ⟨rfl, rfl⟩, ha, fun q hq hne => (hwanted q hq).resolve_left hne⟩
    · rintro ⟨label, a, ⟨rfl, rfl⟩, ha, hwanted⟩
      exact ⟨fun q hq => or_iff_not_imp_left.2 (hwanted q hq), ha⟩

/-- Accounts of any networks have different texts: the letters behind the label are 39. -/
theorem label_eq_of_toText {label' : String} (ha : toText label a = .ok t)
    (hb : toText label' b = .ok t) : label = label' ∧ a = b := by
  have hla := length_of_toText ha
  have hlb := length_of_toText hb
  have htext : Bech32.encode label.toList (Bech32.toGroups a) =
      Bech32.encode label'.toList (Bech32.toGroups b) := by
    have hta := ha
    have htb := hb
    rw [toText, if_pos hla] at hta
    rw [toText, if_pos hlb] at htb
    exact String.ofList_injective ((Except.ok.inj hta).trans (Except.ok.inj htb).symm)
  -- what stands behind the label has one length, so the labels end at the same place
  have hsuffix : ∀ (l : List Char) {x : Octets}, x.length = length →
      ('1' :: (Bech32.toGroups x ++ Bech32.checksum l (Bech32.toGroups x)).map
        Bech32.letter).length = 39 := by
    intro l x hx
    rw [List.length_cons, List.length_map, List.length_append, Bech32.length_toGroups, hx]
    rfl
  obtain rfl := String.toList_inj.1
    (List.append_inj_left' htext ((hsuffix _ hla).trans (hsuffix _ hlb).symm))
  exact ⟨rfl, toText_injective ha hb⟩

/-- **Validity.** The text of an account, under a label that can be read, is read as the label and
the account. A text is a valid address exactly if it is, in one case, the text of some account under
such a label, and this is the label that is asked for. No text belongs to two labels or accounts. -/
theorem isValid_iff_written :
    (∀ label a, IsLabel label.toList → a.length = length →
      ∃ t, toText label a = .ok t ∧ ofText t = .ok (label, a)) ∧
    (∀ s wanted, isValid s wanted = true ↔
      ¬ IsMixedCase s.toList ∧ ∃ label a, IsLabel label.toList ∧ a.length = length ∧
        toText label a = .ok s.toLower ∧ ∀ q, wanted = some q → q ≠ "" → q = label) ∧
    ∀ label label' a b t, toText label a = .ok t → toText label' b = .ok t →
      label = label' ∧ a = b := by
  refine ⟨?_, ?_, fun label label' a b t => label_eq_of_toText⟩
  · intro label a hlabel ha
    obtain ⟨t, ht⟩ := exists_toText label ha
    exact ⟨t, ht, ofText_toText hlabel ht⟩
  · intro s wanted
    rw [isValid_iff_ofText]
    constructor
    · rintro ⟨label, a, hread, ha, hwanted⟩
      obtain ⟨hcase, hlabel, htext⟩ := (ofText_eq_ok_iff ha).1 hread
      exact ⟨hcase, label, a, hlabel, ha, htext, hwanted⟩
    · rintro ⟨hcase, label, a, hlabel, ha, htext, hwanted⟩
      exact ⟨label, a, (ofText_eq_ok_iff ha).2 ⟨hcase, hlabel, htext⟩, ha, hwanted⟩

/-- An account under a label with a separator in it. Its text, also in capitals, is read as this
label, not as what stands before the first separator. -/
theorem isValid_capitals :
    (∃ t, toText "a1b" (List.replicate 20 0) = .ok t ∧
      ofText t = .ok ("a1b", List.replicate 20 0)) ∧
    isValid "A1B1QQQQQQQQQQQQQQQQQQQQQQQQQQQQQQQQ6N87C9" (some "a1b") = true ∧
    isValid "A1B1QQQQQQQQQQQQQQQQQQQQQQQQQQQQQQQQ6N87C9" (some "a") = false := by
  obtain ⟨hread, hvalid, hdistinct⟩ := isValid_iff_written
  have hlabel : IsLabel "a1b".toList := by decide
  have hcase : ¬ IsMixedCase "A1B1QQQQQQQQQQQQQQQQQQQQQQQQQQQQQQQQ6N87C9".toList :=
    Bech32.isOneCase_iff.1 (by decide)
  have htext : toText "a1b" (List.replicate 20 0) =
      .ok "A1B1QQQQQQQQQQQQQQQQQQQQQQQQQQQQQQQQ6N87C9".toLower := by cbv
  refine ⟨hread _ _ hlabel List.length_replicate, (hvalid _ _).2 ⟨hcase, "a1b", List.replicate 20 0,
    hlabel, List.length_replicate, htext, fun q hq _ => (Option.some.inj hq).symm⟩, ?_⟩
  rw [← Bool.not_eq_true, hvalid]
  rintro ⟨-, label, b, -, -, hother, hwanted⟩
  -- the same text under the other label would be two readings of it
  obtain ⟨rfl, -⟩ := hdistinct _ _ _ _ _ htext hother
  exact absurd (hwanted "a" rfl (by decide)) (by decide)

/-- A valid address whose label has 52 characters: no label of at most 51 makes it. -/
theorem isValid_long :
    isValid (String.ofList (List.replicate 52 'x') ++ "1qqqqqqqqqqqqqqqqqqqqqqqqqqqqqqqqsx0vhj")
        none = true ∧
      ¬ ∃ label a, label.toList.length ≤ 51 ∧ a.length = length ∧ toText label a =
        .ok (String.ofList (List.replicate 52 'x') ++
          "1qqqqqqqqqqqqqqqqqqqqqqqqqqqqqqqqsx0vhj").toLower := by
  have hwritten : Bech32.encode (List.replicate 52 'x') (Bech32.toGroups (List.replicate 20 0)) =
      List.replicate 52 'x' ++ "1qqqqqqqqqqqqqqqqqqqqqqqqqqqqqqqqsx0vhj".toList := by
    cbv
  have hlabel : IsLabel (String.ofList (List.replicate 52 'x')).toList := by
    rw [String.toList_ofList]
    decide
  have htext : toText (String.ofList (List.replicate 52 'x')) (List.replicate 20 0) =
      .ok (String.ofList (List.replicate 52 'x') ++ "1qqqqqqqqqqqqqqqqqqqqqqqqqqqqqqqqsx0vhj") := by
    rw [toText, if_pos (show (List.replicate 20 (0 : UInt8)).length = length from rfl),
      String.toList_ofList, hwritten, String.ofList_append, String.ofList_toList]
  have hread := ofText_toText hlabel htext
  obtain ⟨-, -, hlower⟩ := (ofText_eq_ok_iff List.length_replicate).1 hread
  refine ⟨(isValid_iff_ofText _ _).2 ⟨_, _, hread, List.length_replicate, ?_⟩, ?_⟩
  · intro q hq
    cases hq
  · rintro ⟨label, b, hshort, -, hother⟩
    -- a text determines its label, and this one has 52 characters
    obtain ⟨rfl, -⟩ := label_eq_of_toText hlower hother
    rw [String.toList_ofList, List.length_replicate] at hshort
    omega

end Address

end Regenesis

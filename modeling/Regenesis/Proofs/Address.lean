import Mathlib
import Regenesis.Address
import Regenesis.Proofs.Hex

/-!
# Proofs.Address — an account has a text of its own

A byte string is read back from its letters of five bits: filling up the last letter adds zeros
only, and the way back takes them off. So two accounts of one network never share their Bech32 text.
-/

namespace Regenesis

-- ---------------------------------------------------------------------------
-- Groups of bits
-- ---------------------------------------------------------------------------

namespace Bech32

/-- The number of a row with a bit behind it. -/
theorem number_append_singleton (bs : List Bool) (b : Bool) :
    number (bs ++ [b]) = 2 * number bs + b.toNat := by
  rw [number, List.foldl_append, List.foldl_cons, List.foldl_nil, number]

/-- Bits stand for a number below the power of two that has their length as its exponent. -/
theorem number_lt (bs : List Bool) : number bs < 2 ^ bs.length := by
  induction bs using List.reverseRecOn with
  | nil => exact Nat.one_pos
  | append_singleton rest b ih =>
    rw [number_append_singleton, List.length_append, List.length_singleton, Nat.pow_succ]
    have hb := Bool.toNat_le b
    omega

/-- The bits of a number with a bit behind it. -/
theorem bits_succ_double (width n : Nat) (b : Bool) :
    bits (width + 1) (2 * n + b.toNat) = bits width n ++ [b] := by
  induction width with
  | zero =>
    rw [bits, bits, bits, Nat.testBit_zero, Nat.mul_add_mod]
    cases b <;> rfl
  | succ w ih =>
    have htop : (2 * n + b.toNat).testBit (w + 1) = n.testBit w := by
      rw [Nat.testBit_succ, Nat.mul_add_div Nat.two_pos, Nat.div_eq_of_lt (Bool.toNat_lt b),
        Nat.add_zero]
    rw [bits, ih, htop]
    rfl

/-- A row of bits makes a number, and the number gives them back. -/
theorem bits_number (bs : List Bool) : bits bs.length (number bs) = bs := by
  -- on the last bit, which is the one that `number` takes in last
  induction bs using List.reverseRecOn with
  | nil => rfl
  | append_singleton rest b ih =>
    rw [number_append_singleton, List.length_append, List.length_singleton, bits_succ_double, ih]

/-- A number with few enough bits is read back from them. -/
theorem number_bits {width n : Nat} (h : n < 2 ^ width) : number (bits width n) = n := by
  induction width generalizing n with
  | zero => exact (Nat.lt_one_iff.1 h).symm
  | succ w ih =>
    have hhalf : 2 * (n / 2) + (n.testBit 0).toNat = n := by
      rw [Nat.toNat_testBit, Nat.pow_zero, Nat.div_one, Nat.div_add_mod]
    rw [← hhalf, bits_succ_double, number_append_singleton, ih (by omega)]

theorem length_bits (width n : Nat) : (bits width n).length = width := by
  induction width with
  | zero => rfl
  | succ w ih => rw [bits, List.length_cons, ih]

/-- What is left for the last group: one to four bits. -/
theorem last_cases {bs : List Bool}
    (hlong : ∀ a b c d e rest, bs = a :: b :: c :: d :: e :: rest → False)
    (hnil : bs = [] → False) :
    (∃ a, bs = [a]) ∨ (∃ a b, bs = [a, b]) ∨ (∃ a b c, bs = [a, b, c]) ∨
      ∃ a b c d, bs = [a, b, c, d] := by
  match bs, hlong, hnil with
  | [], _, hnil => exact absurd rfl hnil
  | [a], _, _ => exact Or.inl ⟨a, rfl⟩
  | [a, b], _, _ => exact Or.inr (Or.inl ⟨a, b, rfl⟩)
  | [a, b, c], _, _ => exact Or.inr (Or.inr (Or.inl ⟨a, b, c, rfl⟩))
  | [a, b, c, d], _, _ => exact Or.inr (Or.inr (Or.inr ⟨a, b, c, d, rfl⟩))
  | a :: b :: c :: d :: e :: rest, hlong, _ => exact absurd rfl (hlong a b c d e rest)

/-- The last group of five may not be full. -/
theorem length_fives (bs : List Bool) : (fives bs).length = (bs.length + 4) / 5 := by
  fun_induction fives bs with
  | case1 a b c d e rest ih => simp only [List.length_cons, ih]; omega
  | case2 => rfl
  | case3 rest hlong hnil =>
    obtain ⟨a, rfl⟩ | ⟨a, b, rfl⟩ | ⟨a, b, c, rfl⟩ | ⟨a, b, c, d, rfl⟩ := last_cases hlong hnil
    all_goals simp

/-- A group has five bits. -/
theorem lt_of_mem_fives {bs : List Bool} {g : Nat} (h : g ∈ fives bs) : g < 32 := by
  fun_induction fives bs with
  | case1 a b c d e rest ih =>
    rcases List.mem_cons.1 h with rfl | h
    · exact number_lt [a, b, c, d, e]
    · exact ih h
  | case2 => simp at h
  | case3 rest hlong hnil =>
    rw [List.mem_singleton.1 h]
    obtain ⟨a, rfl⟩ | ⟨a, b, rfl⟩ | ⟨a, b, c, rfl⟩ | ⟨a, b, c, d, rfl⟩ := last_cases hlong hnil
    · exact number_lt [a, false, false, false, false]
    · exact number_lt [a, b, false, false, false]
    · exact number_lt [a, b, c, false, false]
    · exact number_lt [a, b, c, d, false]

/-- The groups of a row of bits are the row, with a few zeros behind it. -/
theorem flatMap_bits_fives (bs : List Bool) :
    ∃ zeros < 5, (fives bs).flatMap (bits 5) = bs ++ List.replicate zeros false := by
  fun_induction fives bs with
  | case1 a b c d e rest ih =>
    obtain ⟨zeros, hzeros, ih⟩ := ih
    refine ⟨zeros, hzeros, ?_⟩
    rw [List.flatMap_cons, show bits 5 _ = _ from bits_number [a, b, c, d, e], ih]
    rfl
  | case2 => exact ⟨0, by decide, rfl⟩
  | case3 rest hlong hnil =>
    obtain ⟨a, rfl⟩ | ⟨a, b, rfl⟩ | ⟨a, b, c, rfl⟩ | ⟨a, b, c, d, rfl⟩ := last_cases hlong hnil
    · exact ⟨4, by decide, bits_number [a, false, false, false, false]⟩
    · exact ⟨3, by decide, bits_number [a, b, false, false, false]⟩
    · exact ⟨2, by decide, bits_number [a, b, c, false, false]⟩
    · exact ⟨1, by decide, bits_number [a, b, c, d, false]⟩

/-- Fewer than eight bits make no byte. -/
theorem eights_of_length_lt {bs : List Bool} (h : bs.length < 8) : eights bs = ([], bs) := by
  rw [eights]
  rintro a b c d e f g i rest rfl
  simp only [List.length_cons] at h
  omega

/-- Bytes are read from their bits, whatever few bits follow. -/
theorem eights_flatMap_bits (b : Octets) {left : List Bool} (h : left.length < 8) :
    eights (b.flatMap (fun x => bits 8 x.toNat) ++ left) = (b, left) := by
  induction b with
  | nil => exact eights_of_length_lt h
  | cons x rest ih =>
    have hx : UInt8.ofNat (number (bits 8 x.toNat)) = x := by
      rw [number_bits x.toNat_lt, UInt8.ofNat_toNat]
    rw [List.flatMap_cons, List.append_assoc]
    simp only [bits, List.cons_append, List.nil_append] at hx ih ⊢
    rw [eights, ih, hx]

/-- Bytes are read from their groups of five bits. -/
theorem ofGroups?_toGroups (b : Octets) : ofGroups? (toGroups b) = some b := by
  obtain ⟨zeros, hzeros, hfives⟩ := flatMap_bits_fives (b.flatMap fun x => bits 8 x.toNat)
  have hlength : (List.replicate zeros false).length < 8 := by rw [List.length_replicate]; omega
  have heights := eights_flatMap_bits b hlength
  rw [ofGroups?, toGroups, hfives, heights]
  simp [hzeros]

/-- Bytes never share their groups. -/
theorem toGroups_injective {a b : Octets} (h : toGroups a = toGroups b) : a = b := by
  have hab : ofGroups? (toGroups a) = ofGroups? (toGroups b) := by rw [h]
  rw [ofGroups?_toGroups, ofGroups?_toGroups] at hab
  exact Option.some.inj hab

theorem length_toGroups (b : Octets) : (toGroups b).length = (8 * b.length + 4) / 5 := by
  have hbits : (b.flatMap fun x => bits 8 x.toNat).length = 8 * b.length := by
    simp only [List.length_flatMap, length_bits, List.map_const', List.sum_replicate,
      smul_eq_mul, Nat.mul_comm]
  rw [toGroups, length_fives, hbits]

-- ---------------------------------------------------------------------------
-- Letters
-- ---------------------------------------------------------------------------

/-- A group is read from its letter. -/
theorem group?_letter : ∀ g < 32, group? (letter g) = some g := by decide

/-- Groups are told apart by their letters. -/
theorem map_letter_injective {gs hs : List Nat} (hgs : ∀ g ∈ gs, g < 32) (hhs : ∀ h ∈ hs, h < 32)
    (h : gs.map letter = hs.map letter) : gs = hs := by
  have hread : ∀ {gs : List Nat}, (∀ g ∈ gs, g < 32) →
      (gs.map letter).map group? = gs.map some := by
    intro gs hgs
    rw [List.map_map]
    exact List.map_congr_left fun g hg => group?_letter g (hgs g hg)
  have hsome : gs.map some = hs.map some := by rw [← hread hgs, h, hread hhs]
  exact List.map_injective_iff.2 (Option.some_injective _) hsome

/-- Byte strings of one length have different texts under one label. -/
theorem encode_injective {label : List Char} {a b : Octets} (hlength : a.length = b.length)
    (h : encode label (toGroups a) = encode label (toGroups b)) : a = b := by
  have hletters := (List.cons.inj (List.append_cancel_left h)).2
  rw [List.map_append, List.map_append] at hletters
  have hgroups : (toGroups a).map letter = (toGroups b).map letter :=
    List.append_inj_left hletters (by
      rw [List.length_map, List.length_map, length_toGroups, length_toGroups, hlength])
  exact toGroups_injective (map_letter_injective (fun _ => lt_of_mem_fives)
    (fun _ => lt_of_mem_fives) hgroups)

end Bech32

-- ---------------------------------------------------------------------------
-- Addresses
-- ---------------------------------------------------------------------------

namespace Address

variable {label t : String} {a b : Octets}

/-- The text of a hex address is that of its bytes. -/
theorem hexToText_encode (label : String) (a : Octets) :
    hexToText label (Hex.encode a) = toText label a := by
  rw [hexToText, Hex.readText_encode]
  rfl

/-- Only addresses of twenty bytes have a text. -/
theorem length_of_toText (h : toText label a = .ok t) : a.length = length := by
  rw [toText] at h
  by_contra hlength
  rw [if_neg hlength] at h
  exact nomatch h

/-- Every address of twenty bytes has a text. -/
theorem exists_toText (label : String) (h : a.length = length) : ∃ t, toText label a = .ok t :=
  ⟨_, by rw [toText, if_pos h]⟩

/-- An address has no text only if it does not have twenty bytes. -/
theorem failsWithin_toText {P : Failure → Prop}
    (h : a.length ≠ length → P (.value (.addressLength a.length))) :
    Outcome.FailsWithin P (toText label a) := by
  rw [toText]
  split
  · exact .ok _
  · rename_i hlength
    exact .error (h hlength)

/-- **Text of an account.** Two accounts of one network never share their text. -/
theorem toText_injective (ha : toText label a = .ok t) (hb : toText label b = .ok t) : a = b := by
  have hla := length_of_toText ha
  have hlb := length_of_toText hb
  rw [toText, if_pos hla] at ha
  rw [toText, if_pos hlb] at hb
  have htext := (Except.ok.inj ha).trans (Except.ok.inj hb).symm
  exact Bech32.encode_injective (hla.trans hlb.symm) (String.ofList_injective htext)

end Address

end Regenesis

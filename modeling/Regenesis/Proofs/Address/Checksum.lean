import Mathlib
import Regenesis.Proofs.Address

/-!
# Proofs.Address.Checksum — an address is read from its text

A step of the checksum is linear in exclusive or, and a register with less than its top five bits
takes in a group by shifting. So the six groups of the checksum, taken in behind a row of values,
add what six zeros would have left, and one: whatever is written has a checksum that is right. The
letters and a label that can be read are in lower case and in the range of readable characters, and
no letter is the separator. So the text of an address is read as label and address again.

* `Bech32.verify_checksum` — the checksum of every label and every groups is right.
* `Bech32.decode?_encode` — label and groups are read from their text.
* `Address.ofText_toText` — label and address are read from the address's text.
* `Address.ofText_of_not_readable` — a label with an unreadable character makes unreadable texts.
-/

namespace Regenesis

namespace Bech32

-- ---------------------------------------------------------------------------
-- The register
-- ---------------------------------------------------------------------------

/-- What the generators add to a register, by the bits that bring them in. -/
def feedback (top : Nat) (taps : List (Nat × Nat)) (register : Nat) : Nat :=
  taps.foldl (fun s (g, i) => if top.testBit i then s ^^^ g else s) register

theorem polymodStep_eq (sum value : Nat) :
    polymodStep sum value =
      feedback (sum >>> 25) generator.zipIdx (((sum &&& 0x1ffffff) <<< 5) ^^^ value) := rfl

/-- Feedback is linear: what the bits of either number bring in cancels where both do. -/
theorem feedback_xor (s t : Nat) (taps : List (Nat × Nat)) (x y : Nat) :
    feedback (s ^^^ t) taps (x ^^^ y) = feedback s taps x ^^^ feedback t taps y := by
  induction taps generalizing x y with
  | nil => rfl
  | cons tap rest ih =>
    obtain ⟨g, i⟩ := tap
    simp only [feedback, List.foldl_cons] at ih ⊢
    rw [← ih, Nat.testBit_xor]
    congr 1
    cases s.testBit i <;> cases t.testBit i
    · rfl
    · simp only [Bool.false_xor, if_true, Bool.false_eq_true, if_false, Nat.xor_assoc]
    · simp only [Bool.true_xor, Bool.not_false, if_true, Bool.false_eq_true, if_false]
      rw [Nat.xor_assoc, Nat.xor_assoc, Nat.xor_comm y g]
    · simp only [Bool.true_xor, Bool.not_true, if_true, Bool.false_eq_true, if_false]
      rw [Nat.xor_comm y g, Nat.xor_assoc, ← Nat.xor_assoc g g y, Nat.xor_self, Nat.zero_xor]

/-- A step of the checksum is linear. -/
theorem polymodStep_xor (a b v w : Nat) :
    polymodStep (a ^^^ b) (v ^^^ w) = polymodStep a v ^^^ polymodStep b w := by
  have hsum : (((a ^^^ b) &&& 0x1ffffff) <<< 5) ^^^ (v ^^^ w) =
      (((a &&& 0x1ffffff) <<< 5) ^^^ v) ^^^ (((b &&& 0x1ffffff) <<< 5) ^^^ w) := by
    rw [Nat.and_xor_distrib_right, Nat.shiftLeft_xor_distrib]
    ac_rfl
  rw [polymodStep_eq, polymodStep_eq, polymodStep_eq, Nat.shiftRight_xor_distrib, hsum,
    feedback_xor]

/-- Values taken in behind others add what they would leave in an empty register. -/
theorem foldl_polymodStep_xor (values : List Nat) (a b : Nat) :
    values.foldl polymodStep (a ^^^ b) =
      (values.map fun _ => 0).foldl polymodStep a ^^^ values.foldl polymodStep b := by
  induction values generalizing a b with
  | nil => rfl
  | cons v rest ih =>
    rw [List.foldl_cons, List.map_cons, List.foldl_cons, List.foldl_cons, ← ih,
      ← polymodStep_xor, Nat.zero_xor]

theorem feedback_lt {top register : Nat} {taps : List (Nat × Nat)} (h : register < 2 ^ 30)
    (htaps : ∀ tap ∈ taps, tap.1 < 2 ^ 30) : feedback top taps register < 2 ^ 30 := by
  induction taps generalizing register with
  | nil => exact h
  | cons tap rest ih =>
    obtain ⟨htap, hrest⟩ := List.forall_mem_cons.1 htaps
    rw [feedback, List.foldl_cons]
    refine ih ?_ hrest
    show (if top.testBit tap.2 then register ^^^ tap.1 else register) < 2 ^ 30
    split
    · exact Nat.xor_lt_two_pow h htap
    · exact h

/-- A step of the checksum stays within thirty bits. -/
theorem polymodStep_lt (sum : Nat) {value : Nat} (h : value < 2 ^ 30) :
    polymodStep sum value < 2 ^ 30 := by
  have hlow : sum &&& 0x1ffffff < 2 ^ 25 := Nat.and_lt_two_pow sum (by decide)
  refine feedback_lt (Nat.xor_lt_two_pow ?_ h) (by decide)
  rw [Nat.shiftLeft_eq]
  omega

-- ---------------------------------------------------------------------------
-- The checksum
-- ---------------------------------------------------------------------------

/-- A register with its top five bits empty takes in the next five bits of a number. -/
theorem polymodStep_digit {n shift : Nat} (h : n >>> (shift + 5) < 2 ^ 25) :
    polymodStep (n >>> (shift + 5)) ((n >>> shift) &&& 31) = n >>> shift := by
  have htop : n >>> (shift + 5) >>> 25 = 0 := by
    rw [Nat.shiftRight_eq_div_pow]
    exact Nat.div_eq_of_lt h
  have hlow : n >>> (shift + 5) &&& 0x1ffffff = n >>> (shift + 5) := by
    rw [show (0x1ffffff : Nat) = 2 ^ 25 - 1 from rfl, Nat.and_two_pow_sub_one_eq_mod,
      Nat.mod_eq_of_lt h]
  rw [polymodStep_eq, htop, hlow, Nat.shiftRight_add]
  -- a number is its upper bits with its five lowest ones below them
  have hjoin : ∀ m : Nat, (m >>> 5 <<< 5) ^^^ (m &&& 31) = m := by
    intro m
    refine Nat.eq_of_testBit_eq fun i => ?_
    rw [Nat.testBit_xor, Nat.testBit_shiftLeft, Nat.testBit_shiftRight, Nat.testBit_and,
      show (31 : Nat) = 2 ^ 5 - 1 from rfl, Nat.testBit_two_pow_sub_one]
    by_cases hi : 5 ≤ i
    · rw [decide_eq_true hi, decide_eq_false (Nat.not_lt.2 hi), Nat.add_sub_cancel' hi,
        Bool.true_and, Bool.and_false, Bool.xor_false]
    · rw [decide_eq_false hi, decide_eq_true (Nat.lt_of_not_le hi), Bool.false_and, Bool.and_true,
        Bool.false_xor]
  rw [hjoin]
  rfl

/-- The six groups of a number of thirty bits, the highest first. -/
def digits (n : Nat) : List Nat := [25, 20, 15, 10, 5, 0].map fun shift => (n >>> shift) &&& 31

/-- An empty register takes in a number by its groups. -/
theorem foldl_polymodStep_digits {n : Nat} (h : n < 2 ^ 30) :
    (digits n).foldl polymodStep 0 = n := by
  have hshift : ∀ shift, n >>> (shift + 5) < 2 ^ 25 := by
    intro shift
    rw [Nat.shiftRight_eq_div_pow]
    have hpow : 2 ^ 5 ≤ 2 ^ (shift + 5) :=
      Nat.pow_le_pow_right (by decide) (Nat.le_add_left 5 shift)
    exact (Nat.div_le_div_left hpow (by decide)).trans_lt (by omega)
  have hdigit := fun shift => polymodStep_digit (hshift shift)
  -- the first group meets an empty register
  have hfirst : polymodStep 0 (n >>> 25 &&& 31) = n >>> 25 := by
    have hempty : n >>> (25 + 5) = 0 := by
      rw [Nat.shiftRight_eq_div_pow]
      exact Nat.div_eq_of_lt h
    have h25 := hdigit 25
    rwa [hempty] at h25
  simp only [digits, List.map_cons, List.map_nil, List.foldl_cons, List.foldl_nil]
  rw [hfirst, hdigit 20, hdigit 15, hdigit 10, hdigit 5]
  exact hdigit 0

/-- What six zeros leave tells the groups that leave one instead. -/
theorem foldl_polymodStep_correction (register : Nat) :
    (digits ([0, 0, 0, 0, 0, 0].foldl polymodStep register ^^^ 1)).foldl polymodStep register =
      1 := by
  have hzeros : ∀ n : Nat, (digits n).map (fun _ => 0) = [0, 0, 0, 0, 0, 0] := fun _ => rfl
  have hsix : [0, 0, 0, 0, 0, 0].foldl polymodStep register < 2 ^ 30 :=
    polymodStep_lt _ (by decide)
  have hadd := foldl_polymodStep_xor
    (digits ([0, 0, 0, 0, 0, 0].foldl polymodStep register ^^^ 1)) register 0
  rw [hzeros, foldl_polymodStep_digits (Nat.xor_lt_two_pow hsix (by decide)), Nat.xor_zero,
    ← Nat.xor_assoc, Nat.xor_self, Nat.zero_xor] at hadd
  exact hadd

/-- The checksum goes on with what is appended. -/
theorem polymod_append (xs ys : List Nat) :
    polymod (xs ++ ys) = ys.foldl polymodStep (polymod xs) := List.foldl_append

/-- The checksum is what leaves one in the register behind label and groups. -/
theorem checksum_eq_digits (label : List Char) (groups : List Nat) :
    checksum label groups = digits
      ([0, 0, 0, 0, 0, 0].foldl polymodStep (polymod (expandLabel label ++ groups)) ^^^ 1) := by
  rw [← polymod_append]
  rfl

/-- **Checksum.** Whatever label and groups are, their checksum makes them right. -/
theorem verify_checksum (label : List Char) (groups : List Nat) :
    verify label (groups ++ checksum label groups) = true := by
  rw [verify, beq_iff_eq, ← List.append_assoc, polymod_append, checksum_eq_digits,
    foldl_polymodStep_correction]

/-- A checksum is made of groups of five bits. -/
theorem lt_of_mem_checksum {label : List Char} {groups : List Nat} {g : Nat}
    (h : g ∈ checksum label groups) : g < 32 := by
  obtain ⟨shift, -, rfl⟩ := List.mem_map.1 h
  exact Nat.and_lt_two_pow _ (show 31 < 2 ^ 5 by decide)

-- ---------------------------------------------------------------------------
-- Letters and labels
-- ---------------------------------------------------------------------------

/-- Whether a character can stand in a text: printable ASCII without the space. -/
def IsReadable (c : Char) : Prop := 33 ≤ c.toNat ∧ c.toNat ≤ 126

/-- Whether a label can be read from a text, as it is written. -/
structure IsLabel (label : List Char) : Prop where
  nonempty : label ≠ []
  length_le : label.length ≤ maxLabel
  readable : ∀ c ∈ label, IsReadable c
  lower : ∀ c ∈ label, c.isUpper = false

theorem isReadable_iff {c : Char} :
    (decide (33 ≤ c.toNat) && decide (c.toNat ≤ 126)) = true ↔ IsReadable c := by
  rw [Bool.and_eq_true, decide_eq_true_eq, decide_eq_true_eq, IsReadable]

instance (c : Char) : Decidable (IsReadable c) := decidable_of_iff _ isReadable_iff

theorem isLabel_iff {label : List Char} :
    IsLabel label ↔ label ≠ [] ∧ label.length ≤ maxLabel ∧
      label.all (fun c => decide (IsReadable c) && !c.isUpper) = true := by
  simp only [List.all_eq_true, Bool.and_eq_true, decide_eq_true_eq, Bool.not_eq_true']
  constructor
  · intro h
    exact ⟨h.nonempty, h.length_le, fun c hc => ⟨h.readable c hc, h.lower c hc⟩⟩
  · intro h
    exact ⟨h.1, h.2.1, fun c hc => (h.2.2 c hc).1, fun c hc => (h.2.2 c hc).2⟩

instance (label : List Char) : Decidable (IsLabel label) := decidable_of_iff _ isLabel_iff.symm

/-- Letters of groups can be read, are no capitals, and are not the separator. -/
theorem letter_plain : ∀ g < 32,
    IsReadable (letter g) ∧ (letter g).isUpper = false ∧ letter g ≠ '1' := by decide

theorem toLower_of_not_isUpper {c : Char} (h : c.isUpper = false) : c.toLower = c := by
  rw [Char.toLower, dif_neg]
  intro hc
  rw [Char.isUpper, decide_eq_false_iff_not] at h
  exact h hc

/-- A text without a separator is not split. -/
theorem splitLast?_of_not_mem {cs : List Char} (h : '1' ∉ cs) : splitLast? cs = none := by
  induction cs with
  | nil => rfl
  | cons c rest ih =>
    rw [List.mem_cons, not_or] at h
    rw [splitLast?, ih h.2, if_neg (Ne.symm h.1)]

/-- A text is split at its last separator. -/
theorem splitLast?_append {before after : List Char} (h : '1' ∉ after) :
    splitLast? (before ++ '1' :: after) = some (before, after) := by
  induction before with
  | nil => rw [List.nil_append, splitLast?, splitLast?_of_not_mem h, if_pos rfl]
  | cons c rest ih => rw [List.cons_append, splitLast?, ih]

/-- Groups are read from their letters. -/
theorem mapM_group?_map_letter {groups : List Nat} (h : ∀ g ∈ groups, g < 32) :
    (groups.map letter).mapM group? = some groups := by
  induction groups with
  | nil => rfl
  | cons g rest ih =>
    obtain ⟨hg, hrest⟩ := List.forall_mem_cons.1 h
    rw [List.map_cons, List.mapM_cons, group?_letter g hg, ih hrest]
    rfl

/-- Groups that are right for their label are read without their checksum. -/
theorem decode?_of_verify {label : List Char} {groups : List Nat} (hlabel : IsLabel label)
    (hgroups : ∀ g ∈ groups, g < 32) (hlength : 6 ≤ groups.length)
    (hverify : verify label groups = true) :
    decode? (label ++ '1' :: groups.map letter) =
      some (label, groups.take (groups.length - 6)) := by
  -- every check on the way to the groups is passed
  have hplain : ∀ c ∈ label ++ '1' :: groups.map letter, IsReadable c ∧ c.isUpper = false := by
    intro c hc
    rcases List.mem_append.1 hc with hc | hc
    · exact ⟨hlabel.readable c hc, hlabel.lower c hc⟩
    · rcases List.mem_cons.1 hc with rfl | hc
      · exact ⟨by decide, by decide⟩
      · obtain ⟨g, hg, rfl⟩ := List.mem_map.1 hc
        exact ⟨(letter_plain g (hgroups g hg)).1, (letter_plain g (hgroups g hg)).2.1⟩
  have hreadable : (label ++ '1' :: groups.map letter).all
      (fun c => 33 ≤ c.toNat && c.toNat ≤ 126) = true :=
    List.all_eq_true.2 fun c hc => isReadable_iff.2 (hplain c hc).1
  have hcase : isOneCase (label ++ '1' :: groups.map letter) = true := by
    rw [isOneCase, Bool.or_eq_true]
    exact Or.inl (List.all_eq_true.2 fun c hc => by rw [(hplain c hc).2]; rfl)
  have hlower : (label ++ '1' :: groups.map letter).map Char.toLower =
      label ++ '1' :: groups.map letter :=
    (List.map_congr_left fun c hc => toLower_of_not_isUpper (hplain c hc).2).trans (List.map_id _)
  -- the last separator is the one behind the label, since no letter is one
  have hseparator : '1' ∉ groups.map letter := by
    intro h
    obtain ⟨g, hg, heq⟩ := List.mem_map.1 h
    exact (letter_plain g (hgroups g hg)).2.2 heq
  have hbounds : (label.isEmpty || decide (maxLabel < label.length) ||
      decide ((groups.map letter).length < 6)) = false := by
    rw [List.length_map, List.isEmpty_eq_false_iff.2 hlabel.nonempty,
      decide_eq_false (Nat.not_lt.2 hlabel.length_le), decide_eq_false (Nat.not_lt.2 hlength)]
    rfl
  rw [decode?, hreadable, hcase, hlower, splitLast?_append hseparator]
  simp only [Bool.not_true, Bool.or_self, Bool.false_eq_true, if_false, Option.bind_eq_bind,
    Option.bind_some, hbounds, mapM_group?_map_letter hgroups, hverify, if_true]

/-- **Bech32.** Label and groups are read from their text. -/
theorem decode?_encode {label : List Char} {groups : List Nat} (hlabel : IsLabel label)
    (hgroups : ∀ g ∈ groups, g < 32) : decode? (encode label groups) = some (label, groups) := by
  have hlt : ∀ g ∈ groups ++ checksum label groups, g < 32 :=
    fun g hg => (List.mem_append.1 hg).elim (hgroups g) lt_of_mem_checksum
  have hlength : (groups ++ checksum label groups).length = groups.length + 6 := List.length_append
  rw [encode, decode?_of_verify hlabel hlt (by rw [hlength]; exact Nat.le_add_left 6 _)
    (verify_checksum label groups), hlength, Nat.add_sub_cancel, List.take_left]

/-- A character that cannot be read spoils the whole text. -/
theorem decode?_of_not_readable {cs : List Char} {c : Char} (hc : c ∈ cs)
    (hread : ¬ IsReadable c) : decode? cs = none := by
  have hall : cs.all (fun c => 33 ≤ c.toNat && c.toNat ≤ 126) = false := by
    exact List.all_eq_false.2 ⟨c, hc, fun h => hread (isReadable_iff.1 h)⟩
  rw [decode?, hall]
  rfl

end Bech32

-- ---------------------------------------------------------------------------
-- Addresses
-- ---------------------------------------------------------------------------

namespace Address

variable {label t : String} {a : Octets}

/-- **Text of an address.** Label and address are read from it, if the label can be read. -/
theorem ofText_toText (hlabel : Bech32.IsLabel label.toList) (h : toText label a = .ok t) :
    ofText t = .ok (label, a) := by
  rw [toText, if_pos (length_of_toText h)] at h
  rw [← Except.ok.inj h, ofText, String.toList_ofList,
    Bech32.decode?_encode hlabel fun g (hg : g ∈ Bech32.toGroups a) => Bech32.lt_of_mem_fives hg]
  simp only [Bech32.ofGroups?_toGroups, String.ofList_toList]

/-- A text with an unreadable label is the address of no account. -/
theorem ofText_of_not_readable {c : Char} (hc : c ∈ label.toList) (hread : ¬ Bech32.IsReadable c)
    (h : toText label a = .ok t) : ofText t = .error (.value .bech32) := by
  rw [toText, if_pos (length_of_toText h)] at h
  have hnone := Bech32.decode?_of_not_readable (List.mem_append_left
    ('1' :: (Bech32.toGroups a ++ Bech32.checksum label.toList (Bech32.toGroups a)).map
      Bech32.letter) hc) hread
  rw [← Except.ok.inj h, ofText, String.toList_ofList, Bech32.encode, hnone]

end Address

end Regenesis

import Mathlib
import Regenesis.Store.Layout
import Regenesis.Proofs.Decimal
import Regenesis.Proofs.Store.Rows

/-!
# Proofs.Store.Layout — keys and their order

Byte strings of one length are in the order of the numbers that they stand for, so the keys of
heights are in the order of the heights. A range whose ends have the same beginning holds keys with
this beginning only. No beginning of keys begins another one, so that keys of different kinds are
never the same. All that the layout promises to those who read and write stands in one place:
`layout_faithful`. An integer that no key holds is refused with a message that shows it, which fails
in its turn if the integer has too many digits.
-/

namespace Regenesis

namespace Octets

variable {a b key tag : Octets}

-- ---------------------------------------------------------------------------
-- Numbers
-- ---------------------------------------------------------------------------

/-- Bytes stand for a number below the power of 256 that has their length as its exponent. -/
theorem toNat_lt_pow (b : Octets) : toNat b < 256 ^ b.length := by
  induction b using List.reverseRecOn with
  | nil => exact Nat.one_pos
  | append_singleton b x ih =>
    have hx := x.toNat_lt
    rw [toNat_append_singleton, List.length_append, List.length_singleton, Nat.pow_succ]
    omega

/-- The first byte has the greatest weight. -/
theorem toNat_cons (x : UInt8) (b : Octets) :
    toNat (x :: b) = x.toNat * 256 ^ b.length + toNat b := by
  induction b using List.reverseRecOn with
  | nil => simp [toNat]
  | append_singleton b y ih =>
    rw [← List.cons_append, toNat_append_singleton, ih, toNat_append_singleton,
      List.length_append, List.length_singleton, Nat.pow_succ]
    ring

/-- A byte string is the big-endian form of its number, in its own length. -/
theorem bigEndian_toNat (b : Octets) : bigEndian b.length (toNat b) = b := by
  induction b using List.reverseRecOn with
  | nil => rfl
  | append_singleton b x ih =>
    have hx := x.toNat_lt
    have hdiv : (toNat b * 256 + x.toNat) / 256 = toNat b := by omega
    have hmod : (toNat b * 256 + x.toNat) % 256 = x.toNat := by omega
    rw [List.length_append, List.length_singleton, toNat_append_singleton, bigEndian, hdiv, hmod,
      ih, UInt8.ofNat_toNat]

/-- A number that has room is read from its bytes. -/
theorem toNat_bigEndian_of_lt {width n : Nat} (h : n < 256 ^ width) :
    toNat (bigEndian width n) = n := by
  rw [toNat_bigEndian]
  exact Nat.mod_eq_of_lt h

/-- Numbers that have room never share their bytes. -/
theorem bigEndian_inj {width m n : Nat} (hm : m < 256 ^ width) (hn : n < 256 ^ width) :
    bigEndian width m = bigEndian width n ↔ m = n := by
  refine ⟨fun h => ?_, congrArg _⟩
  rw [← toNat_bigEndian_of_lt hm, h, toNat_bigEndian_of_lt hn]

/-- **Order of numbers.** Byte strings of one length are in the order of their numbers. -/
theorem toNat_lt_toNat_iff (h : a.length = b.length) : toNat a < toNat b ↔ a < b := by
  induction a generalizing b with
  | nil =>
    rw [List.eq_nil_of_length_eq_zero h.symm]
    exact iff_of_false (Nat.lt_irrefl _) (List.lt_irrefl _)
  | cons x a ih =>
    cases b with
    | nil => exact nomatch h
    | cons y b =>
      have hlength := Nat.succ.inj h
      have ha := toNat_lt_pow a
      have hb := toNat_lt_pow b
      rw [← hlength] at hb
      rw [List.cons_lt_cons_iff, ← ih hlength, toNat_cons, toNat_cons, ← hlength,
        UInt8.lt_iff_toNat_lt, ← UInt8.toNat_inj]
      constructor
      · intro hlt
        -- the first bytes decide, unless they are equal
        rcases Nat.lt_trichotomy x.toNat y.toNat with hxy | hxy | hxy
        · exact Or.inl hxy
        · rw [hxy] at hlt
          exact Or.inr ⟨hxy, by omega⟩
        · -- a greater first byte weighs more than all that stands behind the other one
          have hmul : (y.toNat + 1) * 256 ^ a.length ≤ x.toNat * 256 ^ a.length :=
            Nat.mul_le_mul_right _ hxy
          rw [Nat.add_mul] at hmul
          omega
      · rintro (hxy | ⟨hxy, hlt⟩)
        · have hmul : (x.toNat + 1) * 256 ^ a.length ≤ y.toNat * 256 ^ a.length :=
            Nat.mul_le_mul_right _ hxy
          rw [Nat.add_mul] at hmul
          omega
        · rw [hxy]
          omega

-- ---------------------------------------------------------------------------
-- Common beginnings
-- ---------------------------------------------------------------------------

/-- Behind one tag, keys are in the order of what stands behind it. -/
theorem append_lt_append_iff : tag ++ a < tag ++ b ↔ a < b := by
  induction tag with
  | nil => exact Iff.rfl
  | cons t tag ih =>
    rw [List.cons_append, List.cons_append, List.cons_lt_cons_iff, ih]
    constructor
    · rintro (hlt | ⟨-, hlt⟩)
      · exact absurd hlt (UInt8.lt_irrefl t)
      · exact hlt
    · exact fun hlt => Or.inr ⟨rfl, hlt⟩

theorem append_le_append_iff : tag ++ a ≤ tag ++ b ↔ a ≤ b := by
  rw [← List.not_lt, append_lt_append_iff, List.not_lt]

/-- What lies between keys of one beginning has the beginning. -/
theorem exists_append_of_between (hlow : tag ++ a ≤ key) (hhigh : key ≤ tag ++ b) :
    ∃ x, key = tag ++ x ∧ a ≤ x ∧ x ≤ b := by
  suffices hprefix : ∃ x, key = tag ++ x by
    obtain ⟨x, rfl⟩ := hprefix
    exact ⟨x, rfl, append_le_append_iff.1 hlow, append_le_append_iff.1 hhigh⟩
  -- between two texts that begin alike, a text begins as they do
  induction tag generalizing key with
  | nil => exact ⟨key, rfl⟩
  | cons t tag ih =>
    cases key with
    | nil => exact absurd (List.nil_lt_cons t (tag ++ a)) hlow
    | cons c key =>
      rw [List.cons_append, List.cons_le_cons_iff] at hlow hhigh
      obtain ⟨rfl, hbehind⟩ : t = c ∧ tag ++ a ≤ key := by
        rcases hlow with hlt | hlow
        · rcases hhigh with hgt | ⟨rfl, -⟩
          · exact absurd hlt (UInt8.lt_asymm hgt)
          · exact absurd hlt (UInt8.lt_irrefl c)
        · exact hlow
      have hhigh : key ≤ tag ++ b := by
        rcases hhigh with hlt | ⟨-, hhigh⟩
        · exact absurd hlt (UInt8.lt_irrefl t)
        · exact hhigh
      obtain ⟨x, rfl⟩ := ih hbehind hhigh
      exact ⟨x, rfl⟩

/-- Of all bytes of one length, the zeros are the least. -/
theorem replicate_zero_le (a : Octets) : List.replicate a.length 0x00 ≤ a := by
  induction a with
  | nil => exact List.le_refl _
  | cons x a ih =>
    rw [List.length_cons, List.replicate_succ, List.cons_le_cons_iff]
    rcases Nat.eq_zero_or_pos x.toNat with hx | hx
    · exact Or.inr ⟨(UInt8.toNat_inj.1 hx).symm, ih⟩
    · exact Or.inl (UInt8.lt_iff_toNat_lt.2 hx)

/-- Of all bytes of one length, those that are all 0xff are the greatest. -/
theorem le_replicate_max (a : Octets) : a ≤ List.replicate a.length 0xff := by
  induction a with
  | nil => exact List.le_refl _
  | cons x a ih =>
    have hx := x.toNat_lt
    rw [List.length_cons, List.replicate_succ, List.cons_le_cons_iff]
    rcases Nat.lt_or_eq_of_le (Nat.le_of_lt_succ hx) with hlt | heq
    · exact Or.inl (UInt8.lt_iff_toNat_lt.2 hlt)
    · exact Or.inr ⟨UInt8.toNat_inj.1 heq, ih⟩

end Octets

namespace Layout

-- ---------------------------------------------------------------------------
-- Kinds of keys
-- ---------------------------------------------------------------------------

/-- The beginnings of all kinds of keys. -/
def tags : List Octets :=
  [accountTag, heightTag, blockTag, blockTransactionsTag, transactionTag, chainTag]

/-- No tag begins with another one. -/
theorem not_prefix_of_mem_tags : ∀ t ∈ tags, ∀ t' ∈ tags, t ≠ t' → ¬ t <+: t' := by
  decide

/-- A key tells its kind. -/
theorem tag_eq_of_append_eq {t t' x y : Octets} (ht : t ∈ tags) (ht' : t' ∈ tags)
    (h : t ++ x = t' ++ y) : t = t' := by
  by_contra hne
  have hprefix : t <+: t' ++ y := h ▸ List.prefix_append t x
  rcases List.prefix_or_prefix_of_prefix hprefix (List.prefix_append t' y) with htt | htt
  · exact not_prefix_of_mem_tags t ht t' ht' hne htt
  · exact not_prefix_of_mem_tags t' ht' t ht (Ne.symm hne) htt

theorem nodup_tags : tags.Nodup := by decide

/-- What makes keys of any bytes: of addresses, ids and names. A height has a key of four bytes, and
none if it does not fit. -/
def builders : List (Octets → Octets) :=
  [accountKey, blockKey, blockTransactionsKey, transactionKey, chainKey]

/-- A builder puts the beginning of its kind in front. -/
theorem builders_eq : builders = (tags.erase heightTag).map fun t x => t ++ x := by
  have htags : tags.erase heightTag =
      [accountTag, blockTag, blockTransactionsTag, transactionTag, chainTag] := by decide
  rw [htags]
  rfl

/-- A builder puts its tag in front, which is none of the height index. -/
theorem exists_tag_of_mem_builders {f : Octets → Octets} (h : f ∈ builders) :
    ∃ t ∈ tags, t ≠ heightTag ∧ f = fun x => t ++ x := by
  rw [builders_eq] at h
  obtain ⟨t, ht, rfl⟩ := List.mem_map.1 h
  obtain ⟨hne, hmem⟩ := nodup_tags.mem_erase_iff.1 ht
  exact ⟨t, hmem, hne, rfl⟩

/-- A builder makes different keys of different bytes. -/
theorem injective_of_mem_builders {f : Octets → Octets} (h : f ∈ builders) :
    Function.Injective f := by
  obtain ⟨t, -, -, rfl⟩ := exists_tag_of_mem_builders h
  exact fun _ _ => List.append_cancel_left

/-- Different builders make different keys. -/
theorem pairwise_builders : builders.Pairwise fun f g => ∀ x y, f x ≠ g y := by
  rw [builders_eq, List.pairwise_map]
  refine (nodup_tags.erase heightTag).imp_of_mem fun ht ht' hne x y heq => hne ?_
  exact tag_eq_of_append_eq (List.mem_of_mem_erase ht) (List.mem_of_mem_erase ht') heq

-- ---------------------------------------------------------------------------
-- Accounts
-- ---------------------------------------------------------------------------

/-- The address is read from the key of its account. -/
theorem addressOfKey_accountKey (address : Octets) : addressOfKey (accountKey address) = address :=
  List.drop_left

/-- Keys in the range of accounts are keys of accounts, with addresses of any length. -/
theorem exists_accountKey_of_mem_range {key : Octets} (hlow : accountRange.1 ≤ key)
    (hhigh : key ≤ accountRange.2) : ∃ address, key = accountKey address := by
  obtain ⟨address, h, -⟩ := Octets.exists_append_of_between hlow hhigh
  exact ⟨address, h⟩

/-- The range of accounts has the keys of all addresses of twenty bytes. -/
theorem accountKey_mem_range {address : Octets} (h : address.length = Address.length) :
    accountRange.1 ≤ accountKey address ∧ accountKey address ≤ accountRange.2 := by
  rw [accountRange, ← h]
  exact ⟨Octets.append_le_append_iff.2 (Octets.replicate_zero_le address),
    Octets.append_le_append_iff.2 (Octets.le_replicate_max address)⟩

-- ---------------------------------------------------------------------------
-- Heights
-- ---------------------------------------------------------------------------

/-- Numbers of the size of a height can be written. -/
theorem fits_of_natAbs_le {n : Int} (h : n.natAbs ≤ maxHeight + 1) :
    Decimal.fits n = true := by
  have hfits : Decimal.fits 4294967296 = true := by decide
  have hmax : maxHeight = 4294967295 := by decide
  exact Decimal.fits_of_natAbs_le (by omega) hfits

theorem checkHeight_of_mem {height : Int} (h : 0 ≤ height ∧ height ≤ maxHeight) :
    checkHeight height = .ok () := if_pos h

/-- An integer that no key holds is refused, and shown. -/
theorem checkHeight_of_fits {height : Int} (h : ¬(0 ≤ height ∧ height ≤ maxHeight))
    (hfits : Decimal.fits height = true) :
    checkHeight height = .error (.range (.heightOutside height maxHeight)) := by
  have hprint := Decimal.print_of_fits (List.forall_mem_singleton.2 hfits)
  rw [checkHeight, if_neg h, hprint, Outcome.ok_bind]

/-- An integer with too many digits cannot be shown. -/
theorem checkHeight_of_not_fits {height : Int} (h : Decimal.fits height = false) :
    checkHeight height = .error (.value (.integer .tooLarge)) := by
  have hout : ¬(0 ≤ height ∧ height ≤ maxHeight) := by
    rintro ⟨hzero, hmax⟩
    rw [fits_of_natAbs_le (by omega)] at h
    exact nomatch h
  rw [checkHeight, if_neg hout, Decimal.print_of_not_fits (List.mem_singleton.2 rfl) h,
    Outcome.error_bind]

/-- Only heights that keys hold pass the check. -/
theorem checkHeight_eq_ok {height : Int} :
    checkHeight height = .ok () ↔ 0 ≤ height ∧ height ≤ maxHeight := by
  refine ⟨fun h => ?_, checkHeight_of_mem⟩
  by_contra hout
  cases hfits : Decimal.fits height with
  | true => exact nomatch (checkHeight_of_fits hout hfits).symm.trans h
  | false => exact nomatch (checkHeight_of_not_fits hfits).symm.trans h

/-- The key of a height is its tag and its four bytes. -/
theorem heightKey_eq_ok {height : Int} {key : Octets} :
    heightKey height = .ok key ↔ (0 ≤ height ∧ height ≤ maxHeight) ∧
      key = heightTag ++ Octets.bigEndian heightWidth height.toNat := by
  rw [heightKey, Outcome.bind_pure_eq_ok, ← checkHeight_eq_ok]
  exact ⟨fun ⟨_, hcheck, hkey⟩ => ⟨hcheck, hkey⟩, fun ⟨hcheck, hkey⟩ => ⟨(), hcheck, hkey⟩⟩

theorem exists_heightKey {height : Int} (h : 0 ≤ height ∧ height ≤ maxHeight) :
    ∃ key, heightKey height = .ok key :=
  ⟨_, heightKey_eq_ok.2 ⟨h, rfl⟩⟩

theorem maxHeight_lt {height : Int} (h : height ≤ maxHeight) :
    height.toNat < 256 ^ heightWidth := by
  have hmax : maxHeight = 4294967295 := by decide
  have hpow : 256 ^ heightWidth = 4294967296 := by decide
  omega

/-- Heights are in the order of their keys. -/
theorem heightKey_lt_iff {height height' : Int} {key key' : Octets}
    (h : heightKey height = .ok key) (h' : heightKey height' = .ok key') :
    key < key' ↔ height < height' := by
  obtain ⟨⟨hzero, hmax⟩, rfl⟩ := heightKey_eq_ok.1 h
  obtain ⟨⟨hzero', hmax'⟩, rfl⟩ := heightKey_eq_ok.1 h'
  have hlength : (Octets.bigEndian heightWidth height.toNat).length =
      (Octets.bigEndian heightWidth height'.toNat).length := by
    rw [Octets.length_bigEndian, Octets.length_bigEndian]
  rw [Octets.append_lt_append_iff, ← Octets.toNat_lt_toNat_iff hlength,
    Octets.toNat_bigEndian_of_lt (maxHeight_lt hmax),
    Octets.toNat_bigEndian_of_lt (maxHeight_lt hmax')]
  omega

/-- Keys of heights are in the order of the heights. -/
theorem heightKey_le_iff {height height' : Int} {key key' : Octets}
    (h : heightKey height = .ok key) (h' : heightKey height' = .ok key') :
    key ≤ key' ↔ height ≤ height' := by
  rw [← List.not_lt, heightKey_lt_iff h' h, Int.not_lt]

/-- Four bytes behind the beginning of the height index make the key of a height. -/
theorem heightKey_toNat {b : Octets} (h : b.length = heightWidth) :
    heightKey (Octets.toNat b) = .ok (heightTag ++ b) := by
  have hlt := Octets.toNat_lt_pow b
  have hmax : maxHeight = 4294967295 := by decide
  have hpow : 256 ^ heightWidth = 4294967296 := by decide
  rw [h] at hlt
  refine heightKey_eq_ok.2 ⟨⟨Int.natCast_nonneg _, by omega⟩, ?_⟩
  rw [Int.toNat_natCast, ← h, Octets.bigEndian_toNat]

theorem heightOfKey_append (b : Octets) : heightOfKey (heightTag ++ b) = Octets.toNat b := by
  rw [heightOfKey, List.drop_left]

/-- The key of a height tells the height. -/
theorem heightOfKey_heightKey {height : Int} {key : Octets} (h : heightKey height = .ok key) :
    (heightOfKey key : Int) = height := by
  obtain ⟨⟨hzero, hmax⟩, rfl⟩ := heightKey_eq_ok.1 h
  rw [heightOfKey_append, Octets.toNat_bigEndian_of_lt (maxHeight_lt hmax),
    Int.toNat_of_nonneg hzero]

/-- The key of a height is no key that a builder makes. -/
theorem ne_heightKey_of_mem_builders {f : Octets → Octets} (hf : f ∈ builders) {height : Int}
    {key : Octets} (h : heightKey height = .ok key) (x : Octets) : f x ≠ key := by
  obtain ⟨t, ht, hne, rfl⟩ := exists_tag_of_mem_builders hf
  obtain ⟨-, rfl⟩ := heightKey_eq_ok.1 h
  exact fun heq => hne (tag_eq_of_append_eq ht (by decide) heq)

section
variable {first last : Int} {low high key : Octets}

/-- Keys between those of two heights are keys of the height index, with any number of bytes. -/
theorem exists_append_of_heights (hlow : heightKey first = .ok low)
    (hhigh : heightKey last = .ok high) (hge : low ≤ key) (hle : key ≤ high) :
    ∃ x, key = heightTag ++ x := by
  obtain ⟨-, rfl⟩ := heightKey_eq_ok.1 hlow
  obtain ⟨-, rfl⟩ := heightKey_eq_ok.1 hhigh
  obtain ⟨x, hx, -⟩ := Octets.exists_append_of_between hge hle
  exact ⟨x, hx⟩

/-- Those with four bytes are the keys of the heights between. -/
theorem mem_heights_iff (hlow : heightKey first = .ok low) (hhigh : heightKey last = .ok high) :
    low ≤ key ∧ key ≤ high ∧ (key.drop heightTag.length).length = heightWidth ↔
      ∃ height, first ≤ height ∧ height ≤ last ∧ heightKey height = .ok key := by
  constructor
  · rintro ⟨hge, hle, hwidth⟩
    obtain ⟨x, rfl⟩ := exists_append_of_heights hlow hhigh hge hle
    rw [List.drop_left] at hwidth
    have hkey := heightKey_toNat hwidth
    exact ⟨_, (heightKey_le_iff hlow hkey).1 hge, (heightKey_le_iff hkey hhigh).1 hle, hkey⟩
  · rintro ⟨height, hge, hle, hkey⟩
    refine ⟨(heightKey_le_iff hlow hkey).2 hge, (heightKey_le_iff hkey hhigh).2 hle, ?_⟩
    rw [(heightKey_eq_ok.1 hkey).2, List.drop_left, Octets.length_bigEndian]

end

-- ---------------------------------------------------------------------------
-- The layout
-- ---------------------------------------------------------------------------

/-- **The layout.** Heights up to 2^32 - 1 have keys, from which they are read again and whose order
is theirs; other integers are refused as out of range, or, if they have too many digits to be shown,
as numbers that cannot be written. Each builder tells what it was given, no two builders make
one key, and none makes the key of a height. The range of accounts has keys of accounts only, and
those of all addresses of twenty bytes. Between the keys of two heights there are keys of the height
index only, and those with four bytes are the keys of the heights between. -/
theorem layout_faithful (a b : Int) :
    maxHeight = 2 ^ 32 - 1 ∧
    (0 ≤ a ∧ a ≤ maxHeight → 0 ≤ b ∧ b ≤ maxHeight → ∃ low high,
      heightKey a = .ok low ∧ heightKey b = .ok high ∧ (low < high ↔ a < b) ∧
      (heightOfKey low : Int) = a ∧
      (∀ key, low ≤ key → key ≤ high → heightTag <+: key) ∧
      ∀ key, low ≤ key ∧ key ≤ high ∧ (key.drop heightTag.length).length = heightWidth ↔
        ∃ height, a ≤ height ∧ height ≤ b ∧ heightKey height = .ok key) ∧
    (¬(0 ≤ a ∧ a ≤ maxHeight) →
      (Decimal.fits a = true → heightKey a = .error (.range (.heightOutside a maxHeight))) ∧
      (Decimal.fits a = false → heightKey a = .error (.value (.integer .tooLarge)))) ∧
    (∀ f ∈ builders, Function.Injective f) ∧
    builders.Pairwise (fun f g => ∀ x y, f x ≠ g y) ∧
    (∀ f ∈ builders, ∀ height key, heightKey height = .ok key → ∀ x, f x ≠ key) ∧
    (∀ key, accountRange.1 ≤ key → key ≤ accountRange.2 → accountTag <+: key) ∧
    ∀ x, x.length = Address.length →
      accountRange.1 ≤ accountKey x ∧ accountKey x ≤ accountRange.2 := by
  refine ⟨by decide, fun ha hb => ?_, fun ha => ?_, fun f => injective_of_mem_builders,
    pairwise_builders, fun f hf height key => ne_heightKey_of_mem_builders hf,
    fun key hlow hhigh => ?_, fun x => accountKey_mem_range⟩
  · obtain ⟨low, hlow⟩ := exists_heightKey ha
    obtain ⟨high, hhigh⟩ := exists_heightKey hb
    refine ⟨low, high, hlow, hhigh, heightKey_lt_iff hlow hhigh, heightOfKey_heightKey hlow,
      fun key hge hle => ?_, fun key => mem_heights_iff hlow hhigh⟩
    obtain ⟨x, rfl⟩ := exists_append_of_heights hlow hhigh hge hle
    exact List.prefix_append heightTag x
  · refine ⟨fun hfits => ?_, fun hfits => ?_⟩
    · rw [heightKey, checkHeight_of_fits ha hfits, Outcome.error_bind]
    · rw [heightKey, checkHeight_of_not_fits hfits, Outcome.error_bind]
  · obtain ⟨x, rfl⟩ := exists_accountKey_of_mem_range hlow hhigh
    exact List.prefix_append accountTag x

/-- The least height with too many digits is not refused as out of range. -/
theorem heightKey_of_overlong :
    ¬((10 ^ Decimal.maxDigits : Nat) : Int) ≤ maxHeight ∧
      heightKey ((10 ^ Decimal.maxDigits : Nat) : Int) = .error (.value (.integer .tooLarge)) := by
  have hfits : Decimal.fits ((10 ^ Decimal.maxDigits : Nat) : Int) = false :=
    Decimal.fits_eq_false (Int.natAbs_natCast _).ge
  have hcheck := checkHeight_of_not_fits hfits
  refine ⟨fun hle => ?_, ?_⟩
  · rw [checkHeight_of_mem ⟨Int.natCast_nonneg _, hle⟩] at hcheck
    exact nomatch hcheck
  · rw [heightKey, hcheck, Outcome.error_bind]

end Layout

end Regenesis

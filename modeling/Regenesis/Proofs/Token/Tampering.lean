import Mathlib
import Regenesis.Proofs.Assembly.Parts
import Regenesis.Proofs.Record.Checked
import Regenesis.Proofs.Token.Supply

/-!
# Proofs.Token.Tampering — no single change to the token data passes

The token data that are handed on are read back from their members and pass the check of the supply.
A single change of an amount, of a token, or of the number of times that something is listed does
not: what is held before and after are sums around the place of the change, so they cannot be the
same (`Differ`), or it is the declared supplies that are not the same. The failure is the one for a
supply that does not add up, as long as the numbers are not too long to be read and written, and
only then; with fewer digits in all numbers that go in, they never are (`tampering_detected`,
`overlong_sum_not_reported`).
-/

namespace Regenesis.Genesis.Token

open Record

-- ---------------------------------------------------------------------------
-- Reading the data back
-- ---------------------------------------------------------------------------

theorem LockedBalance.ofJson_toJson (l : LockedBalance) : ofJson l.toJson = .ok l := rfl

theorem SupplyEntry.ofJson_toJson (s : SupplyEntry) : ofJson s.toJson = .ok s := rfl

theorem UserEntry.ofJson_toJson (u : UserEntry) : ofJson u.toJson = .ok u := by
  refine readRecord_eq_ok.2 ⟨_, rfl, seq_eq_ok.2 ⟨_, _, rfl, ?_, rfl⟩⟩
  exact under_eq_ok.2 (list_map_ok LockedBalance.ofJson_toJson u.lockedBalances)

/-- Data are read from their members. -/
theorem Data.ofJson_toJson (d : Data) : ofJson d.toJson = .ok d := by
  have hobject : ∀ m : Json.Members, object (.obj m) = .ok m := fun _ => rfl
  refine readRecord_eq_ok.2 ⟨_, rfl, ?_⟩
  refine seq_eq_ok.2 ⟨_, _, seq_eq_ok.2 ⟨_, _, seq_eq_ok.2 ⟨_, _,
    map_eq_ok.2 ⟨_, ?_, rfl⟩, ?_, rfl⟩, ?_, rfl⟩, ?_, rfl⟩
  · exact under_eq_ok.2 (list_map_ok UserEntry.ofJson_toJson d.users)
  · exact under_eq_ok.2 (list_map_ok SupplyEntry.ofJson_toJson d.supplies)
  · exact under_eq_ok.2 (list_map_ok hobject d.escrow)
  · exact under_eq_ok.2 (list_map_ok hobject d.supportedTokens)

/-- Data are read back from their members, so different data have different members. -/
theorem Data.toJson_injective {d e : Data} (h : d.toJson = e.toJson) : d = e :=
  Checked.ok.inj ((ofJson_toJson d).symm.trans (h ▸ ofJson_toJson e))

-- ---------------------------------------------------------------------------
-- Single changes
-- ---------------------------------------------------------------------------

/-- One change to a list: an item is changed, is removed, or is there once more. -/
inductive Edit {α : Type} (Changed : α → α → Prop) (Counts : α → Prop) : List α → List α → Prop
  | changed {x y : α} (before after : List α) (h : Changed x y) :
      Edit Changed Counts (before ++ x :: after) (before ++ y :: after)
  | removed {x : α} (before after : List α) (h : Counts x) :
      Edit Changed Counts (before ++ x :: after) (before ++ after)
  | repeated {x : α} (before after : List α) (hmem : x ∈ before ++ after) (h : Counts x) :
      Edit Changed Counts (before ++ after) (before ++ x :: after)

variable {allowed : Int → Prop}

/-- Another amount in a lock, in decimal notation. -/
def LockedBalance.Tampered (allowed : Int → Prop) (l l' : LockedBalance) : Prop :=
  ∃ m, allowed m ∧ Decimal.readText l.amount ≠ .ok m ∧ l' = { l with amount := Decimal.ofInt m }

/-- Another declared supply, in decimal notation. -/
def SupplyEntry.Tampered (allowed : Int → Prop) (s s' : SupplyEntry) : Prop :=
  ∃ m, allowed m ∧ Decimal.readText s.totalSupply ≠ .ok m ∧
    s' = { s with totalSupply := Decimal.ofInt m }

/-- One change to an entry: to its available balance or to its locks, or another token where there
is anything that the entry holds. Locks that are removed or repeated hold something as well. -/
inductive UserEntry.Tampered (allowed : Int → Prop) (u : UserEntry) : UserEntry → Prop
  | available {m : Int} (hallowed : allowed m) (h : Decimal.readText u.availableBalance ≠ .ok m) :
      Tampered allowed u { u with availableBalance := Decimal.ofInt m }
  | locks {locks : List LockedBalance}
      (h : Edit (LockedBalance.Tampered allowed) (fun l => Decimal.readText l.amount ≠ .ok 0)
        u.lockedBalances locks) :
      Tampered allowed u { u with lockedBalances := locks }
  | token {tokenId : String} (hne : tokenId ≠ u.tokenId) (h : sumTexts u.amounts ≠ .ok 0) :
      Tampered allowed u { u with tokenId := tokenId }

/-- One change to the data: to the entries, or to the declared supplies. Entries that are removed or
repeated hold something. Only integers that are allowed are put in. -/
inductive Data.Tampered (allowed : Int → Prop) (d : Data) : Data → Prop
  | users {users : List UserEntry}
      (h : Edit (UserEntry.Tampered allowed) (fun u => sumTexts u.amounts ≠ .ok 0) d.users users) :
      Tampered allowed d { d with users := users }
  | supplies {supplies : List SupplyEntry}
      (h : Edit (SupplyEntry.Tampered allowed) (fun _ => True) d.supplies supplies) :
      Tampered allowed d { d with supplies := supplies }

/-- What is in a list after a change was there before, or something was changed to it. -/
theorem Edit.mem {α : Type} {Changed : α → α → Prop} {Counts : α → Prop} {xs ys : List α}
    (h : Edit Changed Counts xs ys) {y : α} (hy : y ∈ ys) : y ∈ xs ∨ ∃ x ∈ xs, Changed x y := by
  cases h with
  | @changed x z before after h =>
    rcases List.mem_append.1 hy with hy | hy
    · exact Or.inl (List.mem_append_left _ hy)
    · rcases List.mem_cons.1 hy with rfl | hy
      · exact Or.inr ⟨x, by simp, h⟩
      · exact Or.inl (by simp [hy])
  | removed before after h =>
    rcases List.mem_append.1 hy with hy | hy
    · exact Or.inl (List.mem_append_left _ hy)
    · exact Or.inl (by simp [hy])
  | repeated before after hmem h =>
    rcases List.mem_append.1 hy with hy | hy
    · exact Or.inl (List.mem_append_left _ hy)
    · rcases List.mem_cons.1 hy with rfl | hy
      · exact Or.inl hmem
      · exact Or.inl (List.mem_append_right _ hy)

-- ---------------------------------------------------------------------------
-- Sums around the place of a change
-- ---------------------------------------------------------------------------

section
variable {xs ys before after : List String} {n excess : Int}

/-- A sum of texts is the sum of its parts, each of which can be read. -/
theorem sumTexts_within_eq_ok :
    sumTexts (before ++ xs ++ after) = .ok n ↔
      ∃ a k c, sumTexts before = .ok a ∧ sumTexts xs = .ok k ∧ sumTexts after = .ok c ∧
        n = a + k + c := by
  constructor
  · intro h
    obtain ⟨_, c, hfront, hc, rfl⟩ := sumTexts_append_eq_ok.1 h
    obtain ⟨a, k, ha, hk, rfl⟩ := sumTexts_append_eq_ok.1 hfront
    exact ⟨a, k, c, ha, hk, hc, rfl⟩
  · rintro ⟨a, k, c, ha, hk, hc, rfl⟩
    exact sumTexts_append (sumTexts_append ha hk) hc

/-- Whether two rows of amounts do not add up to the same. -/
def Differ (xs ys : List String) : Prop := ∀ n, sumTexts xs = .ok n → sumTexts ys ≠ .ok n

/-- What stands around two lists does not make their sums equal. -/
theorem Differ.within (h : Differ xs ys) (before after : List String) :
    Differ (before ++ xs ++ after) (before ++ ys ++ after) := by
  intro n hx hy
  obtain ⟨a, k, c, ha, hk, hc, rfl⟩ := sumTexts_within_eq_ok.1 hx
  obtain ⟨a', k', c', ha', hk', hc', hsum⟩ := sumTexts_within_eq_ok.1 hy
  obtain rfl := Except.ok.inj (ha.symm.trans ha')
  obtain rfl := Except.ok.inj (hc.symm.trans hc')
  obtain rfl : k = k' := by omega
  exact h k hk hk'

/-- To drop texts changes the sum, unless they can be read and add up to zero. -/
theorem differ_nil (h : sumTexts xs ≠ .ok 0) : Differ xs [] := by
  intro n hx hnil
  obtain rfl : 0 = n := Except.ok.inj hnil
  exact h hx

theorem Differ.symm (h : Differ xs ys) : Differ ys xs := fun n hy hx => h n hx hy

/-- Whether amounts can be read, and none is negative. -/
def Nonneg (xs : List String) : Prop := ∀ s ∈ xs, ∃ k, Decimal.readText s = .ok k ∧ 0 ≤ k

/-- Texts of numbers that are not negative have such a sum. -/
theorem Nonneg.sum (h : Nonneg xs) (hn : sumTexts xs = .ok n) : 0 ≤ n := by
  obtain ⟨ns, hns, rfl⟩ := Outcome.bind_pure_eq_ok.1 hn
  refine Amount.sumInt_nonneg fun k hk => ?_
  obtain ⟨s, hs, hread⟩ := Outcome.exists_of_mem_mapM hns hk
  obtain ⟨k', hk', hpos⟩ := h s hs
  rwa [Except.ok.inj (hread.symm.trans hk')]

/-- A part of such texts is made of such texts. -/
theorem Nonneg.within (h : Nonneg (before ++ xs ++ after)) :
    Nonneg before ∧ Nonneg xs ∧ Nonneg after := by
  obtain ⟨hfront, hafter⟩ := List.forall_mem_append.1 h
  obtain ⟨hbefore, hxs⟩ := List.forall_mem_append.1 hfront
  exact ⟨hbefore, hxs, hafter⟩

/-- No part of a row holds more than the row, if no amount is negative. -/
theorem Nonneg.exists_le (h : Nonneg ys) (hn : sumTexts ys = .ok n) (hpart : xs <:+: ys) :
    ∃ k, sumTexts xs = .ok k ∧ 0 ≤ k ∧ k ≤ n := by
  obtain ⟨before, after, rfl⟩ := hpart
  obtain ⟨a, k, c, ha, hk, hc, rfl⟩ := sumTexts_within_eq_ok.1 hn
  obtain ⟨hbefore, hxs, hafter⟩ := h.within
  have hapos := hbefore.sum ha
  have hkpos := hxs.sum hk
  have hcpos := hafter.sum hc
  exact ⟨k, hk, hkpos, by omega⟩

/-- Whether amounts add up to no more than twice as much as before, but for an excess, if none was
negative before. -/
def Bounded (excess : Int) (xs ys : List String) : Prop :=
  ∀ n, Nonneg xs → sumTexts xs = .ok n → ∃ m, sumTexts ys = .ok m ∧ |m| ≤ 2 * n + excess

/-- What stands around two lists does not move their sums further apart. -/
theorem Bounded.within (h : Bounded excess xs ys) (before after : List String) :
    Bounded excess (before ++ xs ++ after) (before ++ ys ++ after) := by
  intro n hpos hx
  obtain ⟨hbefore, hxs, hafter⟩ := hpos.within
  obtain ⟨a, k, c, ha, hk, hc, rfl⟩ := sumTexts_within_eq_ok.1 hx
  obtain ⟨m, hm, hle⟩ := h k hxs hk
  refine ⟨a + m + c, sumTexts_within_eq_ok.2 ⟨a, m, c, ha, hm, hc, rfl⟩, ?_⟩
  have hapos := hbefore.sum ha
  have hcpos := hafter.sum hc
  rw [abs_le] at hle ⊢
  omega

end

-- ---------------------------------------------------------------------------
-- Changes seen as changes of amounts
-- ---------------------------------------------------------------------------

/-- Whether a relation holds between the amounts before and after a change, if one of them is
changed, a part of them is taken out, or a part is there once more, whatever is around it. -/
structure TracksChanges (allowed : Int → Prop) (R : List String → List String → Prop) : Prop where
  within : ∀ {xs ys}, R xs ys → ∀ before after, R (before ++ xs ++ after) (before ++ ys ++ after)
  changed : ∀ {s m}, allowed m → Decimal.readText s ≠ .ok m → R [s] [Decimal.ofInt m]
  removed : ∀ {xs}, sumTexts xs ≠ .ok 0 → R xs []
  repeated : ∀ {xs before after}, xs <:+: before ++ after → sumTexts xs ≠ .ok 0 →
    R (before ++ after) (before ++ xs ++ after)

/-- Whatever may be put in, every edit of a balance changes the sum. -/
theorem tracksChanges_differ (allowed : Int → Prop) : TracksChanges allowed Differ where
  within h := h.within
  changed := by
    intro s m _ h n hs hm
    obtain ⟨-, rfl⟩ := Decimal.readText_ofInt_eq_ok.1 (sumTexts_singleton.1 hm)
    exact h (sumTexts_singleton.1 hs)
  removed h := differ_nil h
  repeated := by
    intro xs before after _ h
    simpa using (differ_nil h).symm.within before after

/-- Where only small numbers are put in, no edit of a balance moves the sum far. -/
theorem tracksChanges_bounded {excess : Int}
    (hallowed : ∀ m, allowed m → Decimal.fits m = true ∧ |m| ≤ excess) (hexcess : 0 ≤ excess) :
    TracksChanges allowed (Bounded excess) where
  within h := h.within
  changed := by
    intro s m hm _ n hpos hs
    have hn := hpos.sum hs
    obtain ⟨hfits, hle⟩ := hallowed m hm
    exact ⟨m, sumTexts_singleton.2 (Decimal.readText_ofInt hfits), by omega⟩
  removed := by
    intro xs _ n hpos hx
    have hn := hpos.sum hx
    exact ⟨0, rfl, by rw [abs_zero]; omega⟩
  repeated := by
    intro xs before after hpart _ n hpos hn
    obtain ⟨k, hk, hkpos, hle⟩ := hpos.exists_le hn hpart
    obtain ⟨a, c, ha, hc, rfl⟩ := sumTexts_append_eq_ok.1 hn
    refine ⟨a + k + c, sumTexts_within_eq_ok.2 ⟨a, k, c, ha, hk, hc, rfl⟩, ?_⟩
    rw [abs_le]
    omega

variable {R : List String → List String → Prop}

/-- A change to a list is a change to the amounts of its items. -/
theorem Edit.tracked {α : Type} {Changed : α → α → Prop} {Counts : α → Prop} {f : α → List String}
    {as bs : List α} (h : Edit Changed Counts as bs) (hR : TracksChanges allowed R)
    (hchanged : ∀ a ∈ as, ∀ b, Changed a b → R (f a) (f b))
    (hcounts : ∀ a ∈ as, Counts a → sumTexts (f a) ≠ .ok 0) :
    R (as.flatMap f) (bs.flatMap f) := by
  cases h with
  | @changed a b before after h =>
    have hitem := hchanged a (by simp) b h
    simpa using hR.within hitem (before.flatMap f) (after.flatMap f)
  | @removed a before after h =>
    have hitem := hR.removed (hcounts a (by simp) h)
    simpa using hR.within hitem (before.flatMap f) (after.flatMap f)
  | @repeated a before after hmem h =>
    have hpart : f a <:+: before.flatMap f ++ after.flatMap f := by
      obtain ⟨front, back, hsplit⟩ := List.append_of_mem hmem
      exact ⟨front.flatMap f, back.flatMap f, by rw [← List.flatMap_append, hsplit]; simp⟩
    simpa using hR.repeated hpart (hcounts a hmem h)

variable {tokenId : String} {u u' : UserEntry} {d d' : Data}

/-- The amounts of an entry, if it is about the token. -/
def UserEntry.amountsOf (tokenId : String) (u : UserEntry) : List String :=
  if u.tokenId = tokenId then u.amounts else []

/-- The available balance is the first of the amounts, and each lock has one. -/
theorem UserEntry.amountsOf_of_eq (h : u.tokenId = tokenId) :
    u.amountsOf tokenId =
      [u.availableBalance] ++ u.lockedBalances.flatMap fun l => [l.amount] := by
  rw [UserEntry.amountsOf, if_pos h, UserEntry.amounts, List.map_eq_flatMap]
  rfl

/-- A change to an entry is a change to its amounts. -/
theorem UserEntry.Tampered.tracked (h : u.Tampered allowed u') (hR : TracksChanges allowed R)
    (hu : u.tokenId = tokenId) : R (u.amountsOf tokenId) (u'.amountsOf tokenId) := by
  cases h with
  | @available m hallowed h =>
    have hu' : ({ u with availableBalance := Decimal.ofInt m } : UserEntry).tokenId = tokenId := hu
    rw [amountsOf_of_eq hu, amountsOf_of_eq hu']
    simpa using hR.within (hR.changed hallowed h) [] _
  | @locks locks h =>
    have hlocks : R (u.lockedBalances.flatMap fun l => [l.amount])
        (locks.flatMap fun l => [l.amount]) := by
      refine h.tracked hR ?_ fun l _ hl hzero => hl (sumTexts_singleton.1 hzero)
      rintro l _ _ ⟨m, hallowed, hm, rfl⟩
      exact hR.changed hallowed hm
    have hu' : ({ u with lockedBalances := locks } : UserEntry).tokenId = tokenId := hu
    rw [amountsOf_of_eq hu, amountsOf_of_eq hu']
    simpa using hR.within hlocks [u.availableBalance] []
  | @token other hne h =>
    -- under another token id the entry counts for nothing any more
    rw [amountsOf, amountsOf, if_pos hu, if_neg fun heq => hne (heq.trans hu.symm)]
    exact hR.removed h

/-- What is held of a token is the sum over the amounts of all users. -/
theorem Data.held_eq (d : Data) (tokenId : String) :
    d.held tokenId = sumTexts (d.users.flatMap (UserEntry.amountsOf tokenId)) := by
  rw [Data.held]
  congr 1
  induction d.users with
  | nil => rfl
  | cons u rest ih =>
    rw [List.flatMap_cons, ← ih, UserEntry.amountsOf]
    by_cases h : u.tokenId = tokenId
    · simp [h]
    · simp [h]

/-- A change to the users of one token is a change to what is held of it. -/
theorem Edit.tracked_users {users : List UserEntry}
    (h : Edit (UserEntry.Tampered allowed) (fun u => sumTexts u.amounts ≠ .ok 0) d.users users)
    (hR : TracksChanges allowed R) (husers : ∀ u ∈ d.users, u.tokenId = tokenId) :
    R (d.users.flatMap (UserEntry.amountsOf tokenId))
      (users.flatMap (UserEntry.amountsOf tokenId)) := by
  refine h.tracked hR (fun u hu u' hchanged => hchanged.tracked hR (husers u hu)) ?_
  intro u hu hcounts
  rwa [UserEntry.amountsOf, if_pos (husers u hu)]

-- ---------------------------------------------------------------------------
-- Declared supplies
-- ---------------------------------------------------------------------------

/-- Data of one token declare all supplies that they have. -/
theorem declared_eq_ok_of_tokenId {declared : List Int}
    (h : ∀ s ∈ d.supplies, s.tokenId = tokenId) :
    d.declared tokenId = .ok declared ↔
      List.Forall₂ (fun s m => Decimal.readText s.totalSupply = .ok m) d.supplies declared := by
  have hall : d.supplies.filter (fun s => s.tokenId == tokenId) = d.supplies :=
    List.filter_eq_self.2 fun s hs => beq_iff_eq.2 (h s hs)
  rw [Data.declared, hall, Outcome.mapM_eq_ok, List.forall₂_map_left_iff]

/-- What is declared can be read if each of the declared supplies can. -/
theorem exists_declared (tokenId : String)
    (h : ∀ s ∈ d.supplies, ∃ m, Decimal.readText s.totalSupply = .ok m) :
    ∃ declared, d.declared tokenId = .ok declared := by
  refine Outcome.exists_mapM fun t ht => ?_
  obtain ⟨s, hs, rfl⟩ := List.mem_map.1 ht
  exact h s (List.mem_of_mem_filter hs)

/-- Data that declare one supply declare another, more than one or none after a change to it. -/
theorem declared_ne_of_edit {supplies : List SupplyEntry} {m : Int}
    (h : Edit (SupplyEntry.Tampered allowed) (fun _ => True) d.supplies supplies)
    (hsupplies : ∀ s ∈ d.supplies, s.tokenId = tokenId) (hm : d.declared tokenId = .ok [m]) :
    Data.declared { d with supplies := supplies } tokenId ≠ .ok [m] := by
  have hsupplies' : ∀ s ∈ supplies, s.tokenId = tokenId := by
    intro s hs
    rcases h.mem hs with hs | ⟨old, hold, _, -, -, rfl⟩
    · exact hsupplies s hs
    · exact hsupplies old hold
  intro hm'
  have hone := (declared_eq_ok_of_tokenId hsupplies).1 hm
  have hone' := (declared_eq_ok_of_tokenId hsupplies').1 hm'
  have hlength := hone.length_eq
  have hlength' := hone'.length_eq
  generalize d.supplies = old at h hone hlength
  cases h with
  | @changed s t before after h =>
    -- the one supply is the one that is changed
    obtain ⟨rfl, rfl⟩ : before = [] ∧ after = [] := by
      rw [← List.length_eq_zero_iff, ← List.length_eq_zero_iff]
      simp only [List.length_append, List.length_cons, List.length_nil] at hlength
      omega
    obtain ⟨k, -, hk, rfl⟩ := h
    have hs := (List.forall₂_cons.1 hone).1
    have ht := (List.forall₂_cons.1 hone').1
    obtain ⟨-, rfl⟩ := Decimal.readText_ofInt_eq_ok.1 ht
    exact hk hs
  | removed before after h =>
    simp only [List.length_append, List.length_cons, List.length_nil] at hlength hlength'
    omega
  | repeated before after hmem h =>
    simp only [List.length_append, List.length_cons, List.length_nil] at hlength hlength'
    omega

-- ---------------------------------------------------------------------------
-- The check
-- ---------------------------------------------------------------------------

/-- Data pass the check if they declare what is held, and nothing else. -/
theorem verifySupply_eq_ok :
    verifySupply d tokenId = .ok () ↔
      ∃ held, d.held tokenId = .ok held ∧ d.declared tokenId = .ok [held] := by
  constructor
  · intro h
    obtain ⟨held, hheld, h⟩ := Outcome.bind_eq_ok.1 h
    obtain ⟨declared, hdeclared, h⟩ := Outcome.bind_eq_ok.1 h
    by_cases hne : declared ≠ [held]
    · rw [if_pos hne] at h
      obtain ⟨heldText, -, h⟩ := Outcome.bind_eq_ok.1 h
      obtain ⟨declaredTexts, -, h⟩ := Outcome.bind_eq_ok.1 h
      exact nomatch h
    · exact ⟨held, hheld, by rw [hdeclared, not_not.1 hne]⟩
  · rintro ⟨held, hheld, hdeclared⟩
    rw [verifySupply, hheld, hdeclared, Outcome.ok_bind, Outcome.ok_bind, if_neg (not_not.2 rfl)]
    rfl

/-- A sum that cannot be written cannot be complained about either. -/
theorem verifySupply_of_not_fits {held : Int} {declared : List Int}
    (hheld : d.held tokenId = .ok held) (hdeclared : d.declared tokenId = .ok declared)
    (hfits : Decimal.fits held = false) :
    verifySupply d tokenId = .error (.value (.integer .tooLarge)) := by
  have hne : declared ≠ [held] := by
    rintro rfl
    obtain ⟨s, -, hs⟩ := Outcome.exists_of_mem_mapM hdeclared (List.mem_singleton.2 rfl)
    rw [Decimal.fits_of_readText hs] at hfits
    exact nomatch hfits
  have hwrite : Decimal.writeText held = .error (.value (.integer .tooLarge)) := by
    rw [Decimal.writeText, Decimal.write, hfits]
    rfl
  rw [verifySupply, hheld, hdeclared, Outcome.ok_bind, Outcome.ok_bind, if_pos hne, hwrite]
  rfl

/-- Whether what is held and what is declared can be read, and what is held can be written. -/
structure Data.Shows (d : Data) (tokenId : String) (held : Int) (declared : List Int) : Prop where
  holds : d.held tokenId = .ok held
  declares : d.declared tokenId = .ok declared
  prints : Decimal.fits held = true

/-- Data that show what is wrong with them are refused with it. -/
theorem verifySupply_of_shows {held : Int} {declared : List Int}
    (h : d.Shows tokenId held declared) (hno : verifySupply d tokenId ≠ .ok ()) :
    verifySupply d tokenId = .error (.supply tokenId (Decimal.ofInt held)
      ("[" ++ ", ".intercalate (declared.map Decimal.ofInt) ++ "]")) := by
  have hverify := verifySupply_of_fits h.holds h.declares h.prints
  by_cases hone : declared = [held]
  · exact absurd (verifySupply_eq_ok.2 ⟨held, h.holds, hone ▸ h.declares⟩) hno
  · rw [hverify, if_neg hone]

/-- Data that do not are refused for a number. -/
theorem verifySupply_of_not_shows (h : ∀ held declared, ¬ d.Shows tokenId held declared) :
    ∃ fault, verifySupply d tokenId = .error (.value fault) := by
  have hread : ∀ texts : List String,
      Outcome.FailsWithin (fun e => ∃ fault, e = .value fault) (texts.mapM Decimal.readText) :=
    fun _ => .mapM fun s _ => Decimal.failsWithin_readText s
  cases hheld : d.held tokenId with
  | error e =>
    obtain ⟨fault, rfl⟩ := (hread _).bind (fun _ _ => .ok _) e hheld
    exact ⟨fault, by rw [verifySupply, hheld, Outcome.error_bind]⟩
  | ok held =>
    cases hdeclared : d.declared tokenId with
    | error e =>
      obtain ⟨fault, rfl⟩ := hread _ e hdeclared
      exact ⟨fault, by rw [verifySupply, hheld, hdeclared, Outcome.ok_bind, Outcome.error_bind]⟩
    | ok declared =>
      cases hfits : Decimal.fits held with
      | true => exact absurd ⟨hheld, hdeclared, hfits⟩ (h held declared)
      | false => exact ⟨_, verifySupply_of_not_fits hheld hdeclared hfits⟩

/-- No single change to data of one token that pass the check passes it. -/
theorem Data.Tampered.not_passed (h : d.Tampered allowed d')
    (husers : ∀ u ∈ d.users, u.tokenId = tokenId)
    (hsupplies : ∀ s ∈ d.supplies, s.tokenId = tokenId)
    (hpassed : verifySupply d tokenId = .ok ()) : verifySupply d' tokenId ≠ .ok () := by
  intro hpassed'
  obtain ⟨held, hheld, hdeclared⟩ := verifySupply_eq_ok.1 hpassed
  obtain ⟨held', hheld', hdeclared'⟩ := verifySupply_eq_ok.1 hpassed'
  cases h with
  | users h =>
    -- the supplies are as before, so the same must be held
    obtain rfl : held = held' :=
      List.singleton_inj.1 (Except.ok.inj (hdeclared.symm.trans hdeclared'))
    rw [Data.held_eq] at hheld hheld'
    exact h.tracked_users (tracksChanges_differ allowed) husers held hheld hheld'
  | supplies h =>
    obtain rfl : held = held' := Except.ok.inj (hheld.symm.trans hheld')
    exact declared_ne_of_edit h hsupplies hdeclared hdeclared'

-- ---------------------------------------------------------------------------
-- Numbers with digits to spare
-- ---------------------------------------------------------------------------

/-- Whether a number has fewer digits than can be read and written. -/
def Spare (m : Int) : Prop := m.natAbs < 10 ^ (Decimal.maxDigits - 1)

theorem maxDigits_power : 10 ^ Decimal.maxDigits = 10 ^ (Decimal.maxDigits - 1) * 10 := by
  rw [← Nat.pow_succ, Nat.succ_eq_add_one, Nat.sub_add_cancel (by rw [Decimal.maxDigits]; omega)]

/-- A number with a digit to spare can be written. -/
theorem Spare.fits {m : Int} (h : Spare m) : Decimal.fits m = true := by
  rw [Spare] at h
  rw [Decimal.fits_iff, maxDigits_power]
  omega

/-- Data of one token show what is wrong with them after a single change, if the numbers in them and
those that are put in have digits to spare. -/
theorem Data.Tampered.shows (h : d.Tampered allowed d')
    (husers : ∀ u ∈ d.users, u.tokenId = tokenId)
    (hsupplies : ∀ s ∈ d.supplies, ∃ m, Decimal.readText s.totalSupply = .ok m)
    (hpos : Nonneg (d.users.flatMap (UserEntry.amountsOf tokenId))) {held : Int}
    (hheld : d.held tokenId = .ok held) (hspare : Spare held)
    (hallowed : ∀ m, allowed m → Spare m) :
    ∃ held' declared', d'.Shows tokenId held' declared' := by
  cases h with
  | users h =>
    obtain ⟨declared, hdeclared⟩ := exists_declared tokenId hsupplies
    -- one edit of the users moves what is held by at most one amount with a digit to spare
    have hbounded : TracksChanges allowed
        (Bounded ((10 ^ (Decimal.maxDigits - 1) : Nat) : Int)) := by
      refine tracksChanges_bounded (fun m hm => ⟨(hallowed m hm).fits, ?_⟩) (Int.natCast_nonneg _)
      rw [Int.abs_eq_natAbs]
      exact Int.ofNat_le.2 (hallowed m hm).le
    rw [Data.held_eq] at hheld
    obtain ⟨m, hm, hle⟩ := h.tracked_users hbounded husers held hpos hheld
    refine ⟨m, declared, ⟨by rw [Data.held_eq, hm], hdeclared, ?_⟩⟩
    have hheldpos := hpos.sum hheld
    rw [Spare] at hspare
    rw [Decimal.fits_iff, maxDigits_power]
    rw [Int.abs_eq_natAbs] at hle
    omega
  | @supplies supplies h =>
    -- an edit of the supplies leaves what is held; every entry is an old one or the changed one
    have hread : ∀ s ∈ supplies, ∃ m, Decimal.readText s.totalSupply = .ok m := by
      intro s hs
      rcases h.mem hs with hs | ⟨old, -, m, hm, -, rfl⟩
      · exact hsupplies s hs
      · exact ⟨m, Decimal.readText_ofInt (hallowed m hm).fits⟩
    obtain ⟨declared, hdeclared⟩ := exists_declared (d := { d with supplies := supplies }) tokenId
      hread
    exact ⟨held, declared, ⟨hheld, hdeclared, hspare.fits⟩⟩

-- ---------------------------------------------------------------------------
-- Data that are handed on
-- ---------------------------------------------------------------------------

variable {accounts : List Account} {legacyAmount : Int} {n : Network}

/-- No entry prints a negative amount. -/
theorem nonneg_amounts {us : List UserBalance} {users : List UserEntry} (hpos : 0 ≤ legacyAmount)
    (hus : userBalances accounts legacyAmount n = .ok us)
    (husers : us.mapM (UserBalance.entry n.addressLabel) = .ok users) :
    Nonneg (users.flatMap (UserEntry.amountsOf n.tokenId)) := by
  intro s hs
  obtain ⟨e, he, hs⟩ := List.mem_flatMap.1 hs
  obtain ⟨u, hu, hentry⟩ := Outcome.exists_of_mem_mapM husers he
  obtain ⟨address, -, ⟨hfits, hlocksFit⟩, rfl⟩ := UserBalance.entry_eq_ok.1 hentry
  obtain ⟨havailable, hlocks⟩ := forall_amounts_of_mem_holders (P := (0 ≤ ·)) le_rfl
    (fun _ _ => ⟨Int.natCast_nonneg _, Int.natCast_nonneg _⟩) hpos
    ((userBalances_perm hus).mem_iff.1 hu)
  rw [UserEntry.amountsOf_of_eq (tokenId_of_mem_entries hus husers he)] at hs
  rcases List.mem_append.1 hs with hs | hs
  · rw [List.mem_singleton.1 hs]
    exact ⟨u.available, Decimal.readText_ofInt hfits, havailable⟩
  · obtain ⟨p, hp, hs⟩ := List.mem_flatMap.1 hs
    obtain ⟨l, hl, rfl⟩ := List.mem_map.1 hp
    have hmem := mem_sortLocks.1 hl
    rw [List.mem_singleton.1 hs]
    exact ⟨l.2, Decimal.readText_ofInt (hlocksFit l hmem), hlocks l hmem⟩

/-- If nobody has an account elsewhere, the entry of the reserve is the only one. -/
theorem exists_entry_of_reserve {d : Data} (h : data accounts legacyAmount n = .ok d)
    (hreserve : ∀ a ∈ accounts, addressText a = n.reserveAddress) :
    ∃ address, (reserveBalance accounts legacyAmount n).Prints ∧
      d = dataOf accounts legacyAmount n
        [(reserveBalance accounts legacyAmount n).printed address] := by
  obtain ⟨us, users, hus, husers, -, -, rfl⟩ := data_eq_ok.1 h
  have hothers : (accounts.filter fun a => addressText a != n.reserveAddress) = [] :=
    List.filter_eq_nil_iff.2 fun a ha => by rw [hreserve a ha, bne_self_eq_false]; decide
  have hperm := userBalances_perm hus
  rw [holders, hothers, List.map_nil, List.nil_append] at hperm
  obtain rfl := List.perm_singleton.1 hperm
  obtain ⟨e, _, he, hnil, rfl⟩ := List.forall₂_cons_left_iff.1 (Outcome.mapM_eq_ok.1 husers)
  obtain rfl := List.forall₂_nil_left_iff.1 hnil
  obtain ⟨address, -, hprints, rfl⟩ := UserBalance.entry_eq_ok.1 he
  exact ⟨address, hprints, rfl⟩

/-- **Tampering.** Whenever there is a token asset, its data are read back from their members and
pass the check of the supply. After any single change they do not: the failure is the one for a
supply that does not add up, with both sides, if the numbers can be read and written, and one for a
number otherwise. They can if no balance is negative and the supply and the integers that are put in
have digits to spare. -/
theorem tampering_detected {a : Asset} (h : asset accounts legacyAmount n = .ok a) :
    ∃ d : Data, a = ⟨"token", d.toJson, descriptor.schema⟩ ∧ Data.ofJson d.toJson = .ok d ∧
      verifySupply d n.tokenId = .ok () ∧
      ∀ (allowed : Int → Prop) (d' : Data), d.Tampered allowed d' →
        Data.ofJson d'.toJson = .ok d' ∧
        (∀ held declared, d'.Shows n.tokenId held declared →
          verifySupply d' n.tokenId = .error (.supply n.tokenId (Decimal.ofInt held)
            ("[" ++ ", ".intercalate (declared.map Decimal.ofInt) ++ "]"))) ∧
        ((∀ held declared, ¬ d'.Shows n.tokenId held declared) →
          ∃ fault, verifySupply d' n.tokenId = .error (.value fault)) ∧
        (0 ≤ legacyAmount → Spare (totalSupply accounts legacyAmount) →
          (∀ m, allowed m → Spare m) → ∃ held declared, d'.Shows n.tokenId held declared) := by
  obtain ⟨d, hdata, rfl⟩ := asset_eq_ok.1 h
  obtain ⟨us, users, hus, husers, hfits, hpassed, rfl⟩ := data_eq_ok.1 hdata
  refine ⟨_, rfl, Data.ofJson_toJson _, hpassed, fun allowed d' htampered => ?_⟩
  have htoken : ∀ u ∈ users, u.tokenId = n.tokenId :=
    fun u => tokenId_of_mem_entries hus husers
  have hsupplies : ∀ s ∈ (dataOf accounts legacyAmount n users).supplies,
      s = ⟨n.tokenId, Decimal.ofInt (totalSupply accounts legacyAmount)⟩ :=
    fun s => List.mem_singleton.1
  -- an edit moves one side of the check by an amount that is not zero, so it does not pass
  have hno := htampered.not_passed htoken (fun s hs => by rw [hsupplies s hs]) hpassed
  refine ⟨Data.ofJson_toJson d', fun held declared hshows => verifySupply_of_shows hshows hno,
    fun hshows => verifySupply_of_not_shows hshows, fun hpos hspare hallowed => ?_⟩
  -- the untouched data passes, so what is held there is the supply, which leaves room for the edit
  obtain ⟨held, hheld, hdeclared⟩ := verifySupply_eq_ok.1 hpassed
  obtain rfl : totalSupply accounts legacyAmount = held :=
    List.singleton_inj.1 (Except.ok.inj ((declared_one hfits).symm.trans hdeclared))
  refine htampered.shows htoken (fun s hs => ?_) (nonneg_amounts hpos hus husers) hheld hspare
    hallowed
  rw [hsupplies s hs]
  exact ⟨_, Decimal.readText_ofInt hfits⟩

/-- Two voters, and another supply than the one that they hold. -/
theorem tampering_detected_two_voters :
    ∃ d : Data,
      asset [voter (repeated 1) 10 3, voter (repeated 7) 4 0] 5 simpleNetwork =
        .ok ⟨"token", d.toJson, descriptor.schema⟩ ∧
      verifySupply { d with supplies := [⟨simpleNetwork.tokenId, Decimal.ofInt 23⟩] }
        simpleNetwork.tokenId = .error (.supply "0000000000000000" "22" "[23]") := by
  obtain ⟨users, hdata⟩ := exists_data_of_nodup [voter (repeated 1) 10 3, voter (repeated 7) 4 0] 5
    readText_tokenId_simpleNetwork
    (show simpleNetwork.reserveAddress = Hex.encode (repeated 7) from rfl) List.length_replicate
    (by decide) (by decide) (by decide) (by decide)
  have hasset := asset_eq_ok.2 ⟨_, hdata, rfl⟩
  obtain ⟨d, heq, -, hpassed, htampered⟩ := tampering_detected hasset
  obtain rfl := Data.toJson_injective (Asset.mk.inj heq).2.1
  obtain ⟨held, hheld, hdeclared⟩ := verifySupply_eq_ok.1 hpassed
  -- the untouched data holds 22
  have hone : [held] = [22] := Except.ok.inj (hdeclared.symm.trans (declared_one (by decide)))
  obtain rfl : held = 22 := List.singleton_inj.1 hone
  have hchange : SupplyEntry.Tampered (· = 23) ⟨simpleNetwork.tokenId, Decimal.ofInt 22⟩
      ⟨simpleNetwork.tokenId, Decimal.ofInt 23⟩ := by
    refine ⟨23, rfl, ?_, rfl⟩
    rw [Decimal.readText_ofInt (by decide)]
    decide
  obtain ⟨-, hshown, -⟩ := htampered (· = 23) _ (.supplies (.changed [] [] hchange))
  exact ⟨_, hasset, hshown 22 [23] ⟨hheld, declared_one (by decide), by decide⟩⟩

/-- **Not reported.** A balance is changed to one of as many nines as can be read. What is held can
then not be written, so this is what the check complains about, and not that the supply is less. -/
theorem overlong_sum_not_reported :
    ∃ d d' : Data,
      asset [voter (repeated 7) 10 3] 5 simpleNetwork =
        .ok ⟨"token", d.toJson, descriptor.schema⟩ ∧
      d.Tampered (· = 10 ^ Decimal.maxDigits - 1) d' ∧
      verifySupply d' simpleNetwork.tokenId = .error (.value (.integer .tooLarge)) := by
  obtain ⟨users, hdata⟩ := exists_data_of_nodup [voter (repeated 7) 10 3] 5
    readText_tokenId_simpleNetwork
    (show simpleNetwork.reserveAddress = Hex.encode (repeated 7) from rfl) List.length_replicate
    (by decide) (by decide) (by decide) (by decide)
  obtain ⟨address, hprints, heq⟩ := exists_entry_of_reserve hdata (by decide)
  rw [heq] at hdata
  -- the one holder is the reserve, with 10 to spend and 8 locked
  generalize hreserve : reserveBalance [voter (repeated 7) 10 3] 5 simpleNetwork = u at *
  have havailable : u.available = 10 := by rw [← hreserve]; rfl
  have htoken : u.tokenId = simpleNetwork.tokenId := by rw [← hreserve]; rfl
  have hlocked : Amount.sumInt (u.locked.map (·.2)) = 8 := by
    rw [← hreserve]
    exact (Amount.sumInt_eq_of_perm ((List.mergeSort_perm _ _).map _)).trans (by decide)
  -- the number of as many nines as can be read; it is never written out here
  obtain ⟨nines, hnines⟩ : ∃ m : Int, m = 10 ^ Decimal.maxDigits - 1 := ⟨_, rfl⟩
  have hpower : nines + 1 = ((10 ^ Decimal.maxDigits : Nat) : Int) := by
    rw [hnines, sub_add_cancel, Nat.cast_pow]
    rfl
  have hmany : 11 < 10 ^ Decimal.maxDigits :=
    Decimal.fits_iff.1 (show Decimal.fits 11 = true by decide)
  have hread : Decimal.readText (Decimal.ofInt nines) = .ok nines :=
    Decimal.readText_ofInt (Decimal.fits_iff.2 (by omega))
  have hchange : UserEntry.Tampered (· = 10 ^ Decimal.maxDigits - 1) (u.printed address)
      { u.printed address with availableBalance := Decimal.ofInt nines } := by
    refine .available hnines ?_
    rw [UserBalance.printed, havailable, Decimal.readText_ofInt (by decide)]
    intro hten
    have heq := Except.ok.inj hten
    omega
  -- eight more than all nines has one digit more
  have hheld : Data.held ⟨[{ u.printed address with availableBalance := Decimal.ofInt nines }],
      [⟨simpleNetwork.tokenId, Decimal.ofInt 18⟩], [], []⟩ simpleNetwork.tokenId =
        .ok (nines + 8) := by
    rw [held_of_tokenId (by simpa [UserBalance.printed] using htoken), List.flatMap_singleton]
    rw [← hlocked]
    exact sumTexts_append (sumTexts_singleton.2 hread) (sumTexts_locks_printed hprints address)
  refine ⟨_, _, asset_eq_ok.2 ⟨_, hdata, rfl⟩, .users (.changed [] [] hchange), ?_⟩
  refine verifySupply_of_not_fits hheld (declared_one (by decide)) ?_
  rw [← Bool.not_eq_true, Decimal.fits_iff]
  omega

end Regenesis.Genesis.Token

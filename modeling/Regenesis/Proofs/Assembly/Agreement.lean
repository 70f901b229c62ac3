import Mathlib
import Regenesis.Proofs.Assembly.Success
import Regenesis.Proofs.Token.Locks

/-!
# Proofs.Assembly.Agreement — three assets tell one story

Token, proof-of-stake and legacy asset are made from the same accounts, each on a way of its own.
`assets_agree` puts them side by side: at every address, what the token asset has locked for votes
is what the staker there has staked or is unlocking, and the legacy balances are locked once, at the
reserve.
-/

namespace Regenesis.Genesis

open Record

-- ---------------------------------------------------------------------------
-- What is printed at an address
-- ---------------------------------------------------------------------------

/-- What the entries at an address have locked by a module. -/
def Token.Data.lockedAt (d : Token.Data) (moduleName address : String) : Except Failure Int :=
  Token.sumTexts
    ((d.users.filter fun u => u.address == address).flatMap (Token.UserEntry.locksOf moduleName))

/-- What the stakers at an address have staked or are unlocking. -/
def Stake.stakedAt (stakers : List Stake.Staker) (address : String) : Except Failure Int :=
  Token.sumTexts
    ((stakers.filter fun s => s.address == address).flatMap Stake.Staker.amounts)

section
variable {α : Type} {f : α → String} {g : α → List String} {xs : List α}

/-- Where keys are distinct, the sum at a key is that of its one member. -/
theorem sumTexts_at_of_mem (hnodup : (xs.map f).Nodup) {x : α} (hx : x ∈ xs) {m : Int}
    (h : Token.sumTexts (g x) = .ok m) :
    Token.sumTexts ((xs.filter fun y => f y == f x).flatMap g) = .ok m := by
  rw [Pairing.filter_key_eq hnodup hx, List.flatMap_singleton, h]

/-- Where no member has the key, the sum at it is zero. -/
theorem sumTexts_at_of_forall_ne {key : String} (h : ∀ x ∈ xs, f x ≠ key) :
    Token.sumTexts ((xs.filter fun y => f y == key).flatMap g) = .ok 0 := by
  have hnone : (xs.filter fun y => f y == key) = [] :=
    List.filter_eq_nil_iff.2 fun x hx => by rw [beq_iff_eq]; exact h x hx
  rw [hnone]
  rfl

end

-- ---------------------------------------------------------------------------
-- Entries and stakers
-- ---------------------------------------------------------------------------

section
variable {accounts : List Account} {legacyAmount : Int} {reserve : Octets} {label : String}
  {bs : List Octets} {users : List Token.UserEntry} {voters : List Account}
  {stakers : List Stake.Staker}

/-- Distinct holders have entries with distinct addresses. -/
theorem nodup_addresses_users
    (h : List.Forall₂ (Token.IsEntryAt accounts legacyAmount reserve label) bs users)
    (hnodup : bs.Nodup) : (users.map Token.UserEntry.address).Nodup := by
  have htext : List.Forall₂ (fun b t => Address.toText label b = .ok t) bs
      (users.map Token.UserEntry.address) :=
    List.forall₂_map_right_iff.2 (h.imp fun _ _ he => he.1)
  refine Pairing.nodup_right ?_ htext hnodup
  exact fun _ _ _ ha hb => Address.toText_injective ha hb

/-- Distinct voters have stakers with distinct addresses. -/
theorem nodup_addresses_stakers
    (h : List.Forall₂ (Stake.IsStakerOf label) voters stakers)
    (hnodup : (voters.map Account.address).Nodup) :
    (stakers.map Stake.Staker.address).Nodup := by
  have htext : List.Forall₂ (fun b t => Address.toText label b = .ok t)
      (voters.map Account.address) (stakers.map Stake.Staker.address) := by
    rw [List.forall₂_map_left_iff, List.forall₂_map_right_iff]
    exact h.imp fun _ _ hs => hs.1
  refine Pairing.nodup_right ?_ htext hnodup
  exact fun _ _ _ ha hb => Address.toText_injective ha hb

/-- Where there is no staker, the account at the address has no votes. -/
theorem votesAt_eq_zero (hnodup : (accounts.map Account.address).Nodup)
    (hvoters : voters.Perm (accounts.filter Account.isStaker))
    (hstakers : List.Forall₂ (Stake.IsStakerOf label) voters stakers) {b : Octets} {text : String}
    (htext : Address.toText label b = .ok text) (hnone : ∀ s ∈ stakers, s.address ≠ text) :
    Token.votesAt accounts b = 0 := by
  by_cases hat : ∃ a ∈ accounts, a.address = b
  · obtain ⟨a, ha, rfl⟩ := hat
    rw [Token.votesAt_of_mem hnodup ha]
    by_cases hvotes : a.isStaker = true
    · have hvoter : a ∈ voters := hvoters.mem_iff.2 (List.mem_filter.2 ⟨ha, hvotes⟩)
      obtain ⟨s, hmems, hstext, -⟩ := Pairing.exists_right hstakers hvoter
      exact absurd (Except.ok.inj (hstext.symm.trans htext)) (hnone s hmems)
    · rw [Stake.lockedAmount_of_not_isStaker hvotes]
      rfl
  · exact Token.votesAt_of_forall_ne fun a ha hab => hat ⟨a, ha, hab⟩

/-- At every address, entries and stakers print the same votes. -/
theorem locked_eq_staked (hnodup : (accounts.map Account.address).Nodup)
    (hbs : bs.Perm (Token.holderAddresses accounts reserve))
    (husers : List.Forall₂ (Token.IsEntryAt accounts legacyAmount reserve label) bs users)
    (hvoters : voters.Perm (accounts.filter Account.isStaker))
    (hstakers : List.Forall₂ (Stake.IsStakerOf label) voters stakers) (address : String) :
    ∃ amount : Int,
      Token.sumTexts ((users.filter fun u => u.address == address).flatMap
        (Token.UserEntry.locksOf "pos")) = .ok amount ∧
      Stake.stakedAt stakers address = .ok amount := by
  have hu := nodup_addresses_users husers
    (hbs.nodup_iff.2 (Token.nodup_holderAddresses hnodup))
  have hs := nodup_addresses_stakers hstakers
    ((hvoters.map _).nodup_iff.2 (hnodup.sublist (List.filter_sublist.map _)))
  have hmem : ∀ a ∈ voters, a ∈ accounts ∧ a.isStaker = true := fun a ha =>
    List.mem_filter.1 (hvoters.mem_iff.1 ha)
  by_cases hentry : ∃ u ∈ users, u.address = address
  · obtain ⟨u, hmemu, rfl⟩ := hentry
    obtain ⟨b, -, hb⟩ := Pairing.exists_left husers hmemu
    refine ⟨Token.votesAt accounts b,
      sumTexts_at_of_mem hu hmemu (Token.sumTexts_locksOf_pos hb), ?_⟩
    by_cases hstaker : ∃ s ∈ stakers, s.address = u.address
    · -- entry and staker at one text are at one address, and there is one account there
      obtain ⟨s, hmems, hsu⟩ := hstaker
      obtain ⟨a, ha, htext, hsum⟩ := Pairing.exists_left hstakers hmems
      have hab : a.address = b := Address.toText_injective (hsu ▸ htext) hb.1
      rw [← hsu, ← hab, Token.votesAt_of_mem hnodup (hmem a ha).1]
      exact sumTexts_at_of_mem hs hmems hsum
    · -- no staker at the text: nothing is locked for votes there
      have hzero := votesAt_eq_zero hnodup hvoters hstakers hb.1
        fun s hmems hsu => hstaker ⟨s, hmems, hsu⟩
      rw [hzero]
      exact sumTexts_at_of_forall_ne fun s hmems hsu => hstaker ⟨s, hmems, hsu⟩
  · -- without an entry there is no staker either, since every account has an entry
    refine ⟨0, sumTexts_at_of_forall_ne fun u hmemu hut => hentry ⟨u, hmemu, hut⟩, ?_⟩
    refine sumTexts_at_of_forall_ne fun s hmems hst => hentry ?_
    obtain ⟨a, ha, htext, -⟩ := Pairing.exists_left hstakers hmems
    have hholder : a.address ∈ bs :=
      hbs.mem_iff.2 (Token.mem_holderAddresses.2 (Or.inl ⟨a, (hmem a ha).1, rfl⟩))
    obtain ⟨u, hmemu, hb⟩ := Pairing.exists_right husers hholder
    exact ⟨u, hmemu, (Except.ok.inj (hb.1.symm.trans htext)).trans hst⟩

/-- The legacy balances are locked in one entry, the reserve's, and in one lock. -/
theorem legacy_locked_once (hnodup : bs.Nodup) (hmem : reserve ∈ bs)
    (husers : List.Forall₂ (Token.IsEntryAt accounts legacyAmount reserve label) bs users) :
    ∃ before u after, users = before ++ u :: after ∧
      Address.toText label reserve = .ok u.address ∧
      u.locksOf "legacy" = [Decimal.ofInt legacyAmount] ∧
      ∀ v ∈ before ++ after, v.address ≠ u.address ∧ v.locksOf "legacy" = [] := by
  obtain ⟨u, hu, hentry⟩ := Pairing.exists_right husers hmem
  obtain ⟨before, after, rfl⟩ := List.append_of_mem hu
  refine ⟨before, u, after, rfl, hentry.1, ?_, ?_⟩
  · rw [Token.locksOf_legacy hentry, if_pos rfl]
  · intro v hv
    have hdistinct := nodup_addresses_users husers hnodup
    -- no other entry has the address of the reserve, so none has its lock
    have hne : v.address ≠ u.address := by
      rw [List.map_append, List.map_cons, List.nodup_middle, List.nodup_cons, ← List.map_append]
        at hdistinct
      exact fun h => hdistinct.1 (h ▸ List.mem_map_of_mem hv)
    have hv' : v ∈ before ++ u :: after := by
      rcases List.mem_append.1 hv with hv | hv
      · exact List.mem_append_left _ hv
      · exact List.mem_append_right _ (List.mem_cons_of_mem _ hv)
    obtain ⟨b, -, hb⟩ := Pairing.exists_left husers hv'
    refine ⟨hne, ?_⟩
    rw [Token.locksOf_legacy hb, if_neg]
    rintro rfl
    exact hne (Except.ok.inj (hb.1.symm.trans hentry.1))

end

-- ---------------------------------------------------------------------------
-- Agreement
-- ---------------------------------------------------------------------------

/-- **Agreement of the assets.** In every successful assembly of a snapshot with distinct addresses,
whatever the reserve's account is: at every address, the token asset has locked for votes what the
staker there has staked or is unlocking; an entry has at most one lock for votes, and a positive
one; the entry of the reserve, and no other, has one lock of the legacy balances, of their printed
sum; and locks are in ascending order of their modules. -/
theorem assets_agree {s : Snapshot} {keys : Stake.KeyTexts} {n : Network} {reserve : Octets}
    {assets : List Asset} (hnodup : (s.accounts.map Account.address).Nodup)
    (hreserve : n.reserveAddress = Hex.encode reserve) (h : assemble s keys n = .ok assets) :
    ∃ (d : Token.Data) (validators : List Stake.Validator) (stakers : List Stake.Staker)
      (start : Stake.GenesisData) (legacy : List Legacy.Entry) (legacyAmount : Int),
      (⟨"token", d.toJson, Token.descriptor.schema⟩ : Asset) ∈ assets ∧
      (⟨"pos", Stake.dataJson validators stakers start, Stake.descriptor.schema⟩ : Asset) ∈ assets ∧
      (⟨"legacy", .obj [("accounts", .arr (legacy.map Legacy.Entry.toJson))],
        Legacy.descriptor.schema⟩ : Asset) ∈ assets ∧
      Token.sumTexts (legacy.map Legacy.Entry.balance) = .ok legacyAmount ∧
      (d.users.map Token.UserEntry.address).Nodup ∧ (stakers.map Stake.Staker.address).Nodup ∧
      (∀ address, ∃ amount, d.lockedAt "pos" address = .ok amount ∧
        Stake.stakedAt stakers address = .ok amount) ∧
      (∀ u ∈ d.users, u.locksOf "pos" = [] ∨ ∃ text amount, u.locksOf "pos" = [text] ∧
        Decimal.readText text = .ok amount ∧ 0 < amount) ∧
      (∃ before u after text, d.users = before ++ u :: after ∧
        Address.toText n.addressLabel reserve = .ok u.address ∧
        u.locksOf "legacy" = [text] ∧ Decimal.readText text = .ok legacyAmount ∧
        ∀ v ∈ before ++ after, v.address ≠ u.address ∧ v.locksOf "legacy" = []) ∧
      ∀ u ∈ d.users, (u.lockedBalances.map Token.LockedBalance.moduleName).Pairwise (· < ·) := by
  obtain ⟨legacy, token, auth, stake, interoperability, hlegacy, htoken, -, hstake, -, rfl⟩ :=
    assemble_eq_ok.1 h
  obtain ⟨printed, hprinted, rfl⟩ := Legacy.asset_eq_ok.1 hlegacy
  obtain ⟨d, hdata, rfl⟩ := Token.asset_eq_ok.1 htoken
  obtain ⟨validators, stakers, start, -, hstakers, -, rfl⟩ := Stake.asset_eq_ok.1 hstake
  obtain ⟨-, -, -, -, hfits, -, -⟩ := Token.data_eq_ok.1 hdata
  have hpos : (0 : Int) ≤ Legacy.reserveAmount s.legacyAccounts := Int.natCast_nonneg _
  -- the legacy amount is part of a supply that was written, so it can be written itself
  have hlegacyFits := Token.fits_legacyAmount hpos hfits
  -- each entry and each staker is taken back to the address it stands for
  obtain ⟨bs, hbs, husers⟩ := Token.users_of_data hreserve hnodup hdata
  obtain ⟨voters, hvoters, hstakers⟩ := Stake.stakers_of_ok hstakers
  have hbsNodup := hbs.nodup_iff.2 (Token.nodup_holderAddresses hnodup)
  have hvotersNodup : (voters.map Account.address).Nodup :=
    (hvoters.map _).nodup_iff.2 (hnodup.sublist (List.filter_sublist.map _))
  refine ⟨d, validators, stakers, start, printed, Legacy.reserveAmount s.legacyAccounts,
    by simp, by simp, by simp, Token.sumTexts_legacy hprinted,
    nodup_addresses_users husers hbsNodup, nodup_addresses_stakers hstakers hvotersNodup,
    locked_eq_staked hnodup hbs husers hvoters hstakers, ?_, ?_, ?_⟩
  · intro u hu
    obtain ⟨b, -, hb⟩ := Pairing.exists_left husers hu
    rw [Token.locksOf_pos hb]
    by_cases hvotes : 0 < Token.votesAt s.accounts b
    · rw [if_pos hvotes]
      exact Or.inr ⟨_, _, rfl, Decimal.readText_ofInt (Token.fits_votesAt hb hvotes), hvotes⟩
    · rw [if_neg hvotes]
      exact Or.inl rfl
  · obtain ⟨before, u, after, hsplit, htext, hlock, hothers⟩ :=
      legacy_locked_once hbsNodup (hbs.mem_iff.2 (Token.mem_holderAddresses.2 (Or.inr rfl))) husers
    exact ⟨before, u, after, _, hsplit, htext, hlock, Decimal.readText_ofInt hlegacyFits, hothers⟩
  · intro u hu
    obtain ⟨b, -, hb⟩ := Pairing.exists_left husers hu
    exact Token.pairwise_moduleName hb

/-- The assets of two voters, of which one is the reserve, agree. -/
theorem assets_agree_two_voters :
    ∃ (assets : List Asset) (d : Token.Data) (validators : List Stake.Validator)
      (stakers : List Stake.Staker) (start : Stake.GenesisData),
      assemble twoVoters [] Token.simpleNetwork = .ok assets ∧
      (⟨"token", d.toJson, Token.descriptor.schema⟩ : Asset) ∈ assets ∧
      (⟨"pos", Stake.dataJson validators stakers start, Stake.descriptor.schema⟩ : Asset) ∈ assets ∧
      ∀ address, ∃ amount, d.lockedAt "pos" address = .ok amount ∧
        Stake.stakedAt stakers address = .ok amount := by
  obtain ⟨assets, hassets⟩ := exists_assemble_twoVoters
  have hreserve : Token.simpleNetwork.reserveAddress = Hex.encode (Token.repeated 7) := rfl
  obtain ⟨d, validators, stakers, start, -, -, htoken, hstake, -, -, -, -, hagree, -⟩ :=
    assets_agree (by decide) hreserve hassets
  exact ⟨assets, d, validators, stakers, start, hassets, htoken, hstake, hagree⟩

end Regenesis.Genesis

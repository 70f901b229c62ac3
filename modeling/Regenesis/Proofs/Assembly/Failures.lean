import Mathlib
import Regenesis.Proofs.Assembly.Parts
import Regenesis.Proofs.Stake.Stakers
import Regenesis.Proofs.Store.Layout
import Regenesis.Proofs.Token.Supply

/-!
# Proofs.Assembly.Failures — how an assembly fails

Accounts that are read from a store have addresses of twenty bytes, no two of them the same, and
nonces that can be written. The addresses that they vote for need not have twenty bytes, nor those
that are recorded as top delegates, and no amount is too large to be summed up. `Unfit` says which
of these values have no text. With one of them an assembly fails with what is no failure of a
migration (`assemble_of_unfit`), and with such a failure otherwise (`failsWithin_assemble`).
-/

namespace Regenesis.Genesis

open Record Outcome

/-- Whether a snapshot has a value that cannot be written: the address of a delegate for which a
vote was sent or is being unlocked, or who is an initial validator, or the supply. -/
inductive Unfit (s : Snapshot) (n : Network) : ValueFault → Prop where
  | vote {a : Account} {v : SentVote} : a ∈ s.accounts → v ∈ a.dpos.sentVotes →
      v.delegateAddress.length ≠ Address.length →
      Unfit s n (.addressLength v.delegateAddress.length)
  | unlock {a : Account} {u : UnlockingEntry} : a ∈ s.accounts → u ∈ a.dpos.unlocking →
      u.delegateAddress.length ≠ Address.length →
      Unfit s n (.addressLength u.delegateAddress.length)
  | initial {round : Int} {recorded : VoteWeight} {b : Octets} :
      Stake.roundOf s.height n.roundLength = .ok round →
      s.voteWeights.forRound (round - 2) = some recorded →
      b ∈ Stake.initialValidators s.accounts recorded.delegates n.maxInitValidators →
      b.length ≠ Address.length → Unfit s n (.addressLength b.length)
  | supply :
      Decimal.fits (Token.totalSupply s.accounts (Legacy.reserveAmount s.legacyAccounts)) = false →
      Unfit s n (.integer .tooLarge)

section
variable {P : Failure → Prop} {accounts : List Account} {n : Network}

-- ---------------------------------------------------------------------------
-- The token module
-- ---------------------------------------------------------------------------

namespace Token

theorem failsWithin_entry {label : String} {u : UserBalance} (h : P (.value (.integer .tooLarge)))
    (htext : ∃ t, Address.hexToText label u.address = .ok t) :
    FailsWithin P (u.entry label) := by
  obtain ⟨t, ht⟩ := htext
  unfold UserBalance.entry
  rw [ht, ok_bind]
  refine (Decimal.failsWithin_writeText fun _ => h).bind fun _ _ => ?_
  refine FailsWithin.bind (FailsWithin.mapM fun l _ => ?_) fun _ _ => .ok _
  exact (Decimal.failsWithin_writeText fun _ => h).bind fun _ _ => .ok _

/-- The token asset fails only if the supply cannot be written. -/
theorem failsWithin_asset {legacyAmount : Int} {token reserve : Octets}
    (htoken : Hex.readText n.tokenId = .ok token) (hreserve : n.reserveAddress = Hex.encode reserve)
    (hlength : reserve.length = Address.length)
    (haddress : ∀ a ∈ accounts, a.address.length = Address.length)
    (hnodup : (accounts.map Account.address).Nodup) (hpos : 0 ≤ legacyAmount)
    (h : Decimal.fits (totalSupply accounts legacyAmount) = false →
      P (.value (.integer .tooLarge))) :
    FailsWithin P (asset accounts legacyAmount n) := by
  cases hfits : Decimal.fits (totalSupply accounts legacyAmount) with
  | true =>
    obtain ⟨users, hdata⟩ := exists_data_of_nodup accounts legacyAmount htoken hreserve hlength
      haddress hpos hfits hnodup
    rw [asset_eq_ok.2 ⟨_, hdata, rfl⟩]
    exact .ok _
  | false =>
    -- a supply too large to be written fails at the latest when it is written itself
    obtain ⟨us, hus⟩ : ∃ us, userBalances accounts legacyAmount n = .ok us :=
      exists_userBalances htoken (hreserve ▸ Hex.readText_encode reserve)
    have hlarge := h hfits
    have hdata : FailsWithin P (data accounts legacyAmount n) := by
      unfold data
      rw [hus, ok_bind]
      refine FailsWithin.bind (FailsWithin.mapM fun u hu => ?_) fun users _ => ?_
      · exact failsWithin_entry hlarge (exists_text_of_mem_holders hreserve hlength haddress
          ((userBalances_perm hus).mem_iff.1 hu))
      · rw [Decimal.writeText, Decimal.write, hfits]
        exact .error hlarge
    exact hdata.bind fun _ _ => .ok _

end Token

-- ---------------------------------------------------------------------------
-- The modules of accounts and of stakes
-- ---------------------------------------------------------------------------

theorem succeeds_toText {label : String} {b : Octets} (h : b.length = Address.length) :
    FailsWithin P (Address.toText label b) :=
  Address.failsWithin_toText fun hne => absurd h hne

/-- Addresses of twenty bytes and nonces that can be written leave nothing to fail. -/
theorem Auth.failsWithin_asset (haddress : ∀ a ∈ accounts, a.address.length = Address.length)
    (hnonce : ∀ a ∈ accounts, Decimal.fits a.sequence.nonce = true) :
    FailsWithin P (Auth.asset accounts n) := by
  unfold Auth.asset Auth.entries
  refine FailsWithin.bind (FailsWithin.mapM fun a ha => ?_) fun _ _ => .ok _
  have hmem := (byAddress_perm accounts).mem_iff.1 ha
  unfold Auth.entry Auth.AuthAccount.ofAccount
  rw [Decimal.writeText_of_fits (hnonce a hmem)]
  exact (succeeds_toText (haddress a hmem)).bind fun _ _ => .ok _

/-- The legacy asset fails only if a balance cannot be written. -/
theorem Legacy.failsWithin_asset {records : List UnregisteredAccount}
    (h : ∀ u ∈ records, Decimal.fits u.balance = false → P (.value (.integer .tooLarge))) :
    FailsWithin P (Legacy.asset records) := by
  unfold Legacy.asset Legacy.Entry.ofRecord
  refine FailsWithin.bind (FailsWithin.mapM fun u hu => ?_) fun _ _ => .ok _
  exact (Decimal.failsWithin_writeText (h u hu)).bind fun _ _ => .ok _

namespace Stake

theorem failsWithin_validators (haddress : ∀ a ∈ accounts, a.address.length = Address.length)
    (keys : KeyTexts) (height : Int) : FailsWithin P (validators accounts keys height n) := by
  refine FailsWithin.mapM fun a ha => ?_
  have hmem := List.mem_of_mem_filter ((byAddress_perm _).mem_iff.1 ha)
  exact (succeeds_toText (haddress a hmem)).bind fun _ _ => .ok _

/-- Stakers fail to be listed for an address that is voted for, or for an amount that is locked. -/
theorem failsWithin_stakers (haddress : ∀ a ∈ accounts, a.address.length = Address.length)
    (hvotes : ∀ a ∈ accounts, ∀ v ∈ a.dpos.sentVotes, v.delegateAddress.length ≠ Address.length →
      P (.value (.addressLength v.delegateAddress.length)))
    (hunlocks : ∀ a ∈ accounts, ∀ u ∈ a.dpos.unlocking,
      u.delegateAddress.length ≠ Address.length →
      P (.value (.addressLength u.delegateAddress.length)))
    (hlocked : ∀ a ∈ accounts, Decimal.fits a.lockedAmount = false →
      P (.value (.integer .tooLarge))) :
    FailsWithin P (stakers accounts n) := by
  refine FailsWithin.mapM fun a ha => ?_
  have hmem := List.mem_of_mem_filter ((byAddress_perm _).mem_iff.1 ha)
  have hamount : ∀ {k : Nat}, k ≤ a.lockedAmount → FailsWithin P (Decimal.writeText k) := by
    refine fun hle => Decimal.failsWithin_writeText fun hlarge => hlocked a hmem ?_
    rw [← Bool.not_eq_true] at hlarge ⊢
    exact fun hfits => hlarge
      (Decimal.fits_of_le (Int.natCast_nonneg _) (Int.ofNat_le.2 hle) hfits)
  obtain ⟨hsent, hback⟩ := amount_le_lockedAmount a
  refine (succeeds_toText (haddress a hmem)).bind fun _ _ => ?_
  refine FailsWithin.bind (FailsWithin.mapM fun v hv => ?_) fun _ _ => ?_
  · have hv' := (sortVotes_perm _).mem_iff.1 hv
    refine (Address.failsWithin_toText (hvotes a hmem v hv')).bind fun _ _ => ?_
    exact (hamount (hsent v hv')).bind fun _ _ => .ok _
  refine FailsWithin.bind (FailsWithin.mapM fun u hu => ?_) fun _ _ => .ok _
  refine (Address.failsWithin_toText (hunlocks a hmem u hu)).bind fun _ _ => ?_
  exact (hamount (hback u hu)).bind fun _ _ => .ok _

variable {weights : VoteWeights} {height round : Int} {top : List DelegateWeight}

/-- In rounds that are not empty, every height has its round. -/
theorem roundOf_of_pos {length : Int} (h : 0 < length) :
    roundOf height length = .ok (-(-height / length)) := by
  rw [roundOf, if_neg (Int.not_le.2 h)]

/-- Only a length that is not positive is refused. -/
theorem roundOf_eq_ok {length : Int} :
    roundOf height length = .ok round ↔ 0 < length ∧ round = -(-height / length) := by
  by_cases hlength : 0 < length
  · rw [roundOf_of_pos hlength, Except.ok.injEq, eq_comm, and_iff_right hlength]
  · refine iff_of_false (fun h => ?_) fun h => hlength h.1
    rw [roundOf, if_pos (Int.not_lt.1 hlength)] at h
    obtain ⟨_, -, h⟩ := bind_eq_ok.1 h
    exact nomatch h

/-- The round of a height is no greater than the height. -/
theorem roundOf_bounds (hzero : 0 ≤ height) {length : Int} (h : roundOf height length = .ok round) :
    0 ≤ round ∧ round ≤ height := by
  obtain ⟨hlength, hround⟩ := roundOf_eq_ok.1 h
  have hlow : -height ≤ -height / length := Int.le_ediv_of_mul_le (by omega) (by nlinarith)
  have hhigh : -height / length ≤ 0 := Int.ediv_nonpos_of_nonpos_of_neg (by omega) (by omega)
  omega

/-- The number of the round that is asked for can be written if the height can. -/
theorem fits_of_roundOf {length : Int} (hzero : 0 ≤ height)
    (h : roundOf height length = .ok round) (hfits : Decimal.fits height = true) :
    Decimal.fits (round - 2) = true := by
  obtain ⟨hlow, hhigh⟩ := roundOf_bounds hzero h
  by_cases hbefore : round < 2
  · exact Layout.fits_of_natAbs_le (by rw [show Layout.maxHeight = 4294967295 by decide]; omega)
  · exact Decimal.fits_of_le (by omega) (by omega) hfits

/-- Delegates are found for a round if there are any in its first record. -/
theorem topDelegates_eq_ok :
    topDelegates weights round = .ok top ↔
      ∃ recorded, weights.forRound round = some recorded ∧ recorded.delegates = top ∧
        top ≠ [] := by
  constructor
  · intro h
    unfold topDelegates at h
    split at h
    · rename_i d rest hrecorded
      obtain rfl := Except.ok.inj h
      exact ⟨_, hrecorded, rfl, List.cons_ne_nil d rest⟩
    · obtain ⟨_, -, h⟩ := bind_eq_ok.1 h
      exact nomatch h
  · rintro ⟨⟨r, delegates⟩, hrecorded, rfl, hne⟩
    obtain ⟨d, rest, rfl⟩ := List.exists_cons_of_ne_nil hne
    rw [topDelegates, hrecorded]
    rfl

section
variable (hround : roundOf height n.roundLength = .ok round)
include hround

/-- With delegates for the round, its number is printed and their addresses are written. -/
theorem genesisData_of_topDelegates (htop : topDelegates weights (round - 2) = .ok top) :
    genesisData accounts weights height n = (do
      Decimal.print [round - 2]
      return ⟨n.initRounds, ← (initialValidators accounts top n.maxInitValidators).mapM
        (Address.toText n.addressLabel)⟩) := by
  rw [genesisData, hround, ok_bind]
  dsimp only
  rw [htop, ok_bind]

/-- Without delegates for the round, there is no data. -/
theorem genesisData_of_topDelegates_error {e : Failure}
    (htop : topDelegates weights (round - 2) = .error e) :
    genesisData accounts weights height n = .error e := by
  rw [genesisData, hround, ok_bind]
  dsimp only
  rw [htop, error_bind]

end

variable (hP : ∀ e : Failure, e.isMigrationFailure = true → P e)
include hP

/-- That delegates are missing is a failure of a migration, if the round can be written. -/
theorem failsWithin_topDelegates (hfits : Decimal.fits round = true) :
    FailsWithin P (topDelegates weights round) := by
  unfold topDelegates
  split
  · exact .ok _
  · rw [Decimal.writeText_of_fits hfits]
    exact .error (hP _ rfl)

/-- Apart from missing delegates, the data fail for an initial validator whose address has no
text. -/
theorem failsWithin_genesisData (hround : roundOf height n.roundLength = .ok round)
    (hfits : Decimal.fits (round - 2) = true)
    (h : ∀ recorded, weights.forRound (round - 2) = some recorded →
      ∀ b ∈ initialValidators accounts recorded.delegates n.maxInitValidators,
        b.length ≠ Address.length → P (.value (.addressLength b.length))) :
    FailsWithin P (genesisData accounts weights height n) := by
  have hprint := Decimal.print_of_fits (List.forall_mem_singleton.2 hfits)
  cases htop : topDelegates weights (round - 2) with
  | error e =>
    rw [genesisData_of_topDelegates_error hround htop]
    exact .error (failsWithin_topDelegates hP hfits e htop)
  | ok top =>
    obtain ⟨recorded, hrecorded, rfl, -⟩ := topDelegates_eq_ok.1 htop
    rw [genesisData_of_topDelegates hround htop, hprint, ok_bind]
    refine FailsWithin.bind (FailsWithin.mapM fun b hb => ?_) fun _ _ => .ok _
    exact Address.failsWithin_toText (h recorded hrecorded b hb)

end Stake

end

-- ---------------------------------------------------------------------------
-- Addresses without a text
-- ---------------------------------------------------------------------------

namespace Stake

variable {accounts : List Account} {n : Network}

/-- Stakers are made of votes for addresses of twenty bytes. -/
theorem lengths_of_stakers {ss : List Staker} (h : stakers accounts n = .ok ss) {a : Account}
    (ha : a ∈ accounts) :
    (∀ v ∈ a.dpos.sentVotes, v.delegateAddress.length = Address.length) ∧
      ∀ u ∈ a.dpos.unlocking, u.delegateAddress.length = Address.length := by
  -- an account with votes or unlocks is among the stakers, and every staker was written
  have hstaker : a.isStaker = true → ∃ s, staker n a = .ok s := by
    intro hvotes
    have hmem : a ∈ byAddress (accounts.filter Account.isStaker) :=
      (byAddress_perm _).mem_iff.2 (List.mem_filter.2 ⟨ha, hvotes⟩)
    obtain ⟨s, -, hs⟩ := exists_of_mem h hmem
    exact ⟨s, hs⟩
  rw [Account.isStaker, Bool.or_eq_true, Bool.not_eq_true', Bool.not_eq_true',
    List.isEmpty_eq_false_iff, List.isEmpty_eq_false_iff] at hstaker
  constructor
  · intro v hv
    obtain ⟨s, hs⟩ := hstaker (Or.inl (List.ne_nil_of_mem hv))
    obtain ⟨-, hstakes, -⟩ := staker_eq_ok.1 hs
    obtain ⟨e, -, he⟩ := exists_of_mem hstakes ((sortVotes_perm _).mem_iff.2 hv)
    obtain ⟨_, _, htext, -, -⟩ := stake_eq_ok.1 he
    exact Address.length_of_toText htext
  · intro u hu
    obtain ⟨s, hs⟩ := hstaker (Or.inr (List.ne_nil_of_mem hu))
    obtain ⟨-, -, hunlocks⟩ := staker_eq_ok.1 hs
    obtain ⟨e, -, he⟩ := exists_of_mem hunlocks hu
    obtain ⟨_, _, htext, -, -⟩ := pendingUnlock_eq_ok.1 he
    exact Address.length_of_toText htext

theorem mem_of_mem_takeFirst {α : Type} {count : Int} {xs : List α} {x : α}
    (h : x ∈ takeFirst count xs) : x ∈ xs := by
  rw [takeFirst] at h
  split at h
  · exact List.mem_of_mem_take h
  · exact List.mem_of_mem_take h

/-- Initial validators are among the recorded delegates. -/
theorem exists_of_mem_initialValidators {top : List DelegateWeight} {max : Int} {b : Octets}
    (h : b ∈ initialValidators accounts top max) : ∃ d ∈ top, d.address = b := by
  have hmem := List.mem_mergeSort.1 (mem_of_mem_takeFirst h)
  exact List.mem_map.1 (List.mem_of_mem_filter hmem)

/-- An initial validator whose address has no text keeps the new chain from starting. -/
theorem genesisData_of_long {weights : VoteWeights} {height round : Int} {recorded : VoteWeight}
    {b : Octets} (hround : roundOf height n.roundLength = .ok round)
    (hrecorded : weights.forRound (round - 2) = some recorded)
    (hb : b ∈ initialValidators accounts recorded.delegates n.maxInitValidators)
    (hlength : b.length ≠ Address.length) :
    ∃ fault, genesisData accounts weights height n = .error (.value fault) := by
  obtain ⟨d, hd, -⟩ := exists_of_mem_initialValidators hb
  have htop : topDelegates weights (round - 2) = .ok recorded.delegates :=
    topDelegates_eq_ok.2 ⟨recorded, hrecorded, rfl, List.ne_nil_of_mem hd⟩
  have hfails : FailsWithin (fun e => ∃ fault, e = .value fault)
      (genesisData accounts weights height n) := by
    rw [genesisData_of_topDelegates hround htop]
    refine (Decimal.failsWithin_print fun _ _ _ => ⟨_, rfl⟩).bind fun _ _ => ?_
    refine FailsWithin.bind (.mapM fun _ _ => ?_) fun _ _ => .ok _
    exact Address.failsWithin_toText fun _ => ⟨_, rfl⟩
  obtain ⟨_, herror, fault, rfl⟩ := hfails.exists_error fun g hok => by
    rw [genesisData_of_topDelegates hround htop] at hok
    obtain ⟨_, -, hok⟩ := bind_eq_ok.1 hok
    obtain ⟨texts, htexts, -⟩ := bind_eq_ok.1 hok
    obtain ⟨text, -, htext⟩ := exists_of_mem htexts hb
    exact hlength (Address.length_of_toText htext)
  exact ⟨fault, herror⟩

end Stake

-- ---------------------------------------------------------------------------
-- The assembly
-- ---------------------------------------------------------------------------

section
variable {s : Snapshot}

/-- Where the supply can be written, so can the amounts that it is made of. -/
theorem fits_of_supply
    (hfits : Decimal.fits
      (Token.totalSupply s.accounts (Legacy.reserveAmount s.legacyAccounts)) = true) :
    (∀ u ∈ s.legacyAccounts, Decimal.fits u.balance = true) ∧
      ∀ a ∈ s.accounts, Decimal.fits a.lockedAmount = true := by
  have hpos : (0 : Int) ≤ Legacy.reserveAmount s.legacyAccounts := Int.natCast_nonneg _
  refine ⟨fun u hu => ?_, fun a ha => (Token.fits_of_mem hpos hfits ha).2⟩
  have hle : u.balance ≤ Legacy.reserveAmount s.legacyAccounts :=
    Amount.le_sum_of_mem (List.mem_map_of_mem hu)
  exact Decimal.fits_of_le (Int.natCast_nonneg _) (Int.ofNat_le.2 hle)
    (Token.fits_legacyAmount hpos hfits)

/-- Where the supply can be written, the unfit values are found by the module of stakes. -/
theorem stakeAsset_of_unfit {n : Network} {tokenAsset : Asset}
    (haddress : ∀ a ∈ s.accounts, a.address.length = Address.length)
    (htoken : Token.asset s.accounts (Legacy.reserveAmount s.legacyAccounts) n = .ok tokenAsset)
    {fault : ValueFault} (h : Unfit s n fault) (keys : Stake.KeyTexts) :
    ∃ fault, Stake.asset s.accounts keys s.voteWeights s.height n = .error (.value fault) := by
  obtain ⟨vs, hvs⟩ := (Stake.failsWithin_validators (n := n) haddress keys s.height).exists_ok
  have hstakers : FailsWithin (fun e => ∃ fault, e = .value fault)
      (Stake.stakers s.accounts n) :=
    Stake.failsWithin_stakers haddress (fun _ _ _ _ _ => ⟨_, rfl⟩) (fun _ _ _ _ _ => ⟨_, rfl⟩)
      fun _ _ _ => ⟨_, rfl⟩
  rw [Stake.asset, hvs, ok_bind]
  -- what is unfit about votes shows up here already
  cases hss : Stake.stakers s.accounts n with
  | error e =>
    obtain ⟨fault, rfl⟩ := hstakers e hss
    exact ⟨fault, rfl⟩
  | ok ss =>
    -- the stakers are written, so what is unfit is an elected delegate or the supply
    cases h with
    | vote ha hv hne => exact absurd ((Stake.lengths_of_stakers hss ha).1 _ hv) hne
    | unlock ha hu hne => exact absurd ((Stake.lengths_of_stakers hss ha).2 _ hu) hne
    | initial hround hrecorded hb hne =>
      obtain ⟨fault, hdata⟩ := Stake.genesisData_of_long hround hrecorded hb hne
      exact ⟨fault, by rw [ok_bind, hdata, error_bind]⟩
    | supply hlarge =>
      obtain ⟨d, hdata, -⟩ := Token.asset_eq_ok.1 htoken
      obtain ⟨_, _, -, -, hfits, -⟩ := Token.data_eq_ok.1 hdata
      rw [hfits] at hlarge
      exact nomatch hlarge

end

section
variable {s : Snapshot} {n : Network} {token reserve : Octets}
  (htoken : Hex.readText n.tokenId = .ok token) (hreserve : n.reserveAddress = Hex.encode reserve)
  (hlength : reserve.length = Address.length)
  (haddress : ∀ a ∈ s.accounts, a.address.length = Address.length)
  (hnodup : (s.accounts.map Account.address).Nodup)
  (hnonce : ∀ a ∈ s.accounts, Decimal.fits a.sequence.nonce = true)
include htoken hreserve hlength haddress hnodup hnonce

/-- **Failures of an assembly.** Where the accounts have addresses of twenty bytes, no two of them
the same, an assembly fails with a failure of a migration or because a value is unfit. -/
theorem failsWithin_assemble {P : Failure → Prop}
    (hP : ∀ e : Failure, e.isMigrationFailure = true → P e)
    (hunfit : ∀ fault, Unfit s n fault → P (.value fault)) (hzero : 0 ≤ s.height)
    (hfits : Decimal.fits s.height = true) (hround : 0 < n.roundLength) (keys : Stake.KeyTexts) :
    FailsWithin P (assemble s keys n) := by
  -- an amount that cannot be written makes a supply that cannot be written
  have hamount : ∀ {m : Int}, (Decimal.fits (Token.totalSupply s.accounts
      (Legacy.reserveAmount s.legacyAccounts)) = true → Decimal.fits m = true) →
      Decimal.fits m = false → P (.value (.integer .tooLarge)) := by
    refine fun hpart hlarge => hunfit _ (.supply ?_)
    rw [← Bool.not_eq_true] at hlarge ⊢
    exact fun hfits => hlarge (hpart hfits)
  have hstake : FailsWithin P (Stake.asset s.accounts keys s.voteWeights s.height n) := by
    have hroundOf : Stake.roundOf s.height n.roundLength = .ok (-(-s.height / n.roundLength)) :=
      Stake.roundOf_of_pos hround
    refine (Stake.failsWithin_validators haddress keys s.height).bind fun _ _ => ?_
    refine (Stake.failsWithin_stakers haddress ?_ ?_ ?_).bind fun _ _ => ?_
    · exact fun a ha v hv hne => hunfit _ (.vote ha hv hne)
    · exact fun a ha u hu hne => hunfit _ (.unlock ha hu hne)
    · exact fun a ha => hamount fun hfits => (fits_of_supply hfits).2 a ha
    refine (Stake.failsWithin_genesisData hP hroundOf
      (Stake.fits_of_roundOf hzero hroundOf hfits) ?_).bind fun _ _ => .ok _
    exact fun recorded hrecorded b hb hne => hunfit _ (.initial hroundOf hrecorded hb hne)
  have hinter : FailsWithin P (Interoperability.asset n) := by
    unfold Interoperability.asset
    split
    · exact .error (hP _ rfl)
    · exact .ok _
  refine (Legacy.failsWithin_asset fun u hu =>
    hamount fun hfits => (fits_of_supply hfits).1 u hu).bind fun _ _ => ?_
  refine (Token.failsWithin_asset htoken hreserve hlength haddress hnodup (Int.natCast_nonneg _)
    fun hlarge => hunfit _ (.supply hlarge)).bind fun _ _ => ?_
  refine (Auth.failsWithin_asset haddress hnonce).bind fun _ _ => ?_
  exact hstake.bind fun _ _ => hinter.bind fun _ _ => .ok _

/-- **Unfit values.** An unfit value is found, and then the failure is none of a migration. -/
theorem assemble_of_unfit {fault : ValueFault} (h : Unfit s n fault) (keys : Stake.KeyTexts) :
    ∃ fault, assemble s keys n = .error (.value fault) := by
  have hlegacyFails : FailsWithin (fun e => ∃ fault, e = .value fault)
      (Legacy.asset s.legacyAccounts) := Legacy.failsWithin_asset fun _ _ _ => ⟨_, rfl⟩
  have htokenFails : FailsWithin (fun e => ∃ fault, e = .value fault)
      (Token.asset s.accounts (Legacy.reserveAmount s.legacyAccounts) n) :=
    Token.failsWithin_asset htoken hreserve hlength haddress hnodup (Int.natCast_nonneg _)
      fun _ => ⟨_, rfl⟩
  -- the assets before the stakers may fail first, and then with a value fault as well
  cases hlegacyAsset : Legacy.asset s.legacyAccounts with
  | error e =>
    obtain ⟨fault, rfl⟩ := hlegacyFails e hlegacyAsset
    exact ⟨fault, by rw [assemble, hlegacyAsset, error_bind]⟩
  | ok legacyAsset =>
    cases htokenAsset : Token.asset s.accounts (Legacy.reserveAmount s.legacyAccounts) n with
    | error e =>
      obtain ⟨fault, rfl⟩ := htokenFails e htokenAsset
      exact ⟨fault, assemble_of_token_error hlegacyAsset htokenAsset⟩
    | ok tokenAsset =>
      obtain ⟨auth, hauth⟩ := (Auth.failsWithin_asset (n := n) haddress hnonce).exists_ok
      obtain ⟨fault, hstake⟩ := stakeAsset_of_unfit haddress htokenAsset h keys
      refine ⟨fault, ?_⟩
      dsimp only [assemble]
      rw [hlegacyAsset, ok_bind, htokenAsset, ok_bind, hauth, ok_bind, hstake, error_bind]

end

end Regenesis.Genesis

import Mathlib
import Regenesis.Proofs.Assembly.Failures

/-!
# Proofs.Assembly.Success — when an assembly succeeds

An assembly fails for few reasons: an address without a text, a supply that is not held, a chain
without a name, or a round without recorded delegates. `exists_assemble` says that there are no
others.
-/

namespace Regenesis.Genesis

open Record

/-- Whether all addresses that an account states have twenty bytes. -/
def HasAddresses (a : Account) : Prop :=
  a.address.length = Address.length ∧
    (∀ v ∈ a.dpos.sentVotes, v.delegateAddress.length = Address.length) ∧
    ∀ u ∈ a.dpos.unlocking, u.delegateAddress.length = Address.length

instance (a : Account) : Decidable (HasAddresses a) := by
  unfold HasAddresses
  infer_instance

section
variable {accounts : List Account} {n : Network}

theorem exists_authAsset (h : ∀ a ∈ accounts, HasAddresses a)
    (hnonce : ∀ a ∈ accounts, Decimal.fits a.sequence.nonce = true) :
    ∃ a, Auth.asset accounts n = .ok a :=
  (Auth.failsWithin_asset (fun a ha => (h a ha).1) hnonce).exists_ok

namespace Stake

theorem exists_validators (h : ∀ a ∈ accounts, HasAddresses a) (keys : KeyTexts) (height : Int) :
    ∃ vs, validators accounts keys height n = .ok vs :=
  (failsWithin_validators (fun a ha => (h a ha).1) keys height).exists_ok

/-- Stakers can be listed where addresses have twenty bytes and amounts can be written. -/
theorem exists_stakers (h : ∀ a ∈ accounts, HasAddresses a)
    (hlocked : ∀ a ∈ accounts, Decimal.fits a.lockedAmount = true) :
    ∃ ss, stakers accounts n = .ok ss := by
  refine (failsWithin_stakers (fun a ha => (h a ha).1) ?_ ?_ ?_).exists_ok
  · exact fun a ha v hv hne => hne ((h a ha).2.1 v hv)
  · exact fun a ha u hu hne => hne ((h a ha).2.2 u hu)
  · exact fun a ha hlarge => nomatch (hlocked a ha).symm.trans hlarge

/-- The new chain can start where delegates are recorded for the round. -/
theorem exists_genesisData {weights : VoteWeights} {height round : Int} {recorded : VoteWeight}
    (hround : roundOf height n.roundLength = .ok round) (hfits : Decimal.fits (round - 2) = true)
    (hrecorded : weights.forRound (round - 2) = some recorded) (hne : recorded.delegates ≠ [])
    (h : ∀ d ∈ recorded.delegates, d.address.length = Address.length) :
    ∃ g, genesisData accounts weights height n = .ok g := by
  have htop := topDelegates_eq_ok.2 ⟨recorded, hrecorded, rfl, hne⟩
  have hinitial : ∃ texts, (initialValidators accounts recorded.delegates n.maxInitValidators).mapM
      (Address.toText n.addressLabel) = .ok texts := by
    refine Outcome.exists_mapM fun b hb => ?_
    obtain ⟨d, hd, rfl⟩ := exists_of_mem_initialValidators hb
    exact Address.exists_toText n.addressLabel (h d hd)
  obtain ⟨texts, htexts⟩ := hinitial
  refine ⟨⟨n.initRounds, texts⟩, ?_⟩
  rw [genesisData_of_topDelegates hround htop,
    Decimal.print_of_fits (List.forall_mem_singleton.2 hfits), Outcome.ok_bind, htexts]
  rfl

end Stake

end

/-- **Success of an assembly.** A snapshot is assembled if all its addresses have twenty bytes, no
two accounts share one, its numbers can be printed, and the round of the initial validators is
recorded. -/
theorem exists_assemble {s : Snapshot} {n : Network} {token reserve : Octets} {round : Int}
    {recorded : VoteWeight} (keys : Stake.KeyTexts) (htoken : Hex.readText n.tokenId = .ok token)
    (hreserve : n.reserveAddress = Hex.encode reserve) (hlength : reserve.length = Address.length)
    (hname : n.chainName.isEmpty = false) (hnodup : (s.accounts.map Account.address).Nodup)
    (haddresses : ∀ a ∈ s.accounts, HasAddresses a)
    (hnonces : ∀ a ∈ s.accounts, Decimal.fits a.sequence.nonce = true)
    (hfits : Decimal.fits
      (Token.totalSupply s.accounts (Legacy.reserveAmount s.legacyAccounts)) = true)
    (hround : Stake.roundOf s.height n.roundLength = .ok round)
    (hroundFits : Decimal.fits (round - 2) = true)
    (hrecorded : s.voteWeights.forRound (round - 2) = some recorded)
    (hne : recorded.delegates ≠ [])
    (hdelegates : ∀ d ∈ recorded.delegates, d.address.length = Address.length) :
    ∃ assets, assemble s keys n = .ok assets := by
  obtain ⟨users, htokenData⟩ := Token.exists_data_of_nodup _ _ htoken hreserve hlength
    (fun a ha => (haddresses a ha).1) (Int.natCast_nonneg _) hfits hnodup
  obtain ⟨hlegacyFits, hlockedFits⟩ := fits_of_supply hfits
  obtain ⟨legacy, hlegacy⟩ := Legacy.exists_asset hlegacyFits
  obtain ⟨auth, hauth⟩ := exists_authAsset (n := n) haddresses hnonces
  obtain ⟨vs, hvs⟩ := Stake.exists_validators (n := n) haddresses keys s.height
  obtain ⟨ss, hss⟩ := Stake.exists_stakers (n := n) haddresses hlockedFits
  obtain ⟨g, hg⟩ := Stake.exists_genesisData (n := n) hround hroundFits hrecorded hne hdelegates
  have hinter : ∃ a, Interoperability.asset n = .ok a :=
    ⟨_, by rw [Interoperability.asset, hname]; rfl⟩
  obtain ⟨interoperability, hinter⟩ := hinter
  exact ⟨_, assemble_eq_ok.2 ⟨legacy, _, auth, _, interoperability, hlegacy,
    Token.asset_eq_ok.2 ⟨_, htokenData, rfl⟩, hauth,
    Stake.asset_eq_ok.2 ⟨vs, ss, g, hvs, hss, hg, rfl⟩, hinter, rfl⟩⟩

/-- Two voters, of which one is the reserve, and an old address. -/
def twoVoters : Snapshot where
  height := 309
  previousHeight := 200
  block := none
  accounts := [Token.voter (Token.repeated 1) 10 3, Token.voter (Token.repeated 7) 4 2]
  legacyAccounts := [⟨[1], 5⟩]
  voteWeights := ⟨[⟨1, [⟨Token.repeated 1, 5⟩]⟩]⟩

/-- Two voters on the simple network, whatever the label of its addresses. -/
theorem exists_assemble_twoVoters_under (label : String) :
    ∃ assets, assemble twoVoters [] { Token.simpleNetwork with addressLabel := label } =
      .ok assets := by
  have hround : Stake.roundOf twoVoters.height Token.simpleNetwork.roundLength = .ok 3 := by decide
  have hrecorded : twoVoters.voteWeights.forRound (3 - 2) =
      some ⟨1, [⟨Token.repeated 1, 5⟩]⟩ := by decide
  have hname : Token.simpleNetwork.chainName.isEmpty = false := by decide
  exact exists_assemble [] Token.readText_tokenId_simpleNetwork rfl List.length_replicate
    hname (by decide) (by decide) (by decide) (by decide) hround (by decide) hrecorded (by decide)
    (by decide)

theorem exists_assemble_twoVoters :
    ∃ assets, assemble twoVoters [] Token.simpleNetwork = .ok assets :=
  exists_assemble_twoVoters_under "lsk"

end Regenesis.Genesis

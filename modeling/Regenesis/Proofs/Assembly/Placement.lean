import Mathlib
import Regenesis.Proofs.Address.Checksum
import Regenesis.Proofs.Assembly.Success
import Regenesis.Proofs.Token.Locks
import Regenesis.Proofs.Token.Reordering

/-!
# Proofs.Assembly.Placement — every account has its place

Four lists of the assets are keyed by addresses: entries of the auth module, users of the token
module, validators and stakers. Each is sorted by the bytes of the addresses and then printed in
another alphabet. `Places` says what a reader of the printed list gets back: the addresses that
belong there, each once and in ascending order, and at each the entry that its account makes.

* `places_of_mapM` — a pass over items in the order of their addresses places them.
* `Token.ascending_userBalances` — the reserve, which is put in by a path of its own, is placed too.
* `accounts_placed` — no account is lost, duplicated or misplaced, if the label can be read.
* `unreadable_label` — under a label that is a space, no address of the assets can be read.
-/

namespace Regenesis.Genesis

open Record

-- ---------------------------------------------------------------------------
-- Lists keyed by addresses
-- ---------------------------------------------------------------------------

/-- Whether a list of entries places some addresses: the texts of its entries are read as addresses
of the network of a label, each of the addresses once and in ascending order, and every entry is
what `R` wants at its address. -/
def Places {ε : Type} (label : String) (text : ε → String) (addresses : List Octets)
    (R : Octets → ε → Prop) (entries : List ε) : Prop :=
  ∃ bs : List Octets, bs.Perm addresses ∧ bs.Pairwise (· < ·) ∧
    (entries.map text).mapM Address.ofText = .ok (bs.map fun b => (label, b)) ∧
    List.Forall₂ R bs entries

/-- Keys that do not descend ascend if they are distinct. -/
theorem pairwise_lt_of_nodup {bs : List Octets} (h : bs.Pairwise fun a b => a.le b = true)
    (hnodup : bs.Nodup) : bs.Pairwise (· < ·) := by
  refine (h.and hnodup).imp fun {a b} hab => ?_
  by_contra hlt
  exact hab.2 (List.le_antisymm (Octets.le_iff.1 hab.1) (List.not_lt.1 hlt))

section
variable {α ε : Type} {key : α → Octets} {f : α → Except Failure ε} {xs : List α} {es : List ε}
  {label : String} {text : ε → String} {R : Octets → ε → Prop}

/-- Items in the order of their addresses are placed if each makes an entry under its address. -/
theorem places_of_mapM (hascending : xs.Pairwise fun a b => (key a).le (key b) = true)
    (hnodup : (xs.map key).Nodup) (h : xs.mapM f = .ok es)
    (hf : ∀ x ∈ xs, ∀ e, f x = .ok e →
      Address.ofText (text e) = .ok (label, key x) ∧ R (key x) e) :
    Places label text (xs.map key) R es := by
  have hentries := Outcome.forall₂_of_mapM h hf
  refine ⟨xs.map key, List.Perm.refl _, ?_, ?_, ?_⟩
  · exact pairwise_lt_of_nodup (List.pairwise_map.2 hascending) hnodup
  · rw [Outcome.mapM_eq_ok, List.forall₂_map_left_iff, List.forall₂_map_right_iff,
      List.forall₂_map_right_iff]
    exact hentries.flip.imp fun e x hxe => hxe.1
  · rw [List.forall₂_map_left_iff]
    exact hentries.imp fun x e hxe => hxe.2

/-- The order in which the addresses are named does not matter. -/
theorem Places.of_perm {as bs : List Octets} (h : Places label text as R es) (hperm : as.Perm bs) :
    Places label text bs R es := by
  obtain ⟨cs, hcs, hrest⟩ := h
  exact ⟨cs, hcs.trans hperm, hrest⟩

/-- What accounts become one by one is placed, in the order of their addresses. -/
theorem places_byAddress {accounts : List Account} {f : Account → Except Failure ε}
    {R : Account → ε → Prop} (hnodup : (accounts.map Account.address).Nodup)
    (h : (byAddress accounts).mapM f = .ok es)
    (hf : ∀ a ∈ accounts, ∀ e, f a = .ok e →
      Address.ofText (text e) = .ok (label, a.address) ∧ R a e) :
    Places label text (accounts.map Account.address)
      (fun b e => ∃ a ∈ accounts, a.address = b ∧ R a e) es := by
  have hperm := byAddress_perm accounts
  refine (places_of_mapM (Order.pairwise_mergeSort_key Account.address accounts)
    ((hperm.map _).nodup_iff.2 hnodup) h fun a ha e he => ?_).of_perm (hperm.map _)
  obtain ⟨htext, hR⟩ := hf a (hperm.mem_iff.1 ha) e he
  exact ⟨htext, a, hperm.mem_iff.1 ha, rfl, hR⟩

end

-- ---------------------------------------------------------------------------
-- Auth
-- ---------------------------------------------------------------------------

namespace Auth

/-- Whether an entry states the authentication of an account: its keys in ascending order, and its
nonce. -/
structure States (a : Account) (e : Entry) : Prop where
  numberOfSignatures : e.storeValue.numberOfSignatures = a.keys.numberOfSignatures
  mandatoryKeys : e.storeValue.mandatoryKeys.Perm a.keys.mandatoryKeys
  mandatoryAscending : e.storeValue.mandatoryKeys.Pairwise (· ≤ ·)
  optionalKeys : e.storeValue.optionalKeys.Perm a.keys.optionalKeys
  optionalAscending : e.storeValue.optionalKeys.Pairwise (· ≤ ·)
  nonce : e.storeValue.nonce = Decimal.ofInt a.sequence.nonce
  readsNonce : Decimal.readText e.storeValue.nonce = .ok (a.sequence.nonce : Int)

variable {n : Network} {a : Account} {e : Entry}

/-- An entry is made of the text of the address, the keys in order, and the nonce. -/
theorem entry_eq_ok :
    entry n a = .ok e ↔
      ∃ text nonce, Address.toText n.addressLabel a.address = .ok text ∧
        Decimal.writeText a.sequence.nonce = .ok nonce ∧
        e = ⟨text, a.keys.numberOfSignatures, sortKeys a.keys.mandatoryKeys,
          sortKeys a.keys.optionalKeys, nonce⟩ := by
  simp only [entry, AuthAccount.ofAccount, Outcome.bind_eq_ok, Outcome.pure_eq_ok]
  constructor
  · rintro ⟨text, htext, _, ⟨nonce, hnonce, rfl⟩, rfl⟩
    exact ⟨text, nonce, htext, hnonce, rfl⟩
  · rintro ⟨text, nonce, htext, hnonce, rfl⟩
    exact ⟨text, htext, _, ⟨nonce, hnonce, rfl⟩, rfl⟩

theorem pairwise_sortKeys (keys : List Octets) : (sortKeys keys).Pairwise (· ≤ ·) :=
  (Order.pairwise_mergeSort_key id keys).imp Octets.le_iff.1

/-- An entry states the keys and the nonce of its account. -/
theorem states_of_entry (h : entry n a = .ok e) : States a e := by
  obtain ⟨text, nonce, -, hnonce, rfl⟩ := entry_eq_ok.1 h
  exact {
    numberOfSignatures := rfl
    mandatoryKeys := List.mergeSort_perm _ _
    mandatoryAscending := pairwise_sortKeys _
    optionalKeys := List.mergeSort_perm _ _
    optionalAscending := pairwise_sortKeys _
    nonce := (Decimal.writeText_eq_ok.1 hnonce).2
    readsNonce := Decimal.readText_of_writeText hnonce }

/-- Each account has one entry, under the text of its address. -/
theorem places_entries {accounts : List Account} {es : List Entry}
    (hlabel : Bech32.IsLabel n.addressLabel.toList)
    (hnodup : (accounts.map Account.address).Nodup) (h : entries accounts n = .ok es) :
    Places n.addressLabel Entry.storeKey (accounts.map Account.address)
      (fun b e => ∃ a ∈ accounts, a.address = b ∧ States a e) es := by
  refine places_byAddress hnodup h fun a _ e he => ⟨?_, states_of_entry he⟩
  obtain ⟨text, _, htext, -, rfl⟩ := entry_eq_ok.1 he
  exact Address.ofText_toText hlabel htext

end Auth

-- ---------------------------------------------------------------------------
-- Token
-- ---------------------------------------------------------------------------

namespace Token

variable {accounts : List Account} {legacyAmount : Int} {n : Network} {reserve : Octets}

/-- Whether an entry states what is held at an address: the balance of the account there, or nothing
if there is none, and what is locked there. -/
structure States (accounts : List Account) (legacyAmount : Int) (reserve : Octets) (n : Network)
    (b : Octets) (e : UserEntry) : Prop where
  tokenId : e.tokenId = n.tokenId
  balance : ∀ a ∈ accounts, a.address = b →
    Decimal.readText e.availableBalance = .ok (a.token.balance : Int)
  noBalance : (∀ a ∈ accounts, a.address ≠ b) → Decimal.readText e.availableBalance = .ok 0
  locked : e.lockedBalances = (locksAt accounts legacyAmount reserve b).map printLock

/-- What a holder has available is the balance of the account at its address. -/
theorem available_of_mem_holders (hreserve : n.reserveAddress = Hex.encode reserve)
    (hnodup : (accounts.map Account.address).Nodup) {u : UserBalance}
    (hu : u ∈ holders accounts legacyAmount n) :
    (∀ a ∈ accounts, a.address = u.bytes → u.available = a.token.balance) ∧
      ((∀ a ∈ accounts, a.address ≠ u.bytes) → u.available = 0) := by
  rcases mem_holders.1 hu with ⟨a, ha, -, rfl⟩ | rfl
  · have hbytes : (userBalance n a).bytes = a.address := bytes_of_address rfl
    rw [hbytes]
    refine ⟨fun c hc hca => ?_, fun hnone => absurd rfl (hnone a ha)⟩
    rw [List.inj_on_of_nodup_map hnodup hc ha hca]
    rfl
  · have hbytes : (reserveBalance accounts legacyAmount n).bytes = reserve :=
      bytes_of_address hreserve
    rw [hbytes, reserveBalance, find?_reserve hreserve]
    refine ⟨fun a ha hab => ?_, fun hnone => ?_⟩
    · rw [← hab, find?_address_of_mem hnodup ha]
      rfl
    · rw [find?_address_of_forall_ne hnone]
      rfl

/-- An entry states what is held at its address. -/
theorem states_of_entry (hreserve : n.reserveAddress = Hex.encode reserve)
    (hnodup : (accounts.map Account.address).Nodup) {u : UserBalance} {e : UserEntry}
    (hu : u ∈ holders accounts legacyAmount n) (he : u.entry n.addressLabel = .ok e) :
    States accounts legacyAmount reserve n u.bytes e := by
  obtain ⟨hbalance, hnone⟩ := available_of_mem_holders hreserve hnodup hu
  have hat := isEntryAt_of_entry hreserve hnodup hu he
  obtain ⟨address, -, hprints, rfl⟩ := UserBalance.entry_eq_ok.1 he
  have hread : Decimal.readText (u.printed address).availableBalance = .ok u.available :=
    Decimal.readText_ofInt hprints.1
  exact {
    tokenId := tokenId_of_mem_holders hu
    balance := fun a ha hab => by rw [hread, hbalance a ha hab]
    noBalance := fun h => by rw [hread, hnone h]
    locked := hat.2.1 }

/-- The balances are in the order of their addresses. -/
theorem ascending_userBalances {us : List UserBalance}
    (h : userBalances accounts legacyAmount n = .ok us) :
    us.Pairwise fun u v => u.bytes.le v.bytes = true := by
  obtain ⟨places, hplaces, hus⟩ := Outcome.bind_eq_ok.1 h
  rw [← Except.ok.inj hus, List.pairwise_map]
  have hbytes : ∀ p ∈ places.zip (holders accounts legacyAmount n), p.1.1 = p.2.bytes := by
    intro p hp
    have hplace := (List.forall₂_iff_zip.1 (Outcome.mapM_eq_ok.1 hplaces).flip).2 hp
    obtain ⟨address, haddress, hp⟩ := Outcome.bind_eq_ok.1 hplace
    obtain ⟨token, -, hp⟩ := Outcome.bind_eq_ok.1 hp
    rw [← Except.ok.inj hp, UserBalance.bytes, haddress]
    rfl
  refine List.Pairwise.imp_of_mem (fun {p q} hp hq hpq => ?_)
    (List.pairwise_mergeSort (fun a b c => placeLe_trans a.1 b.1 c.1)
      (fun a b => placeLe_total a.1 b.1) (places.zip (holders accounts legacyAmount n)))
  rw [← hbytes p (List.mem_mergeSort.1 hp), ← hbytes q (List.mem_mergeSort.1 hq), Octets.le_iff]
  rcases placeLe_iff.1 hpq with hlt | ⟨heq, -⟩
  · exact List.le_of_lt hlt
  · exact heq ▸ List.le_refl _

/-- Each holder has one entry, under the text of its address. -/
theorem places_users {d : Data} (hlabel : Bech32.IsLabel n.addressLabel.toList)
    (hreserve : n.reserveAddress = Hex.encode reserve)
    (hnodup : (accounts.map Account.address).Nodup) (h : data accounts legacyAmount n = .ok d) :
    Places n.addressLabel UserEntry.address (holderAddresses accounts reserve)
      (States accounts legacyAmount reserve n) d.users := by
  obtain ⟨us, users, hus, husers, -, -, rfl⟩ := data_eq_ok.1 h
  have hperm := userBalances_perm hus
  have hbytes := hperm.map UserBalance.bytes
  rw [map_bytes_holders hreserve] at hbytes
  refine (places_of_mapM (ascending_userBalances hus)
    (hbytes.nodup_iff.2 (nodup_holderAddresses hnodup)) husers fun u hu e he => ?_).of_perm hbytes
  have hmem := hperm.mem_iff.1 hu
  refine ⟨?_, states_of_entry hreserve hnodup hmem he⟩
  exact Address.ofText_toText hlabel (isEntryAt_of_entry hreserve hnodup hmem he).1

end Token

-- ---------------------------------------------------------------------------
-- Proof of stake
-- ---------------------------------------------------------------------------

namespace Stake

/-- Whether a stake states a vote: its delegate's address and its amount. -/
def StakeEntry.States (n : Network) (v : SentVote) (e : StakeEntry) : Prop :=
  Address.ofText e.validatorAddress = .ok (n.addressLabel, v.delegateAddress) ∧
    Decimal.readText e.amount = .ok (v.amount : Int) ∧ e.tokenId = n.tokenId

/-- Whether a pending unlock states a vote that is being unlocked. -/
def PendingUnlock.States (n : Network) (u : UnlockingEntry) (e : PendingUnlock) : Prop :=
  Address.ofText e.validatorAddress = .ok (n.addressLabel, u.delegateAddress) ∧
    Decimal.readText e.amount = .ok (u.amount : Int) ∧ e.unstakeHeight = u.unvoteHeight

/-- Whether a staker states the votes of an account: those that it has sent, in the order of their
delegates, and those that are being unlocked, in their own order. -/
structure Staker.States (n : Network) (a : Account) (s : Staker) : Prop where
  stakes : ∃ votes : List SentVote, votes.Perm a.dpos.sentVotes ∧
    votes.Pairwise (fun v w => v.delegateAddress ≤ w.delegateAddress) ∧
    List.Forall₂ (StakeEntry.States n) votes s.stakes
  unlocks : List.Forall₂ (PendingUnlock.States n) a.dpos.unlocking s.pendingUnlocks

variable {n : Network} {a : Account}

/-- A staker states the votes and the unlocks of its account. -/
theorem states_of_staker (hlabel : Bech32.IsLabel n.addressLabel.toList) {s : Staker}
    (h : staker n a = .ok s) : s.States n a := by
  obtain ⟨-, hstakes, hunlocks⟩ := staker_eq_ok.1 h
  refine ⟨⟨sortVotes a.dpos.sentVotes, sortVotes_perm _, ?_, ?_⟩, ?_⟩
  · exact (Order.pairwise_mergeSort_key SentVote.delegateAddress _).imp Octets.le_iff.1
  · refine Outcome.forall₂_of_mapM hstakes fun v _ e he => ?_
    obtain ⟨text, amount, htext, hamount, rfl⟩ := stake_eq_ok.1 he
    exact ⟨Address.ofText_toText hlabel htext, Decimal.readText_of_writeText hamount, rfl⟩
  · refine Outcome.forall₂_of_mapM hunlocks fun u _ e he => ?_
    obtain ⟨text, amount, htext, hamount, rfl⟩ := pendingUnlock_eq_ok.1 he
    exact ⟨Address.ofText_toText hlabel htext, Decimal.readText_of_writeText hamount, rfl⟩

/-- Each delegate has one validator, under the text of its address. -/
theorem places_validators {accounts : List Account} {keys : KeyTexts} {height : Int}
    {vs : List Validator} (hlabel : Bech32.IsLabel n.addressLabel.toList)
    (hnodup : (accounts.map Account.address).Nodup)
    (h : validators accounts keys height n = .ok vs) :
    Places n.addressLabel Validator.address
      ((accounts.filter Account.isDelegate).map Account.address)
      (fun b v => ∃ a ∈ accounts.filter Account.isDelegate, a.address = b ∧
        validator keys height n a = .ok v) vs := by
  refine places_byAddress (hnodup.sublist (List.filter_sublist.map _)) h fun a _ v hv => ⟨?_, hv⟩
  obtain ⟨text, htext, rfl⟩ := Outcome.bind_pure_eq_ok.1 hv
  exact Address.ofText_toText hlabel htext

/-- Each account with votes or unlocks has one staker, under the text of its address. -/
theorem places_stakers {accounts : List Account} {ss : List Staker}
    (hlabel : Bech32.IsLabel n.addressLabel.toList)
    (hnodup : (accounts.map Account.address).Nodup) (h : stakers accounts n = .ok ss) :
    Places n.addressLabel Staker.address
      ((accounts.filter Account.isStaker).map Account.address)
      (fun b s => ∃ a ∈ accounts.filter Account.isStaker, a.address = b ∧ s.States n a) ss := by
  refine places_byAddress (hnodup.sublist (List.filter_sublist.map _)) h fun a _ s hs => ?_
  exact ⟨Address.ofText_toText hlabel (staker_eq_ok.1 hs).1, states_of_staker hlabel hs⟩

end Stake

-- ---------------------------------------------------------------------------
-- All lists
-- ---------------------------------------------------------------------------

/-- **Places of accounts.** In every successful assembly of a snapshot with distinct addresses,
under a label that can be read: the entries of the auth module place all accounts, each with its
keys in ascending order and its nonce; the users of the token module place the accounts and the
reserve, each with the balance of its account, or none where there is no account; the validators
place the delegates and the stakers the accounts with votes, each with what its account makes. -/
theorem accounts_placed {s : Snapshot} {keys : Stake.KeyTexts} {n : Network} {reserve : Octets}
    {assets : List Asset} (hlabel : Bech32.IsLabel n.addressLabel.toList)
    (hnodup : (s.accounts.map Account.address).Nodup)
    (hreserve : n.reserveAddress = Hex.encode reserve) (h : assemble s keys n = .ok assets) :
    ∃ (entries : List Auth.Entry) (d : Token.Data) (validators : List Stake.Validator)
      (stakers : List Stake.Staker) (start : Stake.GenesisData),
      (⟨"auth", .obj [("authDataSubstore", .arr (entries.map Auth.Entry.toJson))],
        Auth.descriptor.schema⟩ : Asset) ∈ assets ∧
      (⟨"token", d.toJson, Token.descriptor.schema⟩ : Asset) ∈ assets ∧
      (⟨"pos", Stake.dataJson validators stakers start, Stake.descriptor.schema⟩ : Asset) ∈ assets ∧
      Places n.addressLabel Auth.Entry.storeKey (s.accounts.map Account.address)
        (fun b e => ∃ a ∈ s.accounts, a.address = b ∧ Auth.States a e) entries ∧
      Places n.addressLabel Token.UserEntry.address (Token.holderAddresses s.accounts reserve)
        (Token.States s.accounts (Legacy.reserveAmount s.legacyAccounts) reserve n) d.users ∧
      Places n.addressLabel Stake.Validator.address
        ((s.accounts.filter Account.isDelegate).map Account.address)
        (fun b v => ∃ a ∈ s.accounts.filter Account.isDelegate, a.address = b ∧
          Stake.validator keys s.height n a = .ok v) validators ∧
      Places n.addressLabel Stake.Staker.address
        ((s.accounts.filter Account.isStaker).map Account.address)
        (fun b t => ∃ a ∈ s.accounts.filter Account.isStaker, a.address = b ∧
          Stake.Staker.States n a t) stakers := by
  obtain ⟨_, token, auth, stake, interoperability, -, htoken, hauth, hstake, -, rfl⟩ :=
    assemble_eq_ok.1 h
  obtain ⟨d, hdata, rfl⟩ := Token.asset_eq_ok.1 htoken
  obtain ⟨entries, hentries, rfl⟩ := Auth.asset_eq_ok.1 hauth
  obtain ⟨validators, stakers, start, hvalidators, hstakers, -, rfl⟩ := Stake.asset_eq_ok.1 hstake
  exact ⟨entries, d, validators, stakers, start, by simp, by simp, by simp,
    Auth.places_entries hlabel hnodup hentries, Token.places_users hlabel hreserve hnodup hdata,
    Stake.places_validators hlabel hnodup hvalidators,
    Stake.places_stakers hlabel hnodup hstakers⟩

/-- The accounts of two voters, of which one is the reserve, are placed. -/
theorem accounts_placed_two_voters :
    ∃ (assets : List Asset) (entries : List Auth.Entry),
      assemble twoVoters [] Token.simpleNetwork = .ok assets ∧
      (⟨"auth", .obj [("authDataSubstore", .arr (entries.map Auth.Entry.toJson))],
        Auth.descriptor.schema⟩ : Asset) ∈ assets ∧
      Places "lsk" Auth.Entry.storeKey [Token.repeated 1, Token.repeated 7]
        (fun b e => ∃ a ∈ twoVoters.accounts, a.address = b ∧ Auth.States a e) entries := by
  obtain ⟨assets, hassets⟩ := exists_assemble_twoVoters
  have hlabel : Bech32.IsLabel Token.simpleNetwork.addressLabel.toList := by decide +kernel
  have hreserve : Token.simpleNetwork.reserveAddress = Hex.encode (Token.repeated 7) := rfl
  obtain ⟨entries, -, -, -, -, hauth, -, -, hplaces, -⟩ :=
    accounts_placed hlabel (by decide) hreserve hassets
  exact ⟨assets, entries, hassets, hauth, hplaces⟩

/-- Under a label that is a space, the assets are assembled and no address of theirs can be read. -/
theorem unreadable_label :
    (twoVoters.accounts.map Account.address).Nodup ∧
      Token.simpleNetwork.reserveAddress = Hex.encode (Token.repeated 7) ∧
      ∃ (assets : List Asset) (entries : List Auth.Entry),
        assemble twoVoters [] { Token.simpleNetwork with addressLabel := " " } = .ok assets ∧
        (⟨"auth", .obj [("authDataSubstore", .arr (entries.map Auth.Entry.toJson))],
          Auth.descriptor.schema⟩ : Asset) ∈ assets ∧ entries.length = 2 ∧
        ∀ e ∈ entries, Address.ofText e.storeKey = .error (.value .bech32) := by
  obtain ⟨assets, hassets⟩ := exists_assemble_twoVoters_under " "
  obtain ⟨_, token, auth, stake, interoperability, -, -, hauth, -, -, hall⟩ :=
    assemble_eq_ok.1 hassets
  obtain ⟨entries, hentries, rfl⟩ := Auth.asset_eq_ok.1 hauth
  refine ⟨by decide, rfl, assets, entries, hassets, by simp [hall], ?_, fun e he => ?_⟩
  · exact (Outcome.mapM_eq_ok.1 hentries).length_eq.symm.trans (byAddress_perm _).length_eq
  · obtain ⟨a, -, ha⟩ := Outcome.exists_of_mem_mapM hentries he
    obtain ⟨text, _, htext, -, rfl⟩ := Auth.entry_eq_ok.1 ha
    exact Address.ofText_of_not_readable (show ' ' ∈ " ".toList by decide) (by decide) htext

end Regenesis.Genesis

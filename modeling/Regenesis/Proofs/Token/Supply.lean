import Mathlib
import Regenesis.Proofs.Assembly.Parts
import Regenesis.Proofs.Token.Balances

/-!
# Proofs.Token.Supply — nothing is lost between accounts and entries

The total supply counts every account. The entries count every account other than the reserve, the
first account at the reserve's address, and the legacy balances. What separates the two is what the
further accounts at that address hold, so `supply_conserved`: data are refused if and only if that
is not nothing, and otherwise entries and declared supply agree with the accounts.
-/

namespace Regenesis.Genesis.Token

open Record

-- ---------------------------------------------------------------------------
-- Holdings
-- ---------------------------------------------------------------------------

/-- All that an account holds: its balance, the votes it has sent and those that are being
unlocked. -/
def holdings (a : Account) : Int :=
  a.token.balance + Amount.sum (a.dpos.sentVotes.map SentVote.amount) +
    Amount.sum (a.dpos.unlocking.map UnlockingEntry.amount)

/-- What the accounts at an address hold, without the first of them. -/
def surplus (accounts : List Account) (address : Octets) : Int :=
  Amount.sumInt (((accounts.filter fun a => a.address == address).drop 1).map holdings)

/-- An account holds its balance and what it has locked. -/
theorem holdings_eq (a : Account) : holdings a = a.token.balance + a.lockedAmount := by
  rw [holdings, Account.lockedAmount, Nat.cast_add, add_assoc]

/-- No account holds less than nothing. -/
theorem holdings_nonneg (a : Account) : 0 ≤ holdings a := by
  rw [holdings_eq]
  omega

theorem sumInt_holdings_nonneg (accounts : List Account) :
    0 ≤ Amount.sumInt (accounts.map holdings) := by
  refine Amount.sumInt_nonneg fun m hm => ?_
  obtain ⟨a, -, rfl⟩ := List.mem_map.1 hm
  exact holdings_nonneg a

/-- The supply is what the accounts hold and what the reserve keeps. -/
theorem totalSupply_eq (accounts : List Account) (legacyAmount : Int) :
    totalSupply accounts legacyAmount =
      Amount.sumInt (accounts.map holdings) + legacyAmount := by
  rw [totalSupply]
  congr 3
  exact funext fun a => (holdings_eq a).symm

/-- The locks of an account add up to its locked amount. -/
theorem sumInt_voteLocks (a : Account) :
    Amount.sumInt ((voteLocks a).map (·.2)) = a.lockedAmount := by
  rw [voteLocks]
  by_cases h : 0 < a.lockedAmount
  · rw [if_pos h]
    simp only [List.map_cons, List.map_nil, Amount.sumInt, add_zero]
  · rw [if_neg h]
    simp only [List.map_nil, Amount.sumInt]
    omega

/-- The balance of an account adds up to what the account holds. -/
theorem total_userBalance (n : Network) (a : Account) : (userBalance n a).total = holdings a := by
  rw [UserBalance.total, holdings_eq, userBalance, sumInt_voteLocks]

-- ---------------------------------------------------------------------------
-- The reserve
-- ---------------------------------------------------------------------------

variable {accounts : List Account} {legacyAmount : Int} {n : Network} {reserve : Octets}

/-- An account is that of the reserve if it has its address. -/
theorem addressText_eq_iff (hreserve : n.reserveAddress = Hex.encode reserve) (a : Account) :
    (addressText a == n.reserveAddress) = (a.address == reserve) := by
  rw [Bool.eq_iff_iff, beq_iff_eq, beq_iff_eq, addressText, hreserve]
  exact ⟨Hex.encode_injective, fun h => h ▸ rfl⟩

/-- The reserve's account is the first at its address. -/
theorem find?_reserve (hreserve : n.reserveAddress = Hex.encode reserve) :
    (accounts.find? fun a => addressText a == n.reserveAddress) =
      accounts.find? fun a => a.address == reserve :=
  congrArg (accounts.find? ·) (funext fun a => addressText_eq_iff hreserve a)

/-- The reserve holds what the first account at its address holds, and the legacy balances. -/
theorem total_reserveBalance (hreserve : n.reserveAddress = Hex.encode reserve) :
    (reserveBalance accounts legacyAmount n).total =
      Amount.sumInt (((accounts.filter fun a => a.address == reserve).take 1).map holdings) +
        legacyAmount := by
  have hsort : ∀ locks : List Lock,
      Amount.sumInt ((sortLocks locks).map (·.2)) = Amount.sumInt (locks.map (·.2)) :=
    fun locks => Amount.sumInt_eq_of_perm ((List.mergeSort_perm _ _).map _)
  rw [UserBalance.total, reserveBalance, hsort, List.map_append, Amount.sumInt_append,
    find?_reserve hreserve, ← List.head?_filter]
  cases accounts.filter fun a => a.address == reserve with
  | nil => simp [Amount.sumInt]
  | cons a rest =>
    simp only [List.head?_cons, Option.map_some, Option.getD_some, List.take_succ_cons,
      List.take_zero, List.map_cons, List.map_nil, Amount.sumInt, sumInt_voteLocks, holdings_eq]
    omega

/-- What separates the declared supply from what is held. -/
theorem totalSupply_eq_held_add_surplus (hreserve : n.reserveAddress = Hex.encode reserve) :
    totalSupply accounts legacyAmount =
      Amount.sumInt ((holders accounts legacyAmount n).map UserBalance.total) +
        surplus accounts reserve := by
  have hothers : (accounts.filter fun a => addressText a != n.reserveAddress) =
      accounts.filter fun a => !(a.address == reserve) := by
    refine List.filter_congr fun a _ => ?_
    rw [bne, addressText_eq_iff hreserve]
  have hsplit : ∀ xs : List Account, Amount.sumInt ((xs.take 1).map holdings) +
      Amount.sumInt ((xs.drop 1).map holdings) = Amount.sumInt (xs.map holdings) := by
    intro xs
    rw [← Amount.sumInt_append, ← List.map_append, List.take_append_drop]
  have hall := Amount.sumInt_filter_add (fun a : Account => a.address == reserve) holdings accounts
  have hreserve' := hsplit (accounts.filter fun a => a.address == reserve)
  rw [holders, List.map_append, Amount.sumInt_append, hothers, List.map_map,
    List.map_singleton, Amount.sumInt, Amount.sumInt, total_reserveBalance hreserve,
    totalSupply_eq, surplus]
  rw [show UserBalance.total ∘ userBalance n = holdings from funext (total_userBalance n)]
  omega

-- ---------------------------------------------------------------------------
-- Printed balances
-- ---------------------------------------------------------------------------

/-- No account holds more than all accounts, so what it holds can be printed if the total supply
can. -/
theorem fits_of_mem (hpos : 0 ≤ legacyAmount)
    (hfits : Decimal.fits (totalSupply accounts legacyAmount) = true) {a : Account}
    (ha : a ∈ accounts) :
    Decimal.fits a.token.balance = true ∧ Decimal.fits a.lockedAmount = true := by
  have hle : holdings a ≤ Amount.sumInt (accounts.map holdings) := by
    refine Amount.le_sumInt_of_mem (fun m hm => ?_) (List.mem_map_of_mem ha)
    obtain ⟨b, -, rfl⟩ := List.mem_map.1 hm
    exact holdings_nonneg b
  have htotal := totalSupply_eq accounts legacyAmount
  rw [holdings_eq] at hle
  constructor
  · exact Decimal.fits_of_le (Int.natCast_nonneg _) (by omega) hfits
  · exact Decimal.fits_of_le (Int.natCast_nonneg _) (by omega) hfits

/-- The reserve amount can be written if the supply can. -/
theorem fits_legacyAmount (hpos : 0 ≤ legacyAmount)
    (hfits : Decimal.fits (totalSupply accounts legacyAmount) = true) :
    Decimal.fits legacyAmount = true := by
  have htotal := totalSupply_eq accounts legacyAmount
  have hsum := sumInt_holdings_nonneg accounts
  exact Decimal.fits_of_le hpos (by omega) hfits

/-- Balances can be printed if the total supply can. -/
theorem prints_of_fits (hpos : 0 ≤ legacyAmount)
    (hfits : Decimal.fits (totalSupply accounts legacyAmount) = true) {u : UserBalance}
    (hu : u ∈ holders accounts legacyAmount n) : u.Prints :=
  forall_amounts_of_mem_holders (P := fun m => Decimal.fits m = true) (by decide)
    (fun _ ha => fits_of_mem hpos hfits ha) (fits_legacyAmount hpos hfits) hu

/-- Holders have addresses with texts if accounts and reserve have. -/
theorem exists_text_of_mem_holders (hreserve : n.reserveAddress = Hex.encode reserve)
    (hlength : reserve.length = Address.length)
    (haddress : ∀ a ∈ accounts, a.address.length = Address.length) {u : UserBalance}
    (hu : u ∈ holders accounts legacyAmount n) :
    ∃ address, Address.hexToText n.addressLabel u.address = .ok address := by
  rcases mem_holders.1 hu with ⟨a, ha, -, rfl⟩ | rfl
  · obtain ⟨t, ht⟩ := Address.exists_toText n.addressLabel (haddress a ha)
    exact ⟨t, (Address.hexToText_encode n.addressLabel a.address).trans ht⟩
  · obtain ⟨t, ht⟩ := Address.exists_toText n.addressLabel hlength
    refine ⟨t, ?_⟩
    rw [reserveBalance, hreserve, Address.hexToText_encode, ht]

/-- Balances of accounts with addresses of twenty bytes have entries. -/
theorem exists_entries (hreserve : n.reserveAddress = Hex.encode reserve)
    (hlength : reserve.length = Address.length)
    (haddress : ∀ a ∈ accounts, a.address.length = Address.length) (hpos : 0 ≤ legacyAmount)
    (hfits : Decimal.fits (totalSupply accounts legacyAmount) = true) {us : List UserBalance}
    (hus : us.Perm (holders accounts legacyAmount n)) :
    ∃ users, us.mapM (UserBalance.entry n.addressLabel) = .ok users := by
  refine Outcome.exists_mapM fun u hu => ?_
  have hmem := hus.mem_iff.1 hu
  obtain ⟨address, htext⟩ := exists_text_of_mem_holders hreserve hlength haddress hmem
  exact ⟨_, UserBalance.entry_eq_ok.2
    ⟨address, htext, prints_of_fits hpos hfits hmem, rfl⟩⟩

/-- The outcome for the token module: its data, or a refusal, as the surplus says. -/
theorem data_of_fits {token : Octets} (htoken : Hex.readText n.tokenId = .ok token)
    (hreserve : n.reserveAddress = Hex.encode reserve) (hlength : reserve.length = Address.length)
    (haddress : ∀ a ∈ accounts, a.address.length = Address.length) (hpos : 0 ≤ legacyAmount)
    (hfits : Decimal.fits (totalSupply accounts legacyAmount) = true) :
    (surplus accounts reserve = 0 → ∃ users,
      data accounts legacyAmount n = .ok (dataOf accounts legacyAmount n users) ∧
        sumTexts (users.flatMap UserEntry.amounts) = .ok (totalSupply accounts legacyAmount)) ∧
    (surplus accounts reserve ≠ 0 → ∃ t h d,
      data accounts legacyAmount n = .error (.supply t h d)) := by
  have hbalances : ∃ us, userBalances accounts legacyAmount n = .ok us :=
    exists_userBalances htoken (hreserve ▸ Hex.readText_encode reserve)
  obtain ⟨us, hus⟩ := hbalances
  have hperm := userBalances_perm hus
  obtain ⟨users, husers⟩ := exists_entries hreserve hlength haddress hpos hfits hperm
  have hheld : Amount.sumInt (us.map UserBalance.total) =
      Amount.sumInt ((holders accounts legacyAmount n).map UserBalance.total) :=
    Amount.sumInt_eq_of_perm (hperm.map _)
  -- what is held and what is in surplus make up the supply
  have htotal : totalSupply accounts legacyAmount =
      Amount.sumInt (us.map UserBalance.total) + surplus accounts reserve := by
    rw [hheld, totalSupply_eq_held_add_surplus hreserve]
  have hsurplus : 0 ≤ surplus accounts reserve := sumInt_holdings_nonneg _
  have hheld_nonneg : 0 ≤ Amount.sumInt (us.map UserBalance.total) := by
    rw [hheld, holders, List.map_append, Amount.sumInt_append, List.map_map, List.map_singleton,
      show UserBalance.total ∘ userBalance n = holdings from funext (total_userBalance n),
      Amount.sumInt, Amount.sumInt, total_reserveBalance hreserve]
    have hothers := sumInt_holdings_nonneg
      (accounts.filter fun a => addressText a != n.reserveAddress)
    have hfirst := sumInt_holdings_nonneg
      ((accounts.filter fun a => a.address == reserve).take 1)
    omega
  -- the check compares the supply with what is held, so the surplus decides
  have hdata := data_of_prints hus husers hfits
    (Decimal.fits_of_le hheld_nonneg (by omega) hfits)
  constructor
  · intro hzero
    have heq : totalSupply accounts legacyAmount = Amount.sumInt (us.map UserBalance.total) := by
      omega
    refine ⟨users, ?_, ?_⟩
    · rw [hdata, if_pos heq]
    · rw [sumTexts_amounts_entries husers, heq]
  · intro hnonzero
    have hne : totalSupply accounts legacyAmount ≠ Amount.sumInt (us.map UserBalance.total) := by
      omega
    exact ⟨_, _, _, by rw [hdata, if_neg hne]⟩

/-- Where no two accounts share an address, nothing is in surplus. -/
theorem surplus_of_nodup (h : (accounts.map Account.address).Nodup) (address : Octets) :
    surplus accounts address = 0 := by
  have hone : ((accounts.filter fun a => a.address == address).map Account.address).Nodup :=
    h.sublist (List.filter_sublist.map _)
  have hall : ∀ a ∈ accounts.filter fun a => a.address == address, a.address = address :=
    fun a ha => beq_iff_eq.1 (List.mem_filter.1 ha).2
  rw [surplus]
  rcases hfilter : accounts.filter fun a => a.address == address with _ | ⟨a, _ | ⟨b, rest⟩⟩
  · rw [hfilter]
    rfl
  · rw [hfilter]
    rfl
  · rw [hfilter] at hone hall
    have hab : a.address = b.address := (hall a (by simp)).trans (hall b (by simp)).symm
    simp [hab] at hone

/-- Accounts with distinct addresses of twenty bytes have data. -/
theorem exists_data_of_nodup (accounts : List Account) (legacyAmount : Int) {token : Octets}
    (htoken : Hex.readText n.tokenId = .ok token) (hreserve : n.reserveAddress = Hex.encode reserve)
    (hlength : reserve.length = Address.length)
    (haddress : ∀ a ∈ accounts, a.address.length = Address.length) (hpos : 0 ≤ legacyAmount)
    (hfits : Decimal.fits (totalSupply accounts legacyAmount) = true)
    (hnodup : (accounts.map Account.address).Nodup) :
    ∃ users, data accounts legacyAmount n = .ok (dataOf accounts legacyAmount n users) := by
  obtain ⟨hok, -⟩ := data_of_fits htoken hreserve hlength haddress hpos hfits
  obtain ⟨users, hdata, -⟩ := hok (surplus_of_nodup hnodup reserve)
  exact ⟨users, hdata⟩

-- ---------------------------------------------------------------------------
-- Conservation
-- ---------------------------------------------------------------------------

/-- The balances that the legacy asset prints add up to what the token module reserves. -/
theorem sumTexts_legacy {records : List UnregisteredAccount} {printed : List Legacy.Entry}
    (h : records.mapM Legacy.Entry.ofRecord = .ok printed) :
    sumTexts (printed.map Legacy.Entry.balance) = .ok (Legacy.reserveAmount records : Int) := by
  rw [Legacy.reserveAmount, ← Amount.sumInt_map_natCast]
  refine sumTexts_of_writeText h fun u e hue => ?_
  obtain ⟨balance, hbalance, rfl⟩ := Legacy.ofRecord_eq_ok.1 hue
  exact hbalance

/-- **Supply conservation.** For every list of accounts with addresses of twenty bytes, the token
asset is refused for its supply if and only if the accounts at the reserve's address hold anything
without the first of them. With distinct addresses they do not. Then the declared supply is what all
accounts hold and the legacy balances, and so is the sum of all printed amounts. In an assembly, the
legacy balances are those that the legacy asset prints. -/
theorem supply_conserved {n : Network} {token reserve : Octets}
    (htoken : Hex.readText n.tokenId = .ok token) (hreserve : n.reserveAddress = Hex.encode reserve)
    (hlength : reserve.length = Address.length) :
    (∀ (accounts : List Account) (legacyAmount : Int),
      (∀ a ∈ accounts, a.address.length = Address.length) → 0 ≤ legacyAmount →
      Decimal.fits (totalSupply accounts legacyAmount) = true →
      ((∃ t h d, asset accounts legacyAmount n = .error (.supply t h d)) ↔
        surplus accounts reserve ≠ 0) ∧
      ((accounts.map Account.address).Nodup → surplus accounts reserve = 0) ∧
      (surplus accounts reserve = 0 → ∃ (d : Data) (supply : String),
        asset accounts legacyAmount n = .ok ⟨"token", d.toJson, descriptor.schema⟩ ∧
        d.supplies = [⟨n.tokenId, supply⟩] ∧
        Decimal.readText supply =
          .ok (Amount.sumInt (accounts.map holdings) + legacyAmount) ∧
        sumTexts (d.users.flatMap UserEntry.amounts) =
          .ok (Amount.sumInt (accounts.map holdings) + legacyAmount))) ∧
    ∀ (s : Snapshot) (keys : Stake.KeyTexts),
      (∀ u ∈ s.legacyAccounts, Decimal.fits u.balance = true) →
      ∃ (printed : List Legacy.Entry) (legacyAmount : Int),
        Legacy.asset s.legacyAccounts = .ok ⟨"legacy",
          .obj [("accounts", .arr (printed.map Legacy.Entry.toJson))],
          Legacy.descriptor.schema⟩ ∧
        sumTexts (printed.map Legacy.Entry.balance) = .ok legacyAmount ∧ 0 ≤ legacyAmount ∧
        (∀ e, asset s.accounts legacyAmount n = .error e → assemble s keys n = .error e) ∧
        (∀ assets, assemble s keys n = .ok assets →
          (∃ legacy ∈ assets, Legacy.asset s.legacyAccounts = .ok legacy) ∧
          ∃ token ∈ assets, asset s.accounts legacyAmount n = .ok token) := by
  constructor
  · intro accounts legacyAmount haddress hpos hfits
    -- the surplus decides which of the two outcomes there is
    obtain ⟨hok, herror⟩ := data_of_fits htoken hreserve hlength haddress hpos hfits
    refine ⟨⟨?_, ?_⟩, fun h => surplus_of_nodup h reserve, ?_⟩
    · rintro ⟨t, h, d, hasset⟩ hzero
      obtain ⟨users, hdata, -⟩ := hok hzero
      rw [asset_eq_ok.2 ⟨_, hdata, rfl⟩] at hasset
      cases hasset
    · intro hsurplus
      obtain ⟨t, h, d, hdata⟩ := herror hsurplus
      exact ⟨t, h, d, by rw [asset, hdata]; rfl⟩
    · intro hzero
      obtain ⟨users, hdata, husers⟩ := hok hzero
      rw [← totalSupply_eq]
      exact ⟨dataOf accounts legacyAmount n users, _, asset_eq_ok.2 ⟨_, hdata, rfl⟩, rfl,
        Decimal.readText_ofInt hfits, husers⟩
  · intro s keys hlegacy
    obtain ⟨legacy, hasset⟩ := Legacy.exists_asset hlegacy
    obtain ⟨printed, hprinted, rfl⟩ := Legacy.asset_eq_ok.1 hasset
    -- the amount the legacy module shows is the one the token module is given
    refine ⟨printed, Legacy.reserveAmount s.legacyAccounts, hasset, sumTexts_legacy hprinted,
      Int.natCast_nonneg _, fun e => assemble_of_token_error hasset, fun assets hassets => ?_⟩
    obtain ⟨legacyAsset, tokenAsset, auth, stake, interoperability, hlegacyAsset, htokenAsset, -,
      -, -, rfl⟩ := assemble_eq_ok.1 hassets
    exact ⟨⟨legacyAsset, by simp, hlegacyAsset⟩, tokenAsset, by simp, htokenAsset⟩

/-- The address of twenty equal bytes. -/
def repeated (b : UInt8) : Octets := List.replicate Address.length b

/-- A network whose reserve has a simple address. -/
def simpleNetwork : Network := { Network.mainnet with reserveAddress := Hex.encode (repeated 7) }

/-- An account with a balance and a vote for itself. -/
def voter (address : Octets) (balance vote : Nat) : Account :=
  ⟨address, ⟨balance⟩, ⟨0⟩, ⟨[], [], 0⟩, ⟨.none, [⟨address, vote⟩], []⟩⟩

theorem readText_tokenId_simpleNetwork :
    Hex.readText simpleNetwork.tokenId = .ok (List.replicate 8 0) := by decide +kernel

/-- Two voters, of which one is the reserve, and the reserve twice. -/
theorem supply_conserved_two_voters :
    (∃ (d : Data) (supply : String),
      asset [voter (repeated 1) 10 3, voter (repeated 7) 4 0] 5 simpleNetwork =
        .ok ⟨"token", d.toJson, descriptor.schema⟩ ∧
      d.supplies = [⟨simpleNetwork.tokenId, supply⟩] ∧ Decimal.readText supply = .ok 22 ∧
      sumTexts (d.users.flatMap UserEntry.amounts) = .ok 22) ∧
    ∃ t h d, asset [voter (repeated 7) 10 3, voter (repeated 7) 4 0] 5 simpleNetwork =
      .error (.supply t h d) := by
  obtain ⟨h, -⟩ := supply_conserved readText_tokenId_simpleNetwork
    (show simpleNetwork.reserveAddress = Hex.encode (repeated 7) from rfl) List.length_replicate
  have hdistinct := h [voter (repeated 1) 10 3, voter (repeated 7) 4 0] 5
    (by decide) (by decide) (by decide)
  have hrepeated := h [voter (repeated 7) 10 3, voter (repeated 7) 4 0] 5
    (by decide) (by decide) (by decide)
  have hsum : Amount.sumInt
      ([voter (repeated 1) 10 3, voter (repeated 7) 4 0].map holdings) + 5 = 22 := by decide
  rw [hsum] at hdistinct
  exact ⟨hdistinct.2.2 (hdistinct.2.1 (by decide)), hrepeated.1.2 (by decide)⟩

end Regenesis.Genesis.Token

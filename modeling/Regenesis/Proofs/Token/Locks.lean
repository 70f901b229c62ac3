import Mathlib
import Regenesis.Proofs.Token.Supply

/-!
# Proofs.Token.Locks — what is locked at an address

An account with votes has one lock, of the module `pos`, and the reserve has one more, of the module
`legacy`, whether it has votes, an account, or neither. `users_of_data` reads this off the printed
entries: one entry for every account and for the reserve, with its locks in order.
-/

namespace Regenesis.Genesis.Token

open Record

variable {accounts : List Account} {legacyAmount : Int} {n : Network} {reserve : Octets}

-- ---------------------------------------------------------------------------
-- Locks at an address
-- ---------------------------------------------------------------------------

/-- What the account at an address has locked in votes, if there is one. -/
def votesAt (accounts : List Account) (address : Octets) : Int :=
  ((accounts.find? fun a => a.address == address).map fun a => (a.lockedAmount : Int)).getD 0

/-- The locks of the entry at an address, in their order. -/
def locksAt (accounts : List Account) (legacyAmount : Int) (reserve address : Octets) : List Lock :=
  (if address = reserve then [("legacy", legacyAmount)] else []) ++
    if 0 < votesAt accounts address then [("pos", votesAt accounts address)] else []

/-- An account is found by its address, if no two share one. -/
theorem find?_address_of_mem (hnodup : (accounts.map Account.address).Nodup) {a : Account}
    (ha : a ∈ accounts) : (accounts.find? fun b => b.address == a.address) = some a := by
  cases h : accounts.find? fun b => b.address == a.address with
  | none => exact absurd (List.find?_eq_none.1 h a ha) (by simp)
  | some b =>
    have hb : b.address = a.address := by simpa using List.find?_some h
    rw [List.inj_on_of_nodup_map hnodup (List.mem_of_find?_eq_some h) ha hb]

/-- An address without an account is not found. -/
theorem find?_address_of_forall_ne {address : Octets} (h : ∀ a ∈ accounts, a.address ≠ address) :
    (accounts.find? fun b => b.address == address) = none :=
  List.find?_eq_none.2 fun a ha => by rw [beq_iff_eq]; exact h a ha

/-- Where no two accounts share an address, the votes at an address are those of its account. -/
theorem votesAt_of_mem (hnodup : (accounts.map Account.address).Nodup) {a : Account}
    (ha : a ∈ accounts) : votesAt accounts a.address = a.lockedAmount := by
  rw [votesAt, find?_address_of_mem hnodup ha]
  rfl

/-- At an address without an account there are no votes. -/
theorem votesAt_of_forall_ne {address : Octets} (h : ∀ a ∈ accounts, a.address ≠ address) :
    votesAt accounts address = 0 := by
  rw [votesAt, find?_address_of_forall_ne h]
  rfl

/-- The lock of the legacy module comes before that of the votes, whatever the amounts. -/
theorem lockLe_legacy_pos (x y : Int) : lockLe ("legacy", x) ("pos", y) = true := by
  have h : decide ("legacy" < "pos") = true := by decide
  rw [lockLe, h, Bool.true_or]

/-- The lock of votes and the lock of legacy balances, put in order. -/
theorem sortLocks_pair (x y : Int) :
    sortLocks [("pos", y), ("legacy", x)] = [("legacy", x), ("pos", y)] := by
  have h : lockLe ("pos", y) ("legacy", x) = false := by
    have hlt : decide ("pos" < "legacy") = false := by decide
    have hne : ("pos" == "legacy") = false := by decide
    rw [lockLe, hlt, hne, Bool.false_and, Bool.or_false]
  simp [sortLocks, List.mergeSort, h]

theorem sortLocks_singleton (l : Lock) : sortLocks [l] = [l] := List.mergeSort_singleton l

theorem sortLocks_sorted (x y : Int) :
    sortLocks [("legacy", x), ("pos", y)] = [("legacy", x), ("pos", y)] := by
  refine List.mergeSort_of_pairwise ?_
  rw [List.pairwise_pair]
  exact lockLe_legacy_pos x y

-- ---------------------------------------------------------------------------
-- Holders
-- ---------------------------------------------------------------------------

/-- The addresses of the holders: those of the accounts, and the reserve's. -/
def holderAddresses (accounts : List Account) (reserve : Octets) : List Octets :=
  (accounts.map Account.address).filter (· != reserve) ++ [reserve]

/-- Balances are held by the accounts and by the reserve. -/
theorem mem_holderAddresses {b : Octets} :
    b ∈ holderAddresses accounts reserve ↔ (∃ a ∈ accounts, a.address = b) ∨ b = reserve := by
  simp only [holderAddresses, List.mem_append, List.mem_filter, List.mem_map, bne_iff_ne,
    List.mem_singleton]
  constructor
  · rintro (⟨h, -⟩ | h)
    · exact Or.inl h
    · exact Or.inr h
  · rintro (h | h)
    · by_cases hb : b = reserve
      · exact Or.inr hb
      · exact Or.inl ⟨h, hb⟩
    · exact Or.inr h

/-- The reserve has one balance, with or without an account of its own. -/
theorem nodup_holderAddresses (hnodup : (accounts.map Account.address).Nodup) :
    (holderAddresses accounts reserve).Nodup := by
  rw [holderAddresses, List.nodup_append]
  refine ⟨hnodup.filter _, List.nodup_singleton reserve, ?_⟩
  intro a ha b hb hab
  rw [List.mem_singleton.1 hb] at hab
  exact absurd hab (by simpa using (List.mem_filter.1 ha).2)

/-- The bytes of a user's address. -/
def UserBalance.bytes (u : UserBalance) : Octets := ((Hex.readText u.address).toOption).getD []

theorem bytes_of_address {u : UserBalance} {b : Octets} (h : u.address = Hex.encode b) :
    u.bytes = b := by
  rw [UserBalance.bytes, h, Hex.readText_encode]
  rfl

/-- The holders have the addresses of holders, in this order. -/
theorem map_bytes_holders (hreserve : n.reserveAddress = Hex.encode reserve) :
    (holders accounts legacyAmount n).map UserBalance.bytes =
      holderAddresses accounts reserve := by
  have hother : ∀ a : Account, (userBalance n a).bytes = a.address :=
    fun a => bytes_of_address rfl
  have hlast : (reserveBalance accounts legacyAmount n).bytes = reserve :=
    bytes_of_address hreserve
  rw [holders, holderAddresses, List.map_append, List.map_singleton, hlast, List.map_map,
    List.filter_map, show UserBalance.bytes ∘ userBalance n = Account.address from funext hother]
  congr 2
  refine List.filter_congr fun a _ => ?_
  rw [bne, addressText_eq_iff hreserve]
  rfl

/-- What is locked for votes is one lock, and none if it is nothing. -/
theorem voteLocks_eq {a : Account} (h : votesAt accounts a.address = a.lockedAmount) :
    voteLocks a =
      if 0 < votesAt accounts a.address then [("pos", votesAt accounts a.address)] else [] := by
  rw [voteLocks, h]
  by_cases hpos : 0 < a.lockedAmount
  · rw [if_pos hpos, if_pos (Int.natCast_pos.2 hpos)]
  · rw [if_neg hpos, if_neg (by omega)]

/-- The votes of the account at an address, if there is one. -/
theorem voteLocks_find? (hnodup : (accounts.map Account.address).Nodup) (b : Octets) :
    ((accounts.find? fun a => a.address == b).map voteLocks).getD [] =
      if 0 < votesAt accounts b then [("pos", votesAt accounts b)] else [] := by
  cases h : accounts.find? fun a => a.address == b with
  | none =>
    rw [votesAt, h]
    rfl
  | some a =>
    have ha : a.address = b := by simpa using List.find?_some h
    have hat := votesAt_of_mem hnodup (List.mem_of_find?_eq_some h)
    rw [← ha]
    exact voteLocks_eq hat

/-- Every holder has the locks of its address. -/
theorem sortLocks_of_mem_holders (hreserve : n.reserveAddress = Hex.encode reserve)
    (hnodup : (accounts.map Account.address).Nodup) {u : UserBalance}
    (hu : u ∈ holders accounts legacyAmount n) :
    u.address = Hex.encode u.bytes ∧
      sortLocks u.locked = locksAt accounts legacyAmount reserve u.bytes := by
  rcases mem_holders.1 hu with ⟨a, ha, hne, rfl⟩ | rfl
  · have hbytes : (userBalance n a).bytes = a.address := bytes_of_address rfl
    -- an account that is listed on its own is not the reserve: no legacy lock
    have hnot : a.address ≠ reserve := by
      intro h
      exact hne (by rw [addressText, h, hreserve])
    rw [hbytes, locksAt, if_neg hnot, List.nil_append, ← voteLocks_eq (votesAt_of_mem hnodup ha)]
    refine ⟨rfl, ?_⟩
    show sortLocks (voteLocks a) = voteLocks a
    rw [voteLocks]
    split
    · exact sortLocks_singleton _
    · exact List.mergeSort_nil
  · have hbytes : (reserveBalance accounts legacyAmount n).bytes = reserve :=
      bytes_of_address hreserve
    rw [hbytes, locksAt, if_pos rfl]
    refine ⟨hreserve, ?_⟩
    show sortLocks (sortLocks (((accounts.find? fun a => addressText a == n.reserveAddress).map
      voteLocks).getD [] ++ [("legacy", legacyAmount)])) = _
    -- the legacy lock comes before the lock of the votes, if there is one
    rw [find?_reserve hreserve, voteLocks_find? hnodup]
    split
    · rw [List.singleton_append, sortLocks_pair, sortLocks_sorted]
      rfl
    · rw [List.nil_append, sortLocks_singleton, sortLocks_singleton]
      rfl

-- ---------------------------------------------------------------------------
-- Entries
-- ---------------------------------------------------------------------------

/-- A lock as it is printed. -/
def printLock (l : Lock) : LockedBalance := ⟨l.1, Decimal.ofInt l.2⟩

/-- Whether an entry is that of an address: under its text, with its locks. -/
def IsEntryAt (accounts : List Account) (legacyAmount : Int) (reserve : Octets) (label : String)
    (b : Octets) (e : UserEntry) : Prop :=
  Address.toText label b = .ok e.address ∧
    e.lockedBalances = (locksAt accounts legacyAmount reserve b).map printLock ∧
    ∀ l ∈ locksAt accounts legacyAmount reserve b, Decimal.fits l.2 = true

/-- The amounts that an entry has locked by a module. -/
def UserEntry.locksOf (moduleName : String) (e : UserEntry) : List String :=
  (e.lockedBalances.filter fun l => l.moduleName == moduleName).map LockedBalance.amount

section
variable {label : String} {b : Octets} {e : UserEntry}

/-- Votes do not lock a negative amount. -/
theorem votesAt_nonneg (accounts : List Account) (b : Octets) : 0 ≤ votesAt accounts b := by
  rw [votesAt]
  cases accounts.find? fun a => a.address == b with
  | none => exact le_rfl
  | some a => exact Int.natCast_nonneg _

/-- The entry at an address has one lock of the votes there, if they are more than nothing. -/
theorem locksOf_pos (h : IsEntryAt accounts legacyAmount reserve label b e) :
    e.locksOf "pos" =
      if 0 < votesAt accounts b then [Decimal.ofInt (votesAt accounts b)] else [] := by
  rw [UserEntry.locksOf, h.2.1, locksAt]
  by_cases hb : b = reserve <;> by_cases hv : 0 < votesAt accounts b
  · rw [if_pos hb, if_pos hv, if_pos hv]
    rfl
  · rw [if_pos hb, if_neg hv, if_neg hv]
    rfl
  · rw [if_neg hb, if_pos hv, if_pos hv]
    rfl
  · rw [if_neg hb, if_neg hv, if_neg hv]
    rfl

/-- Only the entry of the reserve has a lock of the legacy module. -/
theorem locksOf_legacy (h : IsEntryAt accounts legacyAmount reserve label b e) :
    e.locksOf "legacy" = if b = reserve then [Decimal.ofInt legacyAmount] else [] := by
  rw [UserEntry.locksOf, h.2.1, locksAt]
  by_cases hb : b = reserve <;> by_cases hv : 0 < votesAt accounts b
  · rw [if_pos hb, if_pos hv, if_pos hb]
    rfl
  · rw [if_pos hb, if_neg hv, if_pos hb]
    rfl
  · rw [if_neg hb, if_pos hv, if_neg hb]
    rfl
  · rw [if_neg hb, if_neg hv, if_neg hb]
    rfl

/-- The locks of an entry are in ascending order of their modules. -/
theorem pairwise_moduleName (h : IsEntryAt accounts legacyAmount reserve label b e) :
    (e.lockedBalances.map LockedBalance.moduleName).Pairwise (· < ·) := by
  rw [h.2.1, locksAt, List.map_map]
  by_cases hb : b = reserve <;> by_cases hv : 0 < votesAt accounts b
  · rw [if_pos hb, if_pos hv]
    exact List.pairwise_pair.2 (show "legacy" < "pos" by decide)
  · rw [if_pos hb, if_neg hv]
    exact List.pairwise_singleton _ _
  · rw [if_neg hb, if_pos hv]
    exact List.pairwise_singleton _ _
  · rw [if_neg hb, if_neg hv]
    exact List.Pairwise.nil

/-- Votes that stand in an entry can be written. -/
theorem fits_votesAt (h : IsEntryAt accounts legacyAmount reserve label b e)
    (hv : 0 < votesAt accounts b) : Decimal.fits (votesAt accounts b) = true := by
  refine h.2.2 ("pos", votesAt accounts b) ?_
  rw [locksAt, if_pos hv]
  exact List.mem_append_right _ List.mem_cons_self

/-- What an entry prints as locked in votes is what the account has locked. -/
theorem sumTexts_locksOf_pos (h : IsEntryAt accounts legacyAmount reserve label b e) :
    sumTexts (e.locksOf "pos") = .ok (votesAt accounts b) := by
  rw [locksOf_pos h]
  by_cases hv : 0 < votesAt accounts b
  · rw [if_pos hv]
    exact sumTexts_singleton.2 (Decimal.readText_ofInt (fits_votesAt h hv))
  · rw [if_neg hv, le_antisymm (not_lt.1 hv) (votesAt_nonneg accounts b)]
    rfl

end

/-- The entry of a holder is that of its address. -/
theorem isEntryAt_of_entry (hreserve : n.reserveAddress = Hex.encode reserve)
    (hnodup : (accounts.map Account.address).Nodup) {u : UserBalance} {e : UserEntry}
    (hu : u ∈ holders accounts legacyAmount n) (he : u.entry n.addressLabel = .ok e) :
    IsEntryAt accounts legacyAmount reserve n.addressLabel u.bytes e := by
  obtain ⟨address, haddress, hprints, rfl⟩ := UserBalance.entry_eq_ok.1 he
  obtain ⟨hbytes, hlocks⟩ := sortLocks_of_mem_holders hreserve hnodup hu
  rw [hbytes, Address.hexToText_encode] at haddress
  refine ⟨haddress, ?_, ?_⟩
  · rw [← hlocks]
    rfl
  · rw [← hlocks]
    exact fun l hl => hprints.2 l (mem_sortLocks.1 hl)

/-- **Entries of the token module.** There is one entry for every account and one for the reserve,
each with the locks of its address. -/
theorem users_of_data (hreserve : n.reserveAddress = Hex.encode reserve)
    (hnodup : (accounts.map Account.address).Nodup) {d : Data}
    (h : data accounts legacyAmount n = .ok d) :
    ∃ bs : List Octets, bs.Perm (holderAddresses accounts reserve) ∧
      List.Forall₂ (IsEntryAt accounts legacyAmount reserve n.addressLabel) bs d.users := by
  obtain ⟨us, users, hus, husers, -, -, rfl⟩ := data_eq_ok.1 h
  have hperm := userBalances_perm hus
  refine ⟨us.map UserBalance.bytes, ?_, ?_⟩
  · have hmap := hperm.map UserBalance.bytes
    rwa [map_bytes_holders hreserve] at hmap
  · rw [List.forall₂_map_left_iff]
    refine Outcome.forall₂_of_mapM husers fun u hu e he => ?_
    exact isEntryAt_of_entry hreserve hnodup (hperm.mem_iff.1 hu) he

end Regenesis.Genesis.Token

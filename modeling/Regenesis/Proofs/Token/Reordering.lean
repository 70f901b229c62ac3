import Mathlib
import Regenesis.Proofs.Record.Reordering
import Regenesis.Proofs.Token.Supply

/-!
# Proofs.Token.Reordering — the token asset does not depend on the order

Balances are put in the order of their places. Two accounts never share a place, but the reserve may
share one with an account, if its address is not written as accounts write theirs. It comes last
before sorting, so that it comes last of the two afterwards, whatever the order of the accounts.
-/

namespace Regenesis.Genesis.Token

open Record

-- ---------------------------------------------------------------------------
-- Places
-- ---------------------------------------------------------------------------

/-- Places are in the order of their addresses, and then of their tokens. -/
theorem placeLe_iff {a b : Octets × Octets} :
    placeLe a b = true ↔ a.1 < b.1 ∨ a.1 = b.1 ∧ a.2 ≤ b.2 := by
  rw [placeLe, Bool.or_eq_true, Bool.and_eq_true, decide_eq_true_eq, beq_iff_eq, Octets.le_iff]

theorem placeLe_trans (a b c : Octets × Octets) (hab : placeLe a b = true)
    (hbc : placeLe b c = true) : placeLe a c = true := by
  rw [placeLe_iff] at hab hbc ⊢
  rcases hab with hab | ⟨hab, hab'⟩
  · rcases hbc with hbc | ⟨hbc, -⟩
    · exact Or.inl (List.lt_trans hab hbc)
    · exact Or.inl (hbc ▸ hab)
  · rcases hbc with hbc | ⟨hbc, hbc'⟩
    · exact Or.inl (hab ▸ hbc)
    · exact Or.inr ⟨hab.trans hbc, List.le_trans hab' hbc'⟩

theorem placeLe_total (a b : Octets × Octets) : (placeLe a b || placeLe b a) = true := by
  rw [Bool.or_eq_true, placeLe_iff, placeLe_iff]
  by_cases hab : a.1 < b.1
  · exact Or.inl (Or.inl hab)
  · by_cases hba : b.1 < a.1
    · exact Or.inr (Or.inl hba)
    · have heq : a.1 = b.1 := List.le_antisymm (List.not_lt.1 hba) (List.not_lt.1 hab)
      rcases List.le_total a.2 b.2 with h | h
      · exact Or.inl (Or.inr ⟨heq, h⟩)
      · exact Or.inr (Or.inr ⟨heq.symm, h⟩)

/-- Two places that are not before each other are the same. -/
theorem placeLe_antisymm {a b : Octets × Octets} (hab : placeLe a b = true)
    (hba : placeLe b a = true) : a.1 = b.1 := by
  rw [placeLe_iff] at hab hba
  rcases hab with hab | ⟨hab, -⟩
  · rcases hba with hba | ⟨hba, -⟩
    · exact absurd hba (List.lt_asymm hab)
    · exact hba.symm
  · exact hab

-- ---------------------------------------------------------------------------
-- Holders
-- ---------------------------------------------------------------------------

variable {xs ys : List Account} {legacyAmount : Int} {n : Network}

/-- The order of votes and unlocks does not change what is locked. -/
theorem voteLocks_ordered (a : Account) : voteLocks (ordered a) = voteLocks a := by
  rw [voteLocks, voteLocks, lockedAmount_ordered]

/-- The order of votes and unlocks does not change a balance. -/
theorem userBalance_ordered (n : Network) (a : Account) :
    userBalance n (ordered a) = userBalance n a := by
  rw [userBalance, userBalance, voteLocks_ordered]
  rfl

/-- The holders are those of the ordered accounts. -/
theorem holders_map_ordered (xs : List Account) (legacyAmount : Int) (n : Network) :
    holders (xs.map ordered) legacyAmount n = holders xs legacyAmount n := by
  have hothers : ((xs.map ordered).filter fun a => addressText a != n.reserveAddress).map
      (userBalance n) =
      (xs.filter fun a => addressText a != n.reserveAddress).map (userBalance n) := by
    rw [List.filter_map, List.map_map,
      show userBalance n ∘ ordered = userBalance n from funext (userBalance_ordered n)]
    rfl
  have hreserve : reserveBalance (xs.map ordered) legacyAmount n =
      reserveBalance xs legacyAmount n := by
    have hvotes : voteLocks ∘ ordered = voteLocks := funext voteLocks_ordered
    rw [reserveBalance, reserveBalance, List.find?_map, Option.map_map, Option.map_map, hvotes]
    rfl
  rw [holders, holders, hothers, hreserve]

/-- The order of votes and unlocks does not change the total supply. -/
theorem totalSupply_map_ordered (xs : List Account) (legacyAmount : Int) :
    totalSupply (xs.map ordered) legacyAmount = totalSupply xs legacyAmount := by
  have hform : (fun a : Account => (a.token.balance + a.lockedAmount : Int)) ∘ ordered =
      fun a => (a.token.balance + a.lockedAmount : Int) := by
    funext a
    show ((ordered a).token.balance + (ordered a).lockedAmount : Int) = _
    rw [lockedAmount_ordered]
    rfl
  rw [totalSupply, totalSupply, List.map_map, hform]

/-- The order of the accounts does not change the total supply. -/
theorem totalSupply_eq_of_perm (h : xs.Perm ys) :
    totalSupply xs legacyAmount = totalSupply ys legacyAmount := by
  rw [totalSupply, totalSupply, Amount.sumInt_eq_of_perm (h.map _)]

theorem nodup_map_addressText (hnodup : (xs.map Account.address).Nodup) :
    (xs.map addressText).Nodup := by
  have hmap := hnodup.map (f := Hex.encode) fun _ _ => Hex.encode_injective
  rwa [List.map_map] at hmap

/-- The reserve's account is found in any order. -/
theorem reserveBalance_eq_of_perm (h : xs.Perm ys) (hnodup : (xs.map Account.address).Nodup) :
    reserveBalance xs legacyAmount n = reserveBalance ys legacyAmount n := by
  have hfind := Pairing.find?_key_eq_of_perm h (nodup_map_addressText hnodup) n.reserveAddress
  rw [reserveBalance, reserveBalance, hfind]

-- ---------------------------------------------------------------------------
-- Sorted balances
-- ---------------------------------------------------------------------------

/-- Balances in the order of their places. -/
def sortUsers (users : List UserBalance) : Except Failure (List UserBalance) := do
  let places ← users.mapM UserBalance.place
  return ((places.zip users).mergeSort fun a b => placeLe a.1 b.1).map (·.2)

theorem userBalances_eq_sortUsers (accounts : List Account) (legacyAmount : Int) (n : Network) :
    userBalances accounts legacyAmount n = sortUsers (holders accounts legacyAmount n) := rfl

/-- The place of a balance is its address and the token. -/
theorem place_userBalance {token : Octets} (h : Hex.readText n.tokenId = .ok token) (a : Account) :
    (userBalance n a).place = .ok (a.address, token) := by
  have haddress : Hex.readText (userBalance n a).address = .ok a.address :=
    Hex.readText_encode a.address
  rw [UserBalance.place, haddress, Outcome.ok_bind,
    show (userBalance n a).tokenId = n.tokenId from rfl, h]
  rfl

/-- Without a token that can be read, no balance has a place. -/
theorem place_userBalance_error {e : Failure} (h : Hex.readText n.tokenId = .error e)
    (a : Account) : (userBalance n a).place = .error e := by
  have haddress : Hex.readText (userBalance n a).address = .ok a.address :=
    Hex.readText_encode a.address
  rw [UserBalance.place, haddress, Outcome.ok_bind,
    show (userBalance n a).tokenId = n.tokenId from rfl, h]
  rfl

section
variable {token : Octets} {r : UserBalance}

/-- All balances of accounts have places. -/
theorem mapM_place_userBalance (htoken : Hex.readText n.tokenId = .ok token) (zs : List Account) :
    (zs.map (userBalance n)).mapM UserBalance.place =
      .ok (zs.map fun a => (a.address, token)) := by
  rw [List.mapM_map]
  exact Outcome.mapM_eq_map fun a _ => place_userBalance htoken a

/-- An account's balance with its place. -/
def placed (n : Network) (token : Octets) (a : Account) : (Octets × Octets) × UserBalance :=
  ((a.address, token), userBalance n a)

/-- Accounts and the reserve behind them, if all have places. -/
theorem sortUsers_concat (htoken : Hex.readText n.tokenId = .ok token) {place : Octets × Octets}
    (hplace : r.place = .ok place) (zs : List Account) :
    sortUsers (zs.map (userBalance n) ++ [r]) =
      .ok (((zs.map (placed n token) ++ [(place, r)]).mergeSort fun a b => placeLe a.1 b.1).map
        (·.2)) := by
  have hzip : (zs.map (fun a => (a.address, token)) ++ [place]).zip
      (zs.map (userBalance n) ++ [r]) = zs.map (placed n token) ++ [(place, r)] := by
    rw [List.zip_append (by rw [List.length_map, List.length_map]), List.zip_map']
    rfl
  rw [sortUsers, List.mapM_append, mapM_place_userBalance htoken, Outcome.ok_bind, List.mapM_cons,
    hplace, ← hzip]
  rfl

/-- The balance of the reserve keeps all from being sorted if it has no place. -/
theorem sortUsers_concat_error (htoken : Hex.readText n.tokenId = .ok token) {e : Failure}
    (hplace : r.place = .error e) (zs : List Account) :
    sortUsers (zs.map (userBalance n) ++ [r]) = .error e := by
  rw [sortUsers, List.mapM_append, mapM_place_userBalance htoken, Outcome.ok_bind, List.mapM_cons,
    hplace]
  rfl

/-- If the token has no hex text, the first account fails, whichever it is. -/
theorem sortUsers_cons_error {e : Failure} (htoken : Hex.readText n.tokenId = .error e)
    (a : Account) (rest : List Account) :
    sortUsers ((a :: rest).map (userBalance n) ++ [r]) = .error e := by
  rw [sortUsers, List.map_cons, List.cons_append, List.mapM_cons, place_userBalance_error htoken]
  rfl

/-- Accounts with the reserve behind them are sorted alike in any order. -/
theorem sortUsers_eq_of_perm (h : xs.Perm ys) (hnodup : (xs.map Account.address).Nodup)
    (hr : ∀ a ∈ xs, userBalance n a ≠ r) :
    sortUsers (xs.map (userBalance n) ++ [r]) = sortUsers (ys.map (userBalance n) ++ [r]) := by
  cases htoken : Hex.readText n.tokenId with
  | error e =>
    -- without a place for any account, the first one fails, whichever it is
    cases xs with
    | nil => rw [h.nil_eq]
    | cons a rest =>
      cases ys with
      | nil => exact absurd h.length_eq (by simp)
      | cons b rest' => rw [sortUsers_cons_error htoken, sortUsers_cons_error htoken]
  | ok token =>
    cases hplace : r.place with
    | error e => rw [sortUsers_concat_error htoken hplace, sortUsers_concat_error htoken hplace]
    | ok place =>
      -- accounts with distinct addresses have distinct places, so only the reserve can tie
      have hinj : ∀ a ∈ xs, ∀ b ∈ xs, a.address = b.address → a = b :=
        Order.eq_of_key_eq Account.address hnodup
      rw [sortUsers_concat htoken hplace, sortUsers_concat htoken hplace,
        Order.mergeSort_concat_eq_of_perm (fun a b c => placeLe_trans a.1 b.1 c.1)
          (fun a b => placeLe_total a.1 b.1) (h.map (placed n token))]
      · -- the reserve is not one of the accounts, even if it shares the place of one
        rw [List.nodup_append]
        refine ⟨?_, List.nodup_singleton _, ?_⟩
        · refine List.Nodup.map_on ?_ (List.Nodup.of_map _ hnodup)
          intro a ha b hb hab
          exact hinj a ha b hb (congrArg (·.1.1) hab)
        · intro p hp q hq hpq
          obtain ⟨a, ha, rfl⟩ := List.mem_map.1 hp
          rw [List.mem_singleton.1 hq] at hpq
          exact hr a ha (congrArg (·.2) hpq)
      · intro p hp q hq hpq hqp
        obtain ⟨a, ha, rfl⟩ := List.mem_map.1 hp
        obtain ⟨b, hb, rfl⟩ := List.mem_map.1 hq
        rw [hinj a ha b hb (placeLe_antisymm hpq hqp)]

end

-- ---------------------------------------------------------------------------
-- The asset
-- ---------------------------------------------------------------------------

/-- Balances are sorted, so the order of distinct accounts does not change them. -/
theorem userBalances_eq_of_perm (h : xs.Perm ys) (hnodup : (xs.map Account.address).Nodup) :
    userBalances xs legacyAmount n = userBalances ys legacyAmount n := by
  rw [userBalances_eq_sortUsers, userBalances_eq_sortUsers, holders, holders,
    reserveBalance_eq_of_perm h hnodup]
  refine sortUsers_eq_of_perm (h.filter _) (hnodup.sublist (List.filter_sublist.map _)) ?_
  intro a ha heq
  have hne := (List.mem_filter.1 ha).2
  rw [bne_iff_ne] at hne
  exact hne (congrArg UserBalance.address heq)

/-- The token asset depends on the forms of the accounts only. -/
theorem asset_eq_of_same (legacyAmount : Int) (n : Network) (h : SameAccounts xs ys) :
    asset xs legacyAmount n = asset ys legacyAmount n := by
  have hperm := perm_map_ordered h
  have hbalances : userBalances xs legacyAmount n = userBalances ys legacyAmount n := by
    rw [userBalances_eq_sortUsers xs, userBalances_eq_sortUsers ys,
      ← holders_map_ordered xs, ← holders_map_ordered ys]
    exact userBalances_eq_of_perm hperm (distinct_map_ordered h)
  have hsupply : totalSupply xs legacyAmount = totalSupply ys legacyAmount := by
    rw [← totalSupply_map_ordered xs, ← totalSupply_map_ordered ys]
    exact totalSupply_eq_of_perm hperm
  rw [asset, asset, data, data, hbalances, hsupply]

end Regenesis.Genesis.Token

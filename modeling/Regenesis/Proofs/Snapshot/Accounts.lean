import Mathlib
import Regenesis.Snapshot.Accounts
import Regenesis.Proofs.Store.Cursor
import Regenesis.Proofs.Store.Layout

/-!
# Proofs.Snapshot.Accounts — the accounts that a scan gives

A scan of accounts passes over the rows of accounts with addresses of another length and stops at
the first damaged row. So reading all accounts is a pass over the rows of the range, whose results
are the accounts that are not passed over (`readAccounts_eq`). They are in strictly ascending order
of their addresses, and are those that lie under their own addresses (`mem_of_readAccounts`).
-/

namespace Regenesis.Snapshot

open Record

variable {db : Database}

/-- What a row means to a scan: nothing, an account, or a failure. -/
def outcomeOfRow (r : Row) : Option (Except Failure Account) :=
  match accountOfRow r with
  | .error e => some (.error e)
  | .ok none => none
  | .ok (some a) => some (.ok a)

/-- With fuel for the rows that remain, a step of the scan goes to the next row that means
something. -/
theorem nextAccountWithin_eq (hread : db.access.allowsReading = true)
    (hpage : IsPageSize db.pageSize) {fuel : Nat} {c : Cursor}
    (hfuel : (c.remaining db).length < fuel) :
    ((c.remaining db).filterMap outcomeOfRow = [] ∧ nextAccountWithin db fuel c = .ok none) ∨
      ∃ x c', (c.remaining db).filterMap outcomeOfRow =
          x :: (c'.remaining db).filterMap outcomeOfRow ∧
        nextAccountWithin db fuel c = x.map fun a => some (a, c') := by
  -- on the fuel: every row that is passed over leaves one row less, so the fuel never ends the scan
  induction fuel generalizing c with
  | zero => exact absurd hfuel (Nat.not_lt_zero _)
  | succ fuel ih =>
    rcases Cursor.next_eq hread hpage c with ⟨hrows, hnext⟩ | ⟨r, c', hrows, hnext⟩
    · rw [hrows, nextAccountWithin, hnext]
      exact Or.inl ⟨rfl, rfl⟩
    · rw [hrows, List.length_cons] at hfuel
      rw [hrows, nextAccountWithin, hnext]
      cases hrow : accountOfRow r with
      | error e =>
        refine Or.inr ⟨.error e, c', ?_, by simp only [hrow]; rfl⟩
        rw [List.filterMap_cons, outcomeOfRow, hrow]
      | ok found =>
        cases found with
        | none =>
          rw [List.filterMap_cons, outcomeOfRow, hrow]
          simp only [hrow]
          exact ih (Nat.lt_of_succ_lt_succ hfuel)
        | some a =>
          refine Or.inr ⟨.ok a, c', ?_, by simp only [hrow]; rfl⟩
          rw [List.filterMap_cons, outcomeOfRow, hrow]

/-- What outcomes amount to is what the rows amount to, less what is passed over. -/
theorem collect_outcomeOfRow (rows : List Row) :
    collect id (rows.filterMap outcomeOfRow) =
      ((collect accountOfRow rows).1.reduceOption, (collect accountOfRow rows).2) := by
  induction rows with
  | nil => rfl
  | cons r rest ih =>
    rw [List.filterMap_cons, outcomeOfRow, collect]
    cases accountOfRow r with
    | error e => rfl
    | ok found =>
      cases found with
      | none => exact ih
      | some a =>
        simp only [collect, id, ih]
        rfl

/-- The rows in the range of accounts. -/
def accountRows (s : Store) : List Row :=
  s.range Layout.accountRange.1.le Layout.accountRange.2

/-- A scan of all accounts goes over the rows of their range in order, whatever the page size. -/
theorem scanAccounts_eq (hread : db.access.allowsReading = true) (hpage : IsPageSize db.pageSize) :
    scanAccounts db = ((collect accountOfRow (accountRows db.store)).1.reduceOption,
      (collect accountOfRow (accountRows db.store)).2) := by
  have hlength : ∀ c : Cursor, (c.remaining db).length < c.bound db + 1 :=
    fun c => Nat.lt_succ_of_le (c.length_remaining_le db)
  -- one step of the scan takes the rows up to the next outcome, as the list does
  have hstep : ∀ c : Cursor, True →
      ((c.remaining db).filterMap outcomeOfRow = [] ∧ nextAccount db c = .ok none) ∨
        ∃ x c', True ∧ (c.remaining db).filterMap outcomeOfRow =
            x :: (c'.remaining db).filterMap outcomeOfRow ∧
          nextAccount db c = (id x).map fun a => some (a, c') := by
    intro c _
    rcases nextAccountWithin_eq hread hpage (hlength c) with h | ⟨x, c', hrows, hnext⟩
    · exact Or.inl h
    · exact Or.inr ⟨x, c', trivial, hrows, hnext⟩
  -- a row takes at most one step, so the bound is never reached
  have hfuel : ((accountCursor.remaining db).filterMap outcomeOfRow).length <
      accountCursor.bound db + 1 :=
    Nat.lt_of_le_of_lt (List.length_filterMap_le _ _) (hlength accountCursor)
  have hrows : accountCursor.remaining db = accountRows db.store :=
    Cursor.remaining_ofRange db _ _
  rw [scanAccounts,
    runScan_eq_collect (fun c => (c.remaining db).filterMap outcomeOfRow) _ hstep trivial hfuel,
    collect_outcomeOfRow, hrows]

/-- A scan of accounts that is refused its first page gives none. -/
theorem scanAccounts_of_refused {e : Failure} (h : accountCursor.checkFetch db = .error e) :
    scanAccounts db = ([], some e) := by
  refine runScan_of_error ?_ _
  rw [nextAccount, nextAccountWithin, Cursor.next_of_refused h rfl rfl]

/-- Without a first page no accounts are read. -/
theorem readAccounts_of_refused {e : Failure} (h : accountCursor.checkFetch db = .error e) :
    readAccounts db = .error e := by
  rw [readAccounts, scanAccounts_of_refused h]
  rfl

/-- **All accounts.** Reading all accounts is a pass over the rows of their range. -/
theorem readAccounts_eq (hread : db.access.allowsReading = true) (hpage : IsPageSize db.pageSize) :
    readAccounts db =
      ((db.store.range Layout.accountRange.1.le Layout.accountRange.2).mapM accountOfRow).map
        List.reduceOption := by
  rw [readAccounts, scanAccounts_eq hread hpage, ← allOf_collect]
  unfold allOf accountRows
  cases (collect accountOfRow (db.store.range Layout.accountRange.1.le
    Layout.accountRange.2)).2 <;> rfl

-- ---------------------------------------------------------------------------
-- Accounts of rows
-- ---------------------------------------------------------------------------

section
variable {r : Row} {a : Account}

/-- An account under its own address is no failure, whatever the length of the address. -/
theorem exists_accountOfRow (h : accountSchema.decode r.1 r.2 = .ok a)
    (haddress : Layout.addressOfKey r.1 = a.address) : ∃ x, accountOfRow r = .ok x := by
  rw [accountOfRow, h, Outcome.ok_bind, if_neg (not_not.2 haddress)]
  split
  · exact ⟨none, rfl⟩
  · exact ⟨some a, rfl⟩

/-- A row gives an account that lies under its own address of twenty bytes. -/
theorem accountOfRow_eq_some :
    accountOfRow r = .ok (some a) ↔ accountSchema.decode r.1 r.2 = .ok a ∧
      a.address.length = Address.length ∧ Layout.addressOfKey r.1 = a.address := by
  rw [accountOfRow, Outcome.bind_eq_ok]
  constructor
  · rintro ⟨b, hb, h⟩
    split at h
    · exact nomatch Except.ok.inj h
    · rename_i hlength
      split at h
      · exact nomatch h
      · rename_i haddress
        obtain rfl := Option.some.inj (Except.ok.inj h)
        exact ⟨hb, not_not.1 hlength, not_not.1 haddress⟩
  · rintro ⟨ha, hlength, haddress⟩
    exact ⟨a, ha, by rw [if_neg (not_not.2 hlength), if_neg (not_not.2 haddress)]; rfl⟩

/-- A row of the range of accounts lies under the address in its key. -/
theorem key_of_mem_range
    (h : r ∈ db.store.range Layout.accountRange.1.le Layout.accountRange.2) :
    r.1 = Layout.accountKey (Layout.addressOfKey r.1) := by
  obtain ⟨-, hlow, hhigh⟩ := Store.mem_range.1 h
  obtain ⟨x, hx⟩ := Layout.exists_accountKey_of_mem_range (Octets.le_iff.1 hlow) hhigh
  rw [hx, Layout.addressOfKey_accountKey]

/-- All accounts are read if each row of the range is sound. -/
theorem readAccounts_eq_ok (hread : db.access.allowsReading = true) (hpage : IsPageSize db.pageSize)
    {accounts : List Account} :
    readAccounts db = .ok accounts ↔ ∃ found,
      List.Forall₂ (fun r x => accountOfRow r = .ok x)
        (db.store.range Layout.accountRange.1.le Layout.accountRange.2) found ∧
      found.reduceOption = accounts := by
  rw [readAccounts_eq hread hpage, Outcome.map_eq_ok]
  simp only [Outcome.mapM_eq_ok]

theorem exists_readAccounts (hread : db.access.allowsReading = true)
    (hpage : IsPageSize db.pageSize)
    (h : ∀ r ∈ db.store.range Layout.accountRange.1.le Layout.accountRange.2,
      ∃ x, accountOfRow r = .ok x) :
    ∃ accounts, readAccounts db = .ok accounts := by
  obtain ⟨found, hfound⟩ := Outcome.exists_mapM h
  exact ⟨found.reduceOption, by rw [readAccounts_eq hread hpage, hfound]; rfl⟩

/-- The accounts of rows in ascending order of their keys are in the order of their addresses. -/
theorem pairwise_address {rows : List Row} {found : List (Option Account)}
    (h : List.Forall₂ (fun r x => accountOfRow r = .ok x) rows found) (hascending : Ascending rows)
    (hkeys : ∀ r ∈ rows, r.1 = Layout.accountKey (Layout.addressOfKey r.1)) :
    found.reduceOption.Pairwise fun a b => a.address < b.address := by
  have hkey : ∀ {r a}, r ∈ rows → accountOfRow r = .ok (some a) →
      r.1 = Layout.accountKey a.address := by
    intro r a hr hrow
    rw [hkeys r hr, (accountOfRow_eq_some.1 hrow).2.2]
  induction h with
  | nil => exact .nil
  | @cons r x rows found hrow hrest ih =>
    obtain ⟨hlt, hascending⟩ := List.pairwise_cons.1 hascending
    -- keys of one tag are ordered as the addresses behind it
    have hbehind := ih hascending (fun r hr => hkeys r (List.mem_cons_of_mem _ hr))
      fun hr => hkey (List.mem_cons_of_mem _ hr)
    cases x with
    | none => rwa [List.reduceOption_cons_of_none]
    | some a =>
      rw [List.reduceOption_cons_of_some]
      refine List.pairwise_cons.2 ⟨fun b hb => ?_, hbehind⟩
      obtain ⟨r', hr', hrow'⟩ := Pairing.exists_left hrest (List.reduceOption_mem_iff.1 hb)
      have hrr' := hlt r' hr'
      rw [hkey List.mem_cons_self hrow, hkey (List.mem_cons_of_mem _ hr') hrow'] at hrr'
      exact Octets.append_lt_append_iff.1 hrr'

/-- Accounts in ascending order of their addresses have distinct addresses. -/
theorem nodup_of_pairwise_address {accounts : List Account}
    (h : accounts.Pairwise fun a b => a.address < b.address) :
    (accounts.map Account.address).Nodup := by
  rw [List.Nodup, List.pairwise_map]
  refine h.imp fun {a b} hlt heq => ?_
  rw [heq] at hlt
  exact List.lt_irrefl _ hlt

/-- **Accounts that are found.** They are in strictly ascending order of their addresses, and are
those with twenty bytes under which the store has them. -/
theorem mem_of_readAccounts (hread : db.access.allowsReading = true)
    (hpage : IsPageSize db.pageSize)
    {accounts : List Account} (h : readAccounts db = .ok accounts) :
    accounts.Pairwise (fun a b => a.address < b.address) ∧
      ∀ a, a ∈ accounts ↔ a.address.length = Address.length ∧
        ∃ value, db.store.get? (Layout.accountKey a.address) = some value ∧
          accountSchema.decode (Layout.accountKey a.address) value = .ok a := by
  obtain ⟨found, hfound, rfl⟩ := (readAccounts_eq_ok hread hpage).1 h
  constructor
  · exact pairwise_address hfound (Store.ascending_range _ _ _) fun r hr => key_of_mem_range hr
  · intro a
    rw [List.reduceOption_mem_iff]
    constructor
    · intro ha
      obtain ⟨r, hr, hrow⟩ := Pairing.exists_left hfound ha
      obtain ⟨hdecode, hlength, haddress⟩ := accountOfRow_eq_some.1 hrow
      have hkey := key_of_mem_range hr
      rw [haddress] at hkey
      rw [← hkey]
      exact ⟨hlength, r.2, Store.mem_rows_iff.1 (Store.mem_range.1 hr).1, hdecode⟩
    · rintro ⟨hlength, value, hget, hdecode⟩
      -- the key of an address of full length lies between the ends of the range
      obtain ⟨hlow, hhigh⟩ := Layout.accountKey_mem_range hlength
      have hr : (Layout.accountKey a.address, value) ∈
          db.store.range Layout.accountRange.1.le Layout.accountRange.2 :=
        Store.mem_range.2 ⟨Store.mem_rows_iff.2 hget, Octets.le_iff.2 hlow, hhigh⟩
      obtain ⟨x, hx, hrow⟩ := Pairing.exists_right hfound hr
      have hsome := (accountOfRow_eq_some (r := (Layout.accountKey a.address, value))).2
        ⟨hdecode, hlength, Layout.addressOfKey_accountKey a.address⟩
      rw [hsome] at hrow
      rwa [Except.ok.inj hrow]

end

end Regenesis.Snapshot

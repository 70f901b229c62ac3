import Mathlib
import Regenesis.Proofs.Record.RoundTrip
import Regenesis.Proofs.Snapshot.Accounts
import Regenesis.Proofs.Snapshot.RoundTrip

/-!
# Proofs.Snapshot.AccountScan — accounts of a store with any rows

The range of accounts holds whatever was put there: rows with keys of any length, values that are no
accounts, accounts under addresses of others. A scan gives the accounts under their own addresses
until it comes to the first damaged row, and ends there: `scanAccounts_until_damage`. So no two
accounts that it gives have one address, whatever the rows.
-/

namespace Regenesis.Snapshot

open Record

variable {s : Store} {key : Octets} {r : Row} {fault : DecodeFault}

-- ---------------------------------------------------------------------------
-- Damaged rows
-- ---------------------------------------------------------------------------

/-- Whether a key is in the range of accounts. What follows its beginning may have any length. -/
def IsAccountKey (key : Octets) : Prop :=
  Layout.accountRange.1 ≤ key ∧ key ≤ Layout.accountRange.2

/-- What is wrong with the row of a key in the range of accounts. -/
inductive IsDamaged (s : Store) (key : Octets) : DecodeFault → Prop where
  /-- There is no account. -/
  | schema {value : Octets} {issues : List Issue} :
      IsAccountKey key → s.get? key = some value → accountSchema.check value = .issues issues →
      IsDamaged s key (.schema accountSchema.name issues)
  /-- There is an account with an address of twenty bytes, which is not the one in the key. -/
  | foreign {value : Octets} {a : Account} :
      IsAccountKey key → s.get? key = some value → accountSchema.check value = .ok a →
      a.address.length = Address.length → Layout.addressOfKey key ≠ a.address →
      IsDamaged s key (.foreignAddress a.address)

/-- Whether no row is damaged whose key is this one or comes before it. -/
def IsSoundTo (s : Store) (key : Octets) : Prop :=
  ∀ damaged fault, IsDamaged s damaged fault → key < damaged

/-- The rows of accounts are what the store has in the range of accounts. -/
theorem mem_accountRows : r ∈ accountRows s ↔ IsAccountKey r.1 ∧ s.get? r.1 = some r.2 := by
  unfold accountRows IsAccountKey
  rw [Store.mem_range, Store.mem_rows_iff, Octets.le_iff, and_comm]

/-- A damaged key has a row. -/
theorem IsDamaged.exists_row (h : IsDamaged s key fault) :
    ∃ value, (key, value) ∈ accountRows s := by
  cases h with
  | schema hkey hget _ => exact ⟨_, mem_accountRows.2 ⟨hkey, hget⟩⟩
  | foreign hkey hget _ _ _ => exact ⟨_, mem_accountRows.2 ⟨hkey, hget⟩⟩

/-- A scan fails at a row if and only if the row is damaged. -/
theorem accountOfRow_eq_error (hr : r ∈ accountRows s) {e : Failure} :
    accountOfRow r = .error e ↔ ∃ fault, e = .decode r.1 fault ∧ IsDamaged s r.1 fault := by
  obtain ⟨hkey, hget⟩ := mem_accountRows.1 hr
  constructor
  · intro h
    unfold accountOfRow Schema.decode at h
    cases hcheck : accountSchema.check r.2 with
    | issues list =>
      rw [hcheck] at h
      exact ⟨_, (Except.error.inj h).symm, .schema hkey hget hcheck⟩
    | ok a =>
      simp only [hcheck, Outcome.ok_bind] at h
      -- an account with a long address is passed over, so only the others can be foreign
      split at h
      · exact nomatch h
      · rename_i hlength
        split at h
        · rename_i haddress
          exact ⟨_, (Except.error.inj h).symm,
            .foreign hkey hget hcheck (not_not.1 hlength) haddress⟩
        · exact nomatch h
  · rintro ⟨fault, rfl, hdamaged⟩
    unfold accountOfRow Schema.decode
    cases hdamaged with
    | schema _ hget' hcheck =>
      obtain rfl := Option.some.inj (hget.symm.trans hget')
      rw [hcheck]
      rfl
    | foreign _ hget' hcheck hlength haddress =>
      obtain rfl := Option.some.inj (hget.symm.trans hget')
      simp only [hcheck, Outcome.ok_bind, if_neg (not_not.2 hlength), if_pos haddress]

/-- A row that is passed over holds an account with an address of another length. -/
theorem accountOfRow_eq_none :
    accountOfRow r = .ok none ↔
      ∃ a, accountSchema.check r.2 = .ok a ∧ a.address.length ≠ Address.length := by
  rw [accountOfRow, Outcome.bind_eq_ok]
  refine exists_congr fun a => ?_
  rw [Schema.decode_eq_ok]
  refine and_congr_right fun _ => ?_
  split
  · exact iff_of_true rfl ‹_›
  · rename_i hlength
    refine iff_of_false (fun h => ?_) hlength
    split at h
    · cases h
    · cases h

-- ---------------------------------------------------------------------------
-- Where a scan ends
-- ---------------------------------------------------------------------------

section
variable {before behind : List Row} (hrows : accountRows s = before ++ behind)
  (hbefore : ∀ r ∈ before, ∃ x, accountOfRow r = .ok x)
  (hbehind : ∀ r rest, behind = r :: rest → ∃ e, accountOfRow r = .error e)
include hrows hbefore

/-- Every damaged row is behind those at which a scan did not fail. -/
theorem IsDamaged.exists_behind (h : IsDamaged s key fault) :
    ∃ value, (key, value) ∈ behind := by
  obtain ⟨value, hmem⟩ := h.exists_row
  refine ⟨value, (List.mem_append.1 (hrows ▸ hmem)).resolve_left fun hin => ?_⟩
  obtain ⟨x, hx⟩ := hbefore _ hin
  rw [(accountOfRow_eq_error hmem).2 ⟨fault, rfl, h⟩] at hx
  exact nomatch hx

include hbehind

/-- The rows before the failure are those to which all is sound. -/
theorem mem_before_iff : r ∈ before ↔ r ∈ accountRows s ∧ IsSoundTo s r.1 := by
  have hascending : Ascending (before ++ behind) := hrows ▸ s.ascending_range _ _
  obtain ⟨-, hsorted, hlt⟩ := List.pairwise_append.1 hascending
  constructor
  · intro hr
    refine ⟨hrows ▸ List.mem_append_left _ hr, fun damaged fault h => ?_⟩
    obtain ⟨value, hvalue⟩ := h.exists_behind hrows hbefore
    exact hlt r hr _ hvalue
  · rintro ⟨hr, hsound⟩
    refine (List.mem_append.1 (hrows ▸ hr)).resolve_right fun hin => ?_
    -- the first row behind is damaged, and no row behind comes before it
    cases behind with
    | nil => exact nomatch hin
    | cons r' rest =>
      obtain ⟨e, he⟩ := hbehind r' rest rfl
      have hr' : r' ∈ accountRows s := hrows ▸ List.mem_append_right _ List.mem_cons_self
      obtain ⟨fault, -, hdamaged⟩ := (accountOfRow_eq_error hr').1 he
      have hkey := hsound r'.1 fault hdamaged
      rcases List.mem_cons.1 hin with rfl | hin
      · exact List.lt_irrefl _ hkey
      · exact List.lt_irrefl _ (List.lt_trans hkey ((List.pairwise_cons.1 hsorted).1 r hin))

end

section
variable {db : Database} (hread : db.access.allowsReading = true)
  (hpage : IsPageSize db.pageSize)
include hread hpage

/-- A scan ends behind the rows to which all is sound: well if no row is damaged, and otherwise at
the first one that is. -/
theorem exists_rows_before :
    ∃ before found, (∀ r, r ∈ before ↔ r ∈ accountRows db.store ∧ IsSoundTo db.store r.1) ∧
      Ascending before ∧ List.Forall₂ (fun r x => accountOfRow r = .ok x) before found ∧
      (scanAccounts db).1 = found.reduceOption ∧
      (((scanAccounts db).2 = none ∧ ∀ key fault, ¬ IsDamaged db.store key fault) ∨
        ∃ r ∈ accountRows db.store, ∃ e, accountOfRow r = .error e ∧
          (scanAccounts db).2 = some e ∧
          ∀ key fault, IsDamaged db.store key fault → r.1 ≤ key) := by
  obtain ⟨before, behind, hrows, hfound, hend⟩ :=
    collect_split accountOfRow (accountRows db.store)
  have hascending : Ascending (before ++ behind) := hrows ▸ db.store.ascending_range _ _
  obtain ⟨hbeforeAscending, hbehindAscending, -⟩ := List.pairwise_append.1 hascending
  have hbefore : ∀ r ∈ before, ∃ x, accountOfRow r = .ok x := fun r hr =>
    (Pairing.exists_right hfound hr).imp fun _ h => h.2
  -- the scan stops at a damaged row or at the end
  have hbehind : ∀ r rest, behind = r :: rest → ∃ e, accountOfRow r = .error e := by
    rintro r rest rfl
    rcases hend with ⟨hnil, -⟩ | ⟨r', rest', e, heq, he, -⟩
    · exact nomatch hnil
    · rw [(List.cons.inj heq).1]
      exact ⟨e, he⟩
  rw [scanAccounts_eq hread hpage]
  refine ⟨before, _, fun r => mem_before_iff hrows hbefore hbehind, hbeforeAscending, hfound, rfl,
    ?_⟩
  rcases hend with ⟨rfl, hnone⟩ | ⟨r, rest, e, rfl, he, hsome⟩
  · refine Or.inl ⟨hnone, fun key fault h => ?_⟩
    -- rows before are sound, so a damaged row would be among those behind
    obtain ⟨value, hvalue⟩ := h.exists_behind hrows hbefore
    exact nomatch hvalue
  · refine Or.inr ⟨r, hrows ▸ List.mem_append_right _ List.mem_cons_self, e, he, hsome, ?_⟩
    intro key fault h
    obtain ⟨value, hvalue⟩ := h.exists_behind hrows hbefore
    rcases List.mem_cons.1 hvalue with rfl | hin
    · exact List.le_refl key
    · exact List.le_of_lt ((List.pairwise_cons.1 hbehindAscending).1 _ hin)

/-- A scan gives accounts in strictly ascending order of their addresses. -/
theorem pairwise_scanAccounts :
    (scanAccounts db).1.Pairwise fun a b => a.address < b.address := by
  obtain ⟨before, found, hmem, hascending, hfound, hgiven, -⟩ := exists_rows_before hread hpage
  rw [hgiven]
  exact pairwise_address hfound hascending fun r hr => key_of_mem_range ((hmem r).1 hr).1

/-- A scan gives the accounts that lie under their own addresses, as far as no row is damaged. -/
theorem mem_scanAccounts {a : Account} :
    a ∈ (scanAccounts db).1 ↔ a.address.length = Address.length ∧
      (∃ value, db.store.get? (Layout.accountKey a.address) = some value ∧
        accountSchema.check value = .ok a) ∧
      IsSoundTo db.store (Layout.accountKey a.address) := by
  obtain ⟨before, found, hmem, -, hfound, hgiven, -⟩ := exists_rows_before hread hpage
  rw [hgiven, List.reduceOption_mem_iff]
  constructor
  · intro ha
    obtain ⟨r, hr, hrow⟩ := Pairing.exists_left hfound ha
    obtain ⟨hdecode, hlength, haddress⟩ := accountOfRow_eq_some.1 hrow
    -- the row's key is the key of the account that was read from it
    obtain ⟨hin, hsound⟩ := (hmem r).1 hr
    have hkey := key_of_mem_range hin
    rw [haddress] at hkey
    rw [← hkey]
    exact ⟨hlength, ⟨r.2, (mem_accountRows.1 hin).2, Schema.decode_eq_ok.1 hdecode⟩, hsound⟩
  · rintro ⟨hlength, ⟨value, hget, hcheck⟩, hsound⟩
    have hr : (Layout.accountKey a.address, value) ∈ before :=
      (hmem _).2 ⟨mem_accountRows.2 ⟨Layout.accountKey_mem_range hlength, hget⟩, hsound⟩
    obtain ⟨x, hx, hrow⟩ := Pairing.exists_right hfound hr
    rw [accountOfRow_eq_some.2 ⟨Schema.decode_eq_ok.2 hcheck, hlength,
      Layout.addressOfKey_accountKey a.address⟩] at hrow
    rwa [Except.ok.inj hrow]

/-- What lies under a key to which all is sound is an account, and given unless it is passed over.
-/
theorem exists_account_of_isSoundTo {value : Octets} (hkey : IsAccountKey key)
    (hget : db.store.get? key = some value) (hsound : IsSoundTo db.store key) :
    ∃ a, accountSchema.check value = .ok a ∧
      (a ∈ (scanAccounts db).1 ↔ a.address.length = Address.length) := by
  obtain ⟨before, found, hmem, -, hfound, -⟩ := exists_rows_before hread hpage
  have hin : (key, value) ∈ accountRows db.store := mem_accountRows.2 ⟨hkey, hget⟩
  obtain ⟨x, -, hx⟩ := Pairing.exists_right hfound ((hmem _).2 ⟨hin, hsound⟩)
  cases x with
  | none =>
    obtain ⟨a, hcheck, hlength⟩ := accountOfRow_eq_none.1 hx
    exact ⟨a, hcheck, iff_of_false (fun ha => hlength ((mem_scanAccounts hread hpage).1 ha).1)
      hlength⟩
  | some a =>
    obtain ⟨hdecode, hlength, haddress⟩ := accountOfRow_eq_some.1 hx
    have hcheck := Schema.decode_eq_ok.1 hdecode
    have hown : key = Layout.accountKey a.address := haddress ▸ key_of_mem_range hin
    rw [hown] at hget hsound
    exact ⟨a, hcheck, iff_of_true
      ((mem_scanAccounts hread hpage).2 ⟨hlength, ⟨value, hget, hcheck⟩, hsound⟩) hlength⟩

/-- A scan ends well exactly if no row is damaged. -/
theorem scanAccounts_failure_eq_none :
    (scanAccounts db).2 = none ↔ ∀ key fault, ¬ IsDamaged db.store key fault := by
  obtain ⟨-, -, -, -, -, -, hend⟩ := exists_rows_before hread hpage
  rcases hend with ⟨hnone, hsound⟩ | ⟨r, hr, e, he, hsome, -⟩
  · exact iff_of_true hnone hsound
  · obtain ⟨fault, -, hdamaged⟩ := (accountOfRow_eq_error hr).1 he
    exact iff_of_false (by rw [hsome]; nofun) fun h => h r.1 fault hdamaged

/-- A scan that fails fails for the damaged row with the least key. -/
theorem scanAccounts_failure_eq_some {e : Failure} :
    (scanAccounts db).2 = some e ↔ ∃ key fault, e = .decode key fault ∧
      IsDamaged db.store key fault ∧
      ∀ key' fault', IsDamaged db.store key' fault' → key ≤ key' := by
  obtain ⟨-, -, -, -, -, -, hend⟩ := exists_rows_before hread hpage
  rcases hend with ⟨hnone, hsound⟩ | ⟨r, hr, e', he, hsome, hleast⟩
  · refine iff_of_false (by rw [hnone]; nofun) ?_
    rintro ⟨key, fault, -, hdamaged, -⟩
    exact hsound key fault hdamaged
  · obtain ⟨fault, rfl, hdamaged⟩ := (accountOfRow_eq_error hr).1 he
    rw [hsome, Option.some.injEq]
    constructor
    · rintro rfl
      exact ⟨r.1, fault, rfl, hdamaged, hleast⟩
    · rintro ⟨key', fault', rfl, hdamaged', hleast'⟩
      -- two least keys are one, and a row fails in one way
      obtain rfl := List.le_antisymm (hleast _ _ hdamaged') (hleast' _ _ hdamaged)
      have he' := (accountOfRow_eq_error hr).2 ⟨fault', rfl, hdamaged'⟩
      exact Except.error.inj (he.symm.trans he')

end

/-- **Accounts of any store.** In pages of a size that the store takes, a scan of accounts gives, in
strictly ascending order of their addresses, the accounts that lie under their own addresses of
twenty bytes before the first damaged row; of the rows up to there it passes over those whose
accounts have addresses of another length, and no others. It ends well if no row in the range of
accounts is damaged, and otherwise in the fault of the damaged row with the least key. -/
theorem scanAccounts_until_damage {db : Database} (hread : db.access.allowsReading = true)
    (hpage : IsPageSize db.pageSize) :
    (scanAccounts db).1.Pairwise (fun a b => a.address < b.address) ∧
      (∀ a, a ∈ (scanAccounts db).1 ↔ a.address.length = Address.length ∧
        (∃ value, db.store.get? (Layout.accountKey a.address) = some value ∧
          accountSchema.check value = .ok a) ∧
        IsSoundTo db.store (Layout.accountKey a.address)) ∧
      (∀ key value, IsAccountKey key → db.store.get? key = some value → IsSoundTo db.store key →
        ∃ a, accountSchema.check value = .ok a ∧
          (a ∈ (scanAccounts db).1 ↔ a.address.length = Address.length)) ∧
      ((scanAccounts db).2 = none ↔ ∀ key fault, ¬ IsDamaged db.store key fault) ∧
      ∀ e, (scanAccounts db).2 = some e ↔ ∃ key fault, e = .decode key fault ∧
        IsDamaged db.store key fault ∧
        ∀ key' fault', IsDamaged db.store key' fault' → key ≤ key' :=
  ⟨pairwise_scanAccounts hread hpage, fun _ => mem_scanAccounts hread hpage,
    fun _ _ => exists_account_of_isSoundTo hread hpage, scanAccounts_failure_eq_none hread hpage,
    fun _ => scanAccounts_failure_eq_some hread hpage⟩

/-- Twenty bytes that are all the same. -/
def sameBytes (x : UInt8) : Octets := List.replicate Address.length x

/-- Addresses in keys and in the accounts under them. One account has an address that is too long,
and one lies under the address of another. -/
def damagedPlaces : List (Octets × Octets) := [
  (sameBytes 3, sameBytes 3), (sameBytes 3 ++ [3], sameBytes 3 ++ [3]), (sameBytes 4, sameBytes 3),
  (sameBytes 5, sameBytes 5)]

/-- A database in which an account lies under the address of another. -/
def damagedDatabase : Database :=
  ⟨"", .readOnly, 2, Store.empty.putAll (damagedPlaces.map fun p =>
    (Layout.accountKey p.1, accountSchema.encode (plainAccount p.2 "")))⟩

/-- A plain account is decoded as it is encoded. -/
theorem check_plainAccount (address : Octets) (username : String) :
    accountSchema.check (accountSchema.encode (plainAccount address username)) =
      .ok (plainAccount address username) :=
  Schema.decode_eq_ok.1 (Schema.decode_encode_of_yields Account.lawful rfl (by decide)
    (yields_plainAccount address username) [])

/-- The store has plain accounts only. -/
theorem exists_place {value : Octets} (h : damagedDatabase.store.get? key = some value) :
    ∃ p ∈ damagedPlaces, key = Layout.accountKey p.1 ∧
      accountSchema.check value = .ok (plainAccount p.2 "") := by
  obtain ⟨p, hp, hrow⟩ := List.mem_map.1 (Store.mem_of_get?_putAll h)
  obtain ⟨rfl, rfl⟩ := Prod.mk.inj hrow
  exact ⟨p, hp, rfl, check_plainAccount _ _⟩

/-- One row of the store is damaged: its account has another address. -/
theorem isDamaged_damagedDatabase :
    IsDamaged damagedDatabase.store key fault ↔
      key = Layout.accountKey (sameBytes 4) ∧ fault = .foreignAddress (sameBytes 3) := by
  constructor
  · intro h
    cases h with
    | schema hkey hget hcheck =>
      obtain ⟨p, -, -, hplain⟩ := exists_place hget
      exact nomatch hplain.symm.trans hcheck
    | foreign hkey hget hcheck hlength haddress =>
      obtain ⟨p, hp, rfl, hplain⟩ := exists_place hget
      obtain rfl := Checked.ok.inj (hplain.symm.trans hcheck)
      rw [Layout.addressOfKey_accountKey] at haddress
      have honly : ∀ p ∈ damagedPlaces, p.1 ≠ p.2 → p = (sameBytes 4, sameBytes 3) := by decide
      rw [honly p hp haddress]
      exact ⟨rfl, rfl⟩
  · rintro ⟨rfl, rfl⟩
    exact .foreign (Layout.accountKey_mem_range rfl) rfl (check_plainAccount _ _) rfl (by decide)

/-- The scan passes over the address that is too long and ends at the account under the address of
another. -/
theorem scanAccounts_until_damage_foreign :
    (scanAccounts damagedDatabase).1 = [plainAccount (sameBytes 3) ""] ∧
      (scanAccounts damagedDatabase).2 =
        some (.decode (Layout.accountKey (sameBytes 4)) (.foreignAddress (sameBytes 3))) := by
  obtain ⟨hpairwise, hmem, -, -, hfailure⟩ :=
    @scanAccounts_until_damage damagedDatabase rfl (by decide)
  -- only one key is damaged, so sound means before it
  have hsound : ∀ key, IsSoundTo damagedDatabase.store key ↔
      key < Layout.accountKey (sameBytes 4) := by
    intro key
    unfold IsSoundTo
    simp only [isDamaged_damagedDatabase]
    exact ⟨fun h => h _ _ ⟨rfl, rfl⟩, fun h _ _ hd => hd.1 ▸ h⟩
  constructor
  · -- of the stored accounts one lies before the damaged key
    refine eq_singleton_of_mem_iff hpairwise fun a => ?_
    rw [hmem, hsound]
    constructor
    · rintro ⟨hlength, ⟨value, hget, hcheck⟩, hlt⟩
      obtain ⟨p, hp, -, hplain⟩ := exists_place hget
      obtain rfl := Checked.ok.inj (hplain.symm.trans hcheck)
      have honly : ∀ p ∈ damagedPlaces, p.2.length = Address.length →
          Layout.accountKey p.2 < Layout.accountKey (sameBytes 4) → p.2 = sameBytes 3 := by decide
      rw [honly p hp hlength hlt]
    · rintro rfl
      exact ⟨rfl, ⟨_, rfl, check_plainAccount _ _⟩, by decide⟩
  · refine (hfailure _).2 ⟨_, _, rfl, isDamaged_damagedDatabase.2 ⟨rfl, rfl⟩, ?_⟩
    intro key fault h
    rw [(isDamaged_damagedDatabase.1 h).1]
    exact List.le_refl _

/-- In pages of a size that the store does not take, the scan does not come to the damaged row, nor
to the account before it. -/
theorem scanAccounts_of_oversizedPages :
    let db := { damagedDatabase with pageSize := Database.integerLimit }
    1 ≤ db.pageSize ∧ scanAccounts db = ([], some .pageSizeOutside) := by
  refine ⟨by decide, scanAccounts_of_refused ?_⟩
  exact Cursor.checkFetch_of_isInteger_eq_false (by decide) (isInteger_of_integerLimit_le le_rfl) _

end Regenesis.Snapshot

import Mathlib
import Regenesis.Proofs.Snapshot.Window

/-!
# Proofs.Snapshot.Failures — how reading a store fails

Whatever a store holds, reading it fails with a failure of a migration: a record does not fit, a
link leads nowhere, a row cannot be read. The exceptions do not come from records. A message shows a
height, which may have too many digits to be written: one that was asked for, or the one in a key of
the height index, which can be longer than the key of a height. And the page size may be none that
the store takes.
-/

namespace Regenesis.Snapshot

open Record Outcome

section
variable {db : Database} {P : Failure → Prop}
  (hP : ∀ e : Failure, e.isMigrationFailure = true → P e)
include hP

-- ---------------------------------------------------------------------------
-- Records
-- ---------------------------------------------------------------------------

theorem failsWithin_get (key : Octets) : FailsWithin P (db.get key) := by
  unfold Database.get
  split
  · exact .ok _
  · exact .error (hP _ rfl)

/-- A record that does not fit is a failure of a migration. -/
theorem failsWithin_decode {α : Type} (s : Schema α) (key value : Octets) :
    FailsWithin P (s.decode key value) := by
  unfold Schema.decode
  split
  · exact .ok _
  · exact .error (hP _ rfl)

/-- A height that can be written is checked without another failure. -/
theorem failsWithin_checkHeight {height : Int} (hfits : Decimal.fits height = true) :
    FailsWithin P (Layout.checkHeight height) := by
  by_cases h : 0 ≤ height ∧ height ≤ Layout.maxHeight
  · rw [Layout.checkHeight_of_mem h]
    exact .ok _
  · rw [Layout.checkHeight_of_fits h hfits]
    exact .error (hP _ rfl)

/-- Heights that can be written are compared without another failure. -/
theorem failsWithin_checkRange {height previous : Int} (hheight : Decimal.fits height = true)
    (hprevious : Decimal.fits previous = true) : FailsWithin P (checkRange height previous) := by
  unfold checkRange
  refine (failsWithin_checkHeight hP hheight).bind fun _ _ => ?_
  refine (failsWithin_checkHeight hP hprevious).bind fun _ _ => ?_
  split
  · exact .error (hP _ rfl)
  · exact .ok _

theorem failsWithin_readUnregistered : FailsWithin P (readUnregistered db) := by
  unfold readUnregistered
  refine (failsWithin_get hP _).bind fun found _ => ?_
  cases found with
  | none => exact .ok _
  | some value => exact (failsWithin_decode hP _ _ _).bind fun _ _ => .ok _

theorem failsWithin_readVoteWeights : FailsWithin P (readVoteWeights db) := by
  unfold readVoteWeights
  refine (failsWithin_get hP _).bind fun found _ => ?_
  cases found with
  | none => exact .ok _
  | some value => exact failsWithin_decode hP _ _ _

theorem failsWithin_accountOfRow (r : Row) : FailsWithin P (accountOfRow r) := by
  unfold accountOfRow
  refine (failsWithin_decode hP _ _ _).bind fun a _ => ?_
  split
  · exact .ok _
  · split
    · exact .error (hP _ rfl)
    · exact .ok _

/-- A page is refused because its size is none, or with a failure of a migration. -/
theorem failsWithin_checkFetch (c : Cursor)
    (hsize : Database.isInteger db.pageSize = false → P .pageSizeOutside) :
    FailsWithin P (c.checkFetch db) := by
  unfold Cursor.checkFetch
  split
  · exact .error (hP _ rfl)
  · split
    · rename_i hno
      exact .error (hsize (by simpa using hno))
    · split
      · exact .error (hP _ rfl)
      · exact .ok _

/-- Accounts fail to be read for a damaged row, or because no page can be fetched. -/
theorem failsWithin_readAccounts (hpage : 1 ≤ db.pageSize)
    (hsize : Database.isInteger db.pageSize = false → P .pageSizeOutside) :
    FailsWithin P (readAccounts db) := by
  cases hcheck : accountCursor.checkFetch db with
  | error e =>
    rw [readAccounts_of_refused hcheck]
    exact .error (failsWithin_checkFetch hP _ hsize e hcheck)
  | ok _ =>
    obtain ⟨hread, hinteger⟩ := Cursor.checkFetch_eq_ok.1 hcheck
    rw [readAccounts_eq hread (isPageSize_iff.2 ⟨hpage, hinteger⟩)]
    exact (FailsWithin.mapM fun r _ => failsWithin_accountOfRow hP r).map

-- ---------------------------------------------------------------------------
-- Blocks
-- ---------------------------------------------------------------------------

theorem failsWithin_headerOf (id : Octets) : FailsWithin P (headerOf db id) := by
  unfold headerOf
  refine (failsWithin_get hP _).bind fun found _ => ?_
  cases found with
  | none => exact .ok _
  | some value => exact (failsWithin_decode hP _ _ _).bind fun _ _ => .ok _

/-- The only number in a failure about a header is the one in the key of its row. -/
theorem failsWithin_headerOfRow {r : Row}
    (hkey : ∀ header, headerOf db r.2 = .ok (some header) →
      Decimal.fits (Layout.heightOfKey r.1) = false → P (.value (.integer .tooLarge))) :
    FailsWithin P (headerOfRow db r) := by
  unfold headerOfRow
  refine (failsWithin_headerOf hP r.2).bind fun found hfound => ?_
  cases found with
  | none => exact .error (hP _ rfl)
  | some header =>
    dsimp only
    split
    · have htext := Decimal.failsWithin_writeText (hkey header hfound)
      exact htext.bind fun _ _ => .error (hP _ rfl)
    · exact .ok _

theorem failsWithin_heightKey {height : Int} (hfits : Decimal.fits height = true) :
    FailsWithin P (Layout.heightKey height) := by
  unfold Layout.heightKey
  exact (failsWithin_checkHeight hP hfits).bind fun _ _ => .ok _

/-- The key of a height is not too long for its height to be written. -/
theorem failsWithin_headerAt {height : Int} (hfits : Decimal.fits height = true) :
    FailsWithin P (headerAt db height) := by
  unfold headerAt
  refine (failsWithin_heightKey hP hfits).bind fun key hkey => ?_
  refine (failsWithin_get hP key).bind fun found _ => ?_
  cases found with
  | none => exact .ok _
  | some id =>
    refine (failsWithin_headerOfRow hP fun _ _ hlong => ?_).bind fun _ _ => .ok _
    obtain ⟨hzero, hmax⟩ := (Layout.heightKey_eq_ok.1 hkey).1
    have hfits : Decimal.fits (Layout.heightOfKey key) = true := by
      rw [Layout.heightOfKey_heightKey hkey]
      exact Layout.fits_of_natAbs_le (by omega)
    rw [hfits] at hlong
    exact nomatch hlong

/-- **Snapshots.** Where one cannot be loaded, a record is at fault, or the page size is none that
the store takes; the heights are taken to be ones that can be written. -/
theorem failsWithin_load (hpage : 1 ≤ db.pageSize)
    (hsize : Database.isInteger db.pageSize = false → P .pageSizeOutside) {height previous : Int}
    (hheight : Decimal.fits height = true) (hprevious : Decimal.fits previous = true) :
    FailsWithin P (load db height previous) := by
  unfold load
  refine (failsWithin_checkRange hP hheight hprevious).bind fun _ _ => ?_
  refine (failsWithin_readAccounts hP hpage hsize).bind fun _ _ => ?_
  refine (failsWithin_readUnregistered hP).bind fun _ _ => ?_
  refine (failsWithin_readVoteWeights hP).bind fun _ _ => ?_
  exact (failsWithin_headerAt hP hheight).bind fun _ _ => .ok _

theorem failsWithin_transactionOf (id : Octets) : FailsWithin P (transactionOf db id) := by
  unfold transactionOf
  refine (failsWithin_get hP _).bind fun found _ => ?_
  cases found with
  | none => exact .error (hP _ rfl)
  | some value => exact failsWithin_decode hP _ _ _

theorem failsWithin_transactionsOf (id : Octets) : FailsWithin P (transactionsOf db id) := by
  unfold transactionsOf
  refine (failsWithin_get hP _).bind fun found _ => ?_
  cases found with
  | none => exact .ok _
  | some ids =>
    dsimp only
    split
    · exact .error (hP _ rfl)
    · exact FailsWithin.mapM fun t _ => failsWithin_transactionOf hP t

/-- **Validator keys.** Where they cannot be read, the records of the window are at fault, or a key
of the height index is too long. -/
theorem failsWithin_resolveValidatorKeys (hread : db.access.allowsReading = true)
    (hpage : IsPageSize db.pageSize) {height previous : Int}
    (hrange : checkRange height previous = .ok ())
    (hindex : ∀ key id header, IsIndexKey height previous key → db.store.get? key = some id →
      headerOf db id = .ok (some header) → Decimal.fits (Layout.heightOfKey key) = false →
      P (.value (.integer .tooLarge)))
    (accounts : List Account) :
    FailsWithin P (resolveValidatorKeys db accounts height previous) := by
  rw [resolveValidatorKeys, hrange, ok_bind]
  obtain ⟨hprevious, hlt, hheight⟩ := checkRange_eq_ok.1 hrange
  obtain ⟨low, hlow⟩ : ∃ low, Layout.heightKey (previous + 1) = .ok low :=
    Layout.exists_heightKey ⟨by omega, by omega⟩
  obtain ⟨high, hhigh⟩ : ∃ high, Layout.heightKey height = .ok high :=
    Layout.exists_heightKey ⟨by omega, hheight⟩
  rw [readBlocks_eq_mapM hread hpage hlow hhigh (by omega)]
  refine FailsWithin.bind (FailsWithin.mapM fun r hr => ?_) fun _ _ => .ok _
  obtain ⟨hmem, hge, hle⟩ := Store.mem_range.1 hr
  have hkey : IsIndexKey height previous r.1 :=
    ⟨low, high, hlow, hhigh, Octets.le_iff.1 hge, hle⟩
  have hheader : FailsWithin P (headerOfRow db r) := failsWithin_headerOfRow hP fun header =>
    hindex r.1 r.2 header hkey (Store.mem_rows_iff.1 hmem)
  refine hheader.bind fun header _ => ?_
  exact (failsWithin_transactionsOf hP header.id).bind fun _ _ => .ok _

end

end Regenesis.Snapshot

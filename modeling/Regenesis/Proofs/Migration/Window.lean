import Mathlib
import Regenesis.Proofs.Migration.Output

/-!
# Proofs.Migration.Window — a migration depends on the records of its window

Two stores that hold the same under the keys that are needed for a snapshot lead to the same
outcome: the same block and the same files, or the same failure. What else the stores hold, and the
pages in which they are scanned, do not matter, as long as the stores take the page sizes:
`run_depends_on_window`.
-/

namespace Regenesis.Migration

open Genesis Snapshot

variable {db db' : Database} {height previous : Int}

theorem readAssets_congr
    (haccess : db.access.allowsReading = db'.access.allowsReading)
    (hpage : IsPageSize db.pageSize) (hpage' : IsPageSize db'.pageSize)
    (hagree : ∀ key, Needs db.store height previous key →
      db.store.get? key = db'.store.get? key) (n : Network) :
    readAssets db height previous n = readAssets db' height previous n := by
  rw [readAssets, readAssets, ← load_congr hagree haccess hpage hpage']
  refine Outcome.bind_congr fun s hload => ?_
  have hread := allowsReading_of_load hload
  rw [resolveValidatorKeys_congr hagree haccess hpage hpage' hread]

theorem run_congr {r : Request} (haccess : db.access.allowsReading = db'.access.allowsReading)
    (hpage : IsPageSize db.pageSize) (hpage' : IsPageSize db'.pageSize)
    (hagree : ∀ key, Needs db.store r.snapshotHeight r.previousHeight key →
      db.store.get? key = db'.store.get? key) (n : Network) (d : Directory) :
    run db n r d = run db' n r d := by
  rw [run, run, build, build, readAssets_congr haccess hpage hpage' hagree]

/-- **Window.** A migration has the same outcome with any two stores that hold the same under the
keys that are needed for its snapshot, whatever the page sizes that the stores take. So rows under
other keys have no influence, and neither has such a page size. With a greater page size an open
store leads to no block and no file, whatever it holds. -/
theorem run_depends_on_window (hpage : IsPageSize db.pageSize) (n : Network) (r : Request)
    (d : Directory) :
    (∀ db' : Database, db.access.allowsReading = db'.access.allowsReading →
      IsPageSize db'.pageSize →
      (∀ key, Needs db.store r.snapshotHeight r.previousHeight key →
        db.store.get? key = db'.store.get? key) →
      run db n r d = run db' n r d) ∧
    (∀ (rows : List Row) (pageSize : Int), IsPageSize pageSize →
      (∀ row ∈ rows, ¬ Needs db.store r.snapshotHeight r.previousHeight row.1) →
      run db n r d = run { db with store := db.store.putAll rows, pageSize } n r d) ∧
    ∀ db' : Database, db'.access ≠ .closed → Database.integerLimit ≤ db'.pageSize →
      0 ≤ r.previousHeight → r.previousHeight < r.snapshotHeight →
      r.snapshotHeight ≤ Layout.maxHeight → run db' n r d = (.error .pageSizeOutside, d) := by
  refine ⟨fun db' haccess hpage' hagree => run_congr haccess hpage hpage' hagree n d,
    fun rows pageSize hpage' hrows => ?_, fun db' hopen hsize hprevious hlt hheight => ?_⟩
  · have hagree : ∀ key, Needs db.store r.snapshotHeight r.previousHeight key →
        db.store.get? key = (db.store.putAll rows).get? key := by
      intro key hneeds
      refine (Store.get?_putAll_of_forall_ne fun row hrow heq => ?_).symm
      exact hrows row hrow (heq ▸ hneeds)
    let db' : Database := { db with store := db.store.putAll rows, pageSize }
    have haccess : db.access.allowsReading = db'.access.allowsReading := rfl
    exact run_congr haccess hpage hpage' hagree n d
  · exact run_of_isInteger_eq_false hopen (isInteger_of_integerLimit_le hsize)
      (Snapshot.checkRange_eq_ok.2 ⟨hprevious, hlt, hheight⟩) n d

/-- Rows that the migration of the history at height 308 does not need: a block at an earlier
height, which is damaged, and a row of another kind. -/
def otherRows : List Row := [
  (Layout.heightTag ++ Octets.bigEndian Layout.heightWidth 307, [9]),
  (Layout.blockKey [9], []),
  ([], [])]

theorem not_needs_otherRows : ∀ row ∈ otherRows,
    ¬ Needs forgingDatabase.store 308 307 row.1 := by
  have hkey : Layout.heightKey 308 =
      .ok (Layout.heightTag ++ Octets.bigEndian Layout.heightWidth 308) := rfl
  have hindex : ∀ key, IsIndexKey 308 307 key →
      key = Layout.heightTag ++ Octets.bigEndian Layout.heightWidth 308 := by
    rintro key ⟨low, high, hlow, hhigh, hge, hle⟩
    obtain rfl := Except.ok.inj (hkey.symm.trans hlow)
    obtain rfl := Except.ok.inj (hkey.symm.trans hhigh)
    exact List.le_antisymm hle hge
  simp only [otherRows, List.forall_mem_cons]
  refine ⟨fun h => ?_, fun h => ?_, not_needs_of_not_prefix (by decide +kernel),
    List.forall_mem_nil _⟩
  · exact absurd (hindex _ (isIndexKey_of_needs h)) (by decide +kernel)
  · obtain ⟨key, hindexKey, hget⟩ := exists_isIndexKey_of_needs h
    rw [hindex key hindexKey, forgingDatabase, get?_heightKey forging hkey (by decide)] at hget
    exact absurd hget (by decide +kernel)

/-- The history is migrated as if these rows were not there. -/
theorem run_depends_on_window_forging :
    ∃ block d', run forgingDatabase Token.simpleNetwork forgingRequest {} = (.ok block, d') ∧
      run { forgingDatabase with store := forgingDatabase.store.putAll otherRows, pageSize := 7 }
        Token.simpleNetwork forgingRequest {} = (.ok block, d') := by
  obtain ⟨block, d', hrun⟩ := exists_run_forging
  obtain ⟨-, hother, -⟩ := run_depends_on_window
    (show IsPageSize forgingDatabase.pageSize by decide) Token.simpleNetwork forgingRequest {}
  refine ⟨block, d', hrun, ?_⟩
  rw [← hother otherRows 7 (by decide) not_needs_otherRows]
  exact hrun

/-- The same store leads to a block in pages of one row, and to none in pages of a size that it does
not take. -/
theorem run_with_oversizedPages :
    1 ≤ Database.integerLimit ∧ ∃ block d',
      run forgingDatabase Token.simpleNetwork forgingRequest {} = (.ok block, d') ∧
      run { forgingDatabase with pageSize := Database.integerLimit } Token.simpleNetwork
        forgingRequest {} = (.error .pageSizeOutside, {}) := by
  obtain ⟨block, d', hrun⟩ := exists_run_forging
  refine ⟨by decide, block, d', hrun, run_of_isInteger_eq_false (by decide) ?_ ?_ _ _⟩
  · exact isInteger_of_integerLimit_le le_rfl
  · exact Snapshot.checkRange_eq_ok.2 (by decide)

end Regenesis.Migration

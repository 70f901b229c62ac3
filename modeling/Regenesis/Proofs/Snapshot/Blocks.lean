import Mathlib
import Regenesis.Snapshot.Blocks
import Regenesis.Proofs.Store.Cursor
import Regenesis.Proofs.Store.Layout

/-!
# Proofs.Snapshot.Blocks — blocks by scan and by height

A scan of blocks is a pass over the rows of the height index. If every key of the index is that of a
height, these rows are what looking up one height after the other finds. So reading a range of
blocks gives the blocks that are found at its heights: `readBlocks_eq`.
-/

namespace Regenesis.Snapshot

open Record

variable {db : Database} {first last : Int}

-- ---------------------------------------------------------------------------
-- Blocks by scan
-- ---------------------------------------------------------------------------

/-- The block that a row of the height index leads to. -/
def blockOfRow (db : Database) (r : Row) : Except Failure Block := do
  let header ← headerOfRow db r
  return (header, ← transactionsOf db header.id)

/-- A step of a scan of headers is the header of the next row. -/
theorem HeaderScan.next_running (hread : db.access.allowsReading = true)
    (hpage : IsPageSize db.pageSize) (c : Cursor) :
    (c.remaining db = [] ∧ HeaderScan.next db (.running c) = .ok none) ∨
      ∃ r c', c.remaining db = r :: c'.remaining db ∧
        HeaderScan.next db (.running c) =
          (headerOfRow db r).map fun header => some (header, .running c') := by
  unfold HeaderScan.next HeaderScan.cursor
  rcases Cursor.next_eq hread hpage c with ⟨hrows, hnext⟩ | ⟨r, c', hrows, hnext⟩
  · refine Or.inl ⟨hrows, ?_⟩
    rw [Outcome.ok_bind, hnext]
    rfl
  · refine Or.inr ⟨r, c', hrows, ?_⟩
    rw [Outcome.ok_bind, hnext]
    simp only [Outcome.ok_bind]
    cases headerOfRow db r <;> rfl

/-- A step of a scan of blocks is the block of the next row. -/
theorem nextBlock_running (hread : db.access.allowsReading = true) (hpage : IsPageSize db.pageSize)
    (c : Cursor) :
    (c.remaining db = [] ∧ nextBlock db (.running c) = .ok none) ∨
      ∃ r c', c.remaining db = r :: c'.remaining db ∧
        nextBlock db (.running c) =
          (blockOfRow db r).map fun b => some (b, HeaderScan.running c') := by
  unfold nextBlock blockOfRow
  rcases HeaderScan.next_running hread hpage c with ⟨hrows, hnext⟩ | ⟨r, c', hrows, hnext⟩
  · refine Or.inl ⟨hrows, ?_⟩
    rw [hnext]
    rfl
  · refine Or.inr ⟨r, c', hrows, ?_⟩
    rw [hnext]
    cases headerOfRow db r with
    | error e => rfl
    | ok header =>
      simp only [Except.map, Outcome.ok_bind]
      cases transactionsOf db header.id <;> rfl

/-- The rows of the height index that are left to a scan. Only one that is under way is asked. -/
def HeaderScan.remaining (db : Database) : HeaderScan → List Row
  | .running c => c.remaining db
  | .fresh _ _ => []

/-- A scan that takes a row of the height index at a time collects what the rows lead to. -/
theorem runScan_window {α : Type} {low high : Octets}
    {next : HeaderScan → Except Failure (Option (α × HeaderScan))}
    {f : Row → Except Failure α}
    (hfresh : next (.fresh first last) = next (.running (.ofRange low high)))
    (hrunning : ∀ c : Cursor, (c.remaining db = [] ∧ next (.running c) = .ok none) ∨
      ∃ r c', c.remaining db = r :: c'.remaining db ∧
        next (.running c) = (f r).map fun a => some (a, HeaderScan.running c')) :
    runScan next (db.store.rows.length + 1) (.fresh first last) =
      collect f (db.store.range low.le high) := by
  have hrun : runScan next (db.store.rows.length + 1) (.fresh first last) =
      runScan next (db.store.rows.length + 1) (.running (.ofRange low high)) := by
    rw [runScan, runScan, hfresh]
  have hstep : ∀ s, (∃ c, s = .running c) → (s.remaining db = [] ∧ next s = .ok none) ∨
      ∃ r s', (∃ c, s' = .running c) ∧ s.remaining db = r :: s'.remaining db ∧
        next s = (f r).map fun a => some (a, s') := by
    rintro _ ⟨c, rfl⟩
    rcases hrunning c with h | ⟨r, c', hrows, hnext⟩
    · exact Or.inl h
    · exact Or.inr ⟨r, .running c', ⟨c', rfl⟩, hrows, hnext⟩
  have hremaining : (HeaderScan.running (.ofRange low high)).remaining db =
      db.store.range low.le high := Cursor.remaining_ofRange db low high
  have hfuel := Nat.lt_succ_of_le (db.store.length_range_le low.le high)
  rw [hrun, runScan_eq_collect (HeaderScan.remaining db) _ hstep ⟨_, rfl⟩ hfuel, hremaining]

section
variable {low high : Octets} (hlow : Layout.heightKey first = .ok low)
  (hhigh : Layout.heightKey last = .ok high) (hle : first ≤ last)
include hlow hhigh hle

/-- The first item of a scan is that of the cursor over the window. -/
theorem HeaderScan.next_fresh :
    HeaderScan.next db (.fresh first last) =
      HeaderScan.next db (.running (.ofRange low high)) := by
  have hcursor : (HeaderScan.fresh first last).cursor = .ok (.ofRange low high) := by
    rw [HeaderScan.cursor, if_neg (by omega), hlow, hhigh]
    rfl
  rw [HeaderScan.next, HeaderScan.next, hcursor]
  rfl

section
variable {e : Failure} (hrefused : (Cursor.ofRange low high).checkFetch db = .error e)
include hrefused

/-- A scan of headers that is refused its first page gives none. -/
theorem HeaderScan.next_of_refused : HeaderScan.next db (.fresh first last) = .error e := by
  rw [HeaderScan.next_fresh hlow hhigh hle, HeaderScan.next, HeaderScan.cursor, Outcome.ok_bind,
    Cursor.next_of_refused hrefused rfl rfl, Outcome.error_bind]

theorem scanHeaders_of_refused : scanHeaders db first last = ([], some e) :=
  runScan_of_error (HeaderScan.next_of_refused hlow hhigh hle hrefused) _

theorem scanBlocks_of_refused : scanBlocks db first last = ([], some e) := by
  refine runScan_of_error ?_ _
  rw [nextBlock, HeaderScan.next_of_refused hlow hhigh hle hrefused, Outcome.error_bind]

end

variable (hread : db.access.allowsReading = true) (hpage : IsPageSize db.pageSize)
include hread hpage

/-- A scan of headers goes over the rows of the height index. -/
theorem scanHeaders_eq :
    scanHeaders db first last = collect (headerOfRow db) (db.store.range low.le high) :=
  runScan_window (HeaderScan.next_fresh hlow hhigh hle) (HeaderScan.next_running hread hpage)

/-- A scan of blocks goes over the rows of the height index. -/
theorem scanBlocks_eq :
    scanBlocks db first last = collect (blockOfRow db) (db.store.range low.le high) := by
  refine runScan_window ?_ (nextBlock_running hread hpage)
  rw [nextBlock, nextBlock, HeaderScan.next_fresh hlow hhigh hle]

end

/-- Reading a window of blocks is a pass over the rows of the height index. -/
theorem readBlocks_eq_mapM (hread : db.access.allowsReading = true) (hpage : IsPageSize db.pageSize)
    {low high : Octets} (hlow : Layout.heightKey first = .ok low)
    (hhigh : Layout.heightKey last = .ok high) (hle : first ≤ last) :
    readBlocks db first last = (db.store.range low.le high).mapM (blockOfRow db) := by
  rw [readBlocks, scanBlocks_eq hlow hhigh hle hread hpage, allOf_collect]

-- ---------------------------------------------------------------------------
-- The height index
-- ---------------------------------------------------------------------------

/-- The heights from a first one on, so many of them. -/
def heightsFrom (first : Int) (count : Nat) : List Int :=
  (List.range count).map fun i : Nat => first + (i : Int)

/-- The row of the height index at a height, if there is one. -/
def indexRow (s : Store) (height : Int) : Option Row :=
  match Layout.heightKey height with
  | .ok key => (s.get? key).map fun id => (key, id)
  | .error _ => none

/-- Whether the height index has keys of heights only. -/
def HasHeightKeys (s : Store) : Prop :=
  ∀ suffix, s.get? (Layout.heightTag ++ suffix) ≠ none → suffix.length = Layout.heightWidth

/-- Heights are counted from the first one on. -/
theorem mem_heightsFrom {height : Int} {count : Nat} :
    height ∈ heightsFrom first count ↔ first ≤ height ∧ height < first + count := by
  rw [heightsFrom, List.mem_map]
  constructor
  · rintro ⟨i, hi, rfl⟩
    rw [List.mem_range] at hi
    omega
  · intro h
    exact ⟨(height - first).toNat, List.mem_range.2 (by omega), by omega⟩

theorem pairwise_heightsFrom (first : Int) (count : Nat) :
    (heightsFrom first count).Pairwise (· < ·) := by
  rw [heightsFrom, List.pairwise_map]
  exact List.pairwise_lt_range.imp fun hlt => by omega

/-- The row of a height is what the store has under its key. -/
theorem indexRow_eq_some {s : Store} {height : Int} {r : Row} :
    indexRow s height = some r ↔ Layout.heightKey height = .ok r.1 ∧ s.get? r.1 = some r.2 := by
  rw [indexRow]
  cases Layout.heightKey height with
  | error e => exact iff_of_false nofun fun h => nomatch h.1
  | ok key =>
    rw [Option.map_eq_some_iff, Except.ok.injEq]
    constructor
    · rintro ⟨id, hid, rfl⟩
      exact ⟨rfl, hid⟩
    · rintro ⟨rfl, hget⟩
      exact ⟨r.2, hget, rfl⟩

/-- A row in a range of such an index lies under the key of a height. -/
theorem exists_height_of_mem_range {s : Store} (hkeys : HasHeightKeys s) {low high : Octets}
    (hlow : Layout.heightKey first = .ok low) (hhigh : Layout.heightKey last = .ok high) {r : Row}
    (h : r ∈ s.range low.le high) : ∃ height, Layout.heightKey height = .ok r.1 := by
  obtain ⟨hrow, hge, hle⟩ := Store.mem_range.1 h
  obtain ⟨suffix, hsuffix⟩ :=
    Layout.exists_append_of_heights hlow hhigh (Octets.le_iff.1 hge) hle
  have hlength : suffix.length = Layout.heightWidth := by
    refine hkeys suffix ?_
    rw [← hsuffix, Store.mem_rows_iff.1 hrow]
    exact nofun
  exact ⟨Octets.toNat suffix, hsuffix ▸ Layout.heightKey_toNat hlength⟩

/-- The rows of the index in a range of heights are those of the heights. -/
theorem range_heights {s : Store} (hkeys : HasHeightKeys s) {low high : Octets}
    (hlow : Layout.heightKey first = .ok low) (hhigh : Layout.heightKey last = .ok high) :
    s.range low.le high = (heightsFrom first (last + 1 - first).toNat).filterMap (indexRow s) := by
  have hascending : Ascending
      ((heightsFrom first (last + 1 - first).toNat).filterMap (indexRow s)) := by
    refine List.pairwise_filterMap.2 ((pairwise_heightsFrom _ _).imp ?_)
    intro height height' hlt r hr r' hr'
    exact (Layout.heightKey_lt_iff (indexRow_eq_some.1 hr).1 (indexRow_eq_some.1 hr').1).2 hlt
  -- both sides ascend, so it is enough that they have the same members
  refine (s.ascending_range _ _).eq_of_mem_iff hascending fun r => ?_
  rw [List.mem_filterMap]
  constructor
  · intro hr
    obtain ⟨height, hkey⟩ := exists_height_of_mem_range hkeys hlow hhigh hr
    obtain ⟨hrow, hge, hle⟩ := Store.mem_range.1 hr
    refine ⟨height, mem_heightsFrom.2 ?_, indexRow_eq_some.2 ⟨hkey, Store.mem_rows_iff.1 hrow⟩⟩
    have hfirst := (Layout.heightKey_le_iff hlow hkey).1 (Octets.le_iff.1 hge)
    have hlast := (Layout.heightKey_le_iff hkey hhigh).1 hle
    omega
  · rintro ⟨height, hheight, hr⟩
    obtain ⟨hkey, hget⟩ := indexRow_eq_some.1 hr
    have hbounds := mem_heightsFrom.1 hheight
    exact Store.mem_range.2 ⟨Store.mem_rows_iff.2 hget,
      Octets.le_iff.2 ((Layout.heightKey_le_iff hlow hkey).2 hbounds.1),
      (Layout.heightKey_le_iff hkey hhigh).2 (by omega)⟩

-- ---------------------------------------------------------------------------
-- Blocks by height
-- ---------------------------------------------------------------------------

/-- The block at a height, if the index has an entry for it. -/
def blockAt (db : Database) (height : Int) : Except Failure (Option Block) := do
  match ← headerAt db height with
  | none => return none
  | some header => return some (header, ← transactionsOf db header.id)

/-- Where the index has no row, there is no block. -/
theorem blockAt_of_none (hread : db.access.allowsReading = true) {height : Int} {key : Octets}
    (hkey : Layout.heightKey height = .ok key) (h : indexRow db.store height = none) :
    blockAt db height = .ok none := by
  have hget : db.store.get? key = none := by
    rw [indexRow, hkey] at h
    exact Option.map_eq_none_iff.1 h
  rw [blockAt, headerAt, hkey, Outcome.ok_bind, Database.get_of_allowsReading hread, hget]
  rfl

/-- Where the index has a row, the block is the one that the row leads to. -/
theorem blockAt_of_some (hread : db.access.allowsReading = true) {height : Int} {r : Row}
    (h : indexRow db.store height = some r) :
    blockAt db height = (blockOfRow db r).map some := by
  obtain ⟨hkey, hget⟩ := indexRow_eq_some.1 h
  rw [blockAt, headerAt, hkey, Outcome.ok_bind, Database.get_of_allowsReading hread, hget,
    blockOfRow]
  simp only [Outcome.ok_bind]
  cases headerOfRow db (r.1, r.2) with
  | error e => rfl
  | ok header =>
    simp only [Outcome.ok_bind, pure_bind]
    cases transactionsOf db header.id <;> rfl

/-- **All blocks.** Reading the blocks of a range looks up one height after the other, whatever the
page size, if the height index has keys of heights only. -/
theorem readBlocks_eq (hread : db.access.allowsReading = true) (hpage : IsPageSize db.pageSize)
    (hkeys : HasHeightKeys db.store) (hfirst : 0 ≤ first) (hle : first ≤ last)
    (hlast : last ≤ Layout.maxHeight) :
    readBlocks db first last =
      ((heightsFrom first (last + 1 - first).toNat).mapM (blockAt db)).map
        List.reduceOption := by
  have hkey : ∀ height, first ≤ height → height ≤ last →
      ∃ key, Layout.heightKey height = .ok key :=
    fun height hge hle => ⟨_, Layout.heightKey_eq_ok.2 ⟨⟨by omega, by omega⟩, rfl⟩⟩
  obtain ⟨low, hlow⟩ := hkey first (Int.le_refl _) hle
  obtain ⟨high, hhigh⟩ := hkey last hle (Int.le_refl _)
  have hvalid : ∀ height ∈ heightsFrom first (last + 1 - first).toNat,
      ∃ key, Layout.heightKey height = .ok key := by
    intro height hheight
    have hbounds := mem_heightsFrom.1 hheight
    exact hkey height hbounds.1 (by omega)
  rw [readBlocks_eq_mapM hread hpage hlow hhigh hle, range_heights hkeys hlow hhigh]
  -- the heights in order, each with its row or without
  generalize heightsFrom first (last + 1 - first).toNat = heights at hvalid
  induction heights with
  | nil => rfl
  | cons height rest ih =>
    have hrest := ih fun h hh => hvalid h (List.mem_cons_of_mem height hh)
    obtain ⟨key, hkey⟩ := hvalid height List.mem_cons_self
    rw [List.mapM_cons]
    cases hrow : indexRow db.store height with
    | none =>
      rw [List.filterMap_cons_none hrow, hrest, blockAt_of_none hread hkey hrow]
      cases rest.mapM (blockAt db) <;> rfl
    | some r =>
      rw [List.filterMap_cons_some hrow, List.mapM_cons, hrest, blockAt_of_some hread hrow]
      cases blockOfRow db r with
      | error e => rfl
      | ok block => cases rest.mapM (blockAt db) <;> rfl

end Regenesis.Snapshot

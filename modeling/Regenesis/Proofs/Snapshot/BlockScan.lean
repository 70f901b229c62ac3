import Mathlib
import Regenesis.Proofs.Record.RoundTrip
import Regenesis.Proofs.Snapshot.Blocks
import Regenesis.Proofs.Snapshot.RoundTrip
import Regenesis.Proofs.Snapshot.Window

/-!
# Proofs.Snapshot.BlockScan — blocks of a store with any rows

A scan of blocks follows the rows of the height index whose keys are between those of its first and
its last height. Such a key need not have four bytes behind its beginning, and then the number that
is read from it may be any; so the headers are in the window, one height after the other, as far as
they come from keys of heights: `scanHeaders_window`. What lies under an id need not state that id.
A block is what the links lead to, whatever the records say about themselves: `scanBlocks_links`.
-/

namespace Regenesis.Snapshot

open Record

variable {db : Database} {s : Store} {first last : Int}

-- ---------------------------------------------------------------------------
-- What rows lead to
-- ---------------------------------------------------------------------------

/-- Whether a row of the height index leads to a header at its height. The header may state another
id than the one that leads to it. -/
def IsHeaderOf (s : Store) (r : Row) (header : BlockHeader) : Prop :=
  ∃ value, s.get? (Layout.blockKey r.2) = some value ∧
    blockHeaderSchema.check value = .ok header ∧ header.height = Layout.heightOfKey r.1

/-- Whether a transaction lies under an id. It may state another one. -/
def IsTransactionAt (s : Store) (id : Octets) (t : Transaction) : Prop :=
  ∃ value, s.get? (Layout.transactionKey id) = some value ∧ transactionSchema.check value = .ok t

/-- Whether transactions are those that are listed for the id of a block, in their order. -/
inductive AreListed (s : Store) (id : Octets) : List Transaction → Prop where
  | nothing : s.get? (Layout.blockTransactionsKey id) = none → AreListed s id []
  | ids {ids : Octets} {txs : List Transaction} :
      s.get? (Layout.blockTransactionsKey id) = some ids → ids.length % idLength = 0 →
      List.Forall₂ (IsTransactionAt s) (splitIds ids) txs → AreListed s id txs

/-- Whether a row of the height index leads to a block. Its transactions are those that are listed
for the id that its header states. -/
def IsBlockOf (s : Store) (r : Row) (b : Block) : Prop :=
  IsHeaderOf s r b.1 ∧ AreListed s b.1.id b.2

section
variable (hread : db.access.allowsReading = true)
include hread

/-- A header is found under its key, and checked. -/
theorem headerOf_eq_some {id : Octets} {header : BlockHeader} :
    headerOf db id = .ok (some header) ↔ ∃ value,
      db.store.get? (Layout.blockKey id) = some value ∧
        blockHeaderSchema.check value = .ok header := by
  unfold headerOf
  rw [Database.get_of_allowsReading hread, Outcome.ok_bind]
  cases db.store.get? (Layout.blockKey id) with
  | none => exact iff_of_false nofun fun ⟨_, h, _⟩ => nomatch h
  | some value =>
    simp only [Outcome.bind_pure_eq_ok, Schema.decode_eq_ok, Option.some.injEq]
    constructor
    · rintro ⟨_, hcheck, rfl⟩
      exact ⟨value, rfl, hcheck⟩
    · rintro ⟨_, rfl, hcheck⟩
      exact ⟨header, hcheck, rfl⟩

/-- A row leads to the header that lies under its id, at the height of its key. -/
theorem headerOfRow_eq_ok_iff {r : Row} {header : BlockHeader} :
    headerOfRow db r = .ok header ↔ IsHeaderOf db.store r header := by
  -- apart from a header that is absent, only another height makes the row fail
  have hstated : headerOfRow db r = .ok header ↔
      headerOf db r.2 = .ok (some header) ∧ header.height = Layout.heightOfKey r.1 := by
    rw [headerOfRow, Outcome.bind_eq_ok]
    constructor
    · rintro ⟨found, hfound, h⟩
      cases found with
      | none => cases h
      | some stored =>
        dsimp only at h
        split at h
        · obtain ⟨_, -, h⟩ := Outcome.bind_eq_ok.1 h
          cases h
        · rename_i hheight
          obtain rfl := Except.ok.inj h
          exact ⟨hfound, not_not.1 hheight⟩
    · rintro ⟨hfound, hheight⟩
      exact ⟨some header, hfound, if_neg (not_not.2 hheight)⟩
  rw [hstated, headerOf_eq_some hread]
  unfold IsHeaderOf
  constructor
  · rintro ⟨⟨value, hget, hcheck⟩, hheight⟩
    exact ⟨value, hget, hcheck, hheight⟩
  · rintro ⟨value, hget, hcheck, hheight⟩
    exact ⟨⟨value, hget, hcheck⟩, hheight⟩

/-- A transaction is found under its key, and checked. -/
theorem transactionOf_eq_ok {id : Octets} {t : Transaction} :
    transactionOf db id = .ok t ↔ IsTransactionAt db.store id t := by
  unfold transactionOf IsTransactionAt
  dsimp only
  rw [Database.get_of_allowsReading hread, Outcome.ok_bind]
  cases db.store.get? (Layout.transactionKey id) with
  | none => exact iff_of_false nofun fun ⟨_, h, _⟩ => nomatch h
  | some value =>
    simp only [Schema.decode_eq_ok, Option.some.injEq]
    constructor
    · exact fun hcheck => ⟨value, rfl, hcheck⟩
    · rintro ⟨_, rfl, hcheck⟩
      exact hcheck

/-- The transactions of an id are those that are listed for it. -/
theorem transactionsOf_eq_ok {id : Octets} {txs : List Transaction} :
    transactionsOf db id = .ok txs ↔ AreListed db.store id txs := by
  unfold transactionsOf
  dsimp only
  rw [Database.get_of_allowsReading hread, Outcome.ok_bind]
  cases hids : db.store.get? (Layout.blockTransactionsKey id) with
  | none =>
    constructor
    · intro h
      rw [← Except.ok.inj h]
      exact .nothing hids
    · intro h
      cases h with
      | nothing _ => rfl
      | ids hids' _ _ => exact nomatch hids.symm.trans hids'
  | some ids =>
    -- the pieces are read one by one, each as a transaction of its own
    have hpass : (splitIds ids).mapM (transactionOf db) = .ok txs ↔
        List.Forall₂ (IsTransactionAt db.store) (splitIds ids) txs := by
      simp only [Outcome.mapM_eq_ok, transactionOf_eq_ok hread]
    constructor
    · intro h
      dsimp only at h
      split at h
      · exact nomatch h
      · rename_i hlength
        exact .ids hids (not_not.1 hlength) (hpass.1 h)
    · intro h
      cases h with
      | nothing hnone => exact nomatch hids.symm.trans hnone
      | ids hids' hlength htxs =>
        obtain rfl := Option.some.inj (hids.symm.trans hids')
        exact (if_neg (not_not.2 hlength)).trans (hpass.2 htxs)

/-- **Blocks of rows.** A row leads to the block that the links make of it. -/
theorem blockOfRow_eq_ok {r : Row} {b : Block} :
    blockOfRow db r = .ok b ↔ IsBlockOf db.store r b := by
  unfold blockOfRow IsBlockOf
  simp only [Outcome.bind_eq_ok, headerOfRow_eq_ok_iff hread, transactionsOf_eq_ok hread]
  constructor
  · rintro ⟨header, hheader, txs, htxs, h⟩
    obtain rfl := Except.ok.inj h
    exact ⟨hheader, htxs⟩
  · rintro ⟨hheader, htxs⟩
    exact ⟨b.1, hheader, b.2, htxs, rfl⟩

end

-- ---------------------------------------------------------------------------
-- Heights
-- ---------------------------------------------------------------------------

/-- Whether a key is that of a height. -/
def IsHeightKey (key : Octets) : Prop := ∃ height, Layout.heightKey height = .ok key

/-- The key of a height leads to a header that states this height. -/
theorem LeadsTo.heightKey_eq {key : Octets} {header : BlockHeader} (h : LeadsTo s key header)
    (hkey : IsHeightKey key) : Layout.heightKey header.height = .ok key := by
  obtain ⟨height, hheight⟩ := hkey
  obtain ⟨_, _, -, -, -, hstated⟩ := h
  rwa [hstated, Layout.heightOfKey_heightKey hheight]

section
variable (hread : db.access.allowsReading = true) (hpage : 1 ≤ db.pageSize)
include hread hpage

/-- The headers of a scan, each with the row of the height index that leads to it. -/
theorem exists_rows_of_headers {low high : Octets} (hlow : Layout.heightKey first = .ok low)
    (hhigh : Layout.heightKey last = .ok high) (hle : first ≤ last) :
    ∃ found : List (Row × BlockHeader), found.map Prod.fst <+: db.store.range low.le high ∧
      found.map Prod.snd = (scanHeaders db first last).1 ∧
      ∀ p ∈ found, low ≤ p.1.1 ∧ p.1.1 ≤ high ∧ LeadsTo db.store p.1.1 p.2 := by
  rcases Cursor.isPageSize_or_refused hread hpage with hpage | hrefused
  swap
  · -- without a page there are no headers
    exact ⟨[], List.nil_prefix,
      (congrArg Prod.fst (scanHeaders_of_refused hlow hhigh hle (hrefused _))).symm, nofun⟩
  obtain ⟨before, behind, hrows, hheaders, -⟩ :=
    collect_split (headerOfRow db) (db.store.range low.le high)
  rw [← scanHeaders_eq hlow hhigh hle hread hpage] at hheaders
  obtain ⟨hlength, hzip⟩ := List.forall₂_iff_zip.1 hheaders
  refine ⟨before.zip (scanHeaders db first last).1, ?_,
    List.map_snd_zip (Nat.le_of_eq hlength.symm), ?_⟩
  · rw [List.map_fst_zip (Nat.le_of_eq hlength), hrows]
    exact List.prefix_append before behind
  · intro p hp
    have hmem : p.1 ∈ db.store.range low.le high :=
      hrows ▸ List.mem_append_left _ (List.of_mem_zip hp).1
    obtain ⟨hrow, hge, hle⟩ := Store.mem_range.1 hmem
    exact ⟨Octets.le_iff.1 hge, hle, headerOfRow_eq_ok (Store.mem_rows_iff.1 hrow) (hzip hp)⟩

/-- Blocks are given as far as their headers are. -/
theorem headers_of_scanBlocks {low high : Octets} (hlow : Layout.heightKey first = .ok low)
    (hhigh : Layout.heightKey last = .ok high) (hle : first ≤ last) :
    (scanBlocks db first last).1.map Prod.fst <+: (scanHeaders db first last).1 := by
  rcases Cursor.isPageSize_or_refused hread hpage with hpage | hrefused
  swap
  · rw [scanBlocks_of_refused hlow hhigh hle (hrefused _)]
    exact List.nil_prefix
  rw [scanBlocks_eq hlow hhigh hle hread hpage, scanHeaders_eq hlow hhigh hle hread hpage]
  generalize db.store.range low.le high = rows
  induction rows with
  | nil => exact List.prefix_rfl
  | cons r rest ih =>
    unfold collect blockOfRow
    cases headerOfRow db r with
    | error e => exact List.prefix_rfl
    | ok header =>
      rw [Outcome.ok_bind]
      cases transactionsOf db header.id with
      | error e => exact List.nil_prefix
      | ok txs => exact List.cons_prefix_cons.2 ⟨rfl, ih⟩

/-- Headers that come from keys of heights are in the window, one height after the other. -/
theorem exists_rows_in_window {low high : Octets} (hlow : Layout.heightKey first = .ok low)
    (hhigh : Layout.heightKey last = .ok high) (hle : first ≤ last) :
    ∃ found : List (Row × BlockHeader), found.map Prod.fst <+: db.store.range low.le high ∧
      found.map Prod.snd = (scanHeaders db first last).1 ∧
      (∀ p ∈ found, LeadsTo db.store p.1.1 p.2) ∧
      (∀ p ∈ found, IsHeightKey p.1.1 → first ≤ p.2.height ∧ p.2.height ≤ last) ∧
      found.Pairwise fun p q =>
        IsHeightKey p.1.1 → IsHeightKey q.1.1 → p.2.height < q.2.height := by
  obtain ⟨found, hrows, hheaders, hfound⟩ := exists_rows_of_headers hread hpage hlow hhigh hle
  have hascending : (found.map Prod.fst).Pairwise fun r r' => r.1 < r'.1 :=
    (db.store.ascending_range low.le high).sublist hrows.sublist
  rw [List.pairwise_map] at hascending
  refine ⟨found, hrows, hheaders, fun p hp => (hfound p hp).2.2, fun p hp hkey => ?_, ?_⟩
  · obtain ⟨hge, hle, hleads⟩ := hfound p hp
    have hheight := hleads.heightKey_eq hkey
    exact ⟨(Layout.heightKey_le_iff hlow hheight).1 hge,
      (Layout.heightKey_le_iff hheight hhigh).1 hle⟩
  · refine hascending.imp_of_mem fun {p q} hp hq hlt hkey hkey' => ?_
    have hheight := (hfound p hp).2.2.heightKey_eq hkey
    have hheight' := (hfound q hq).2.2.heightKey_eq hkey'
    exact Int.ofNat_lt.1 ((Layout.heightKey_lt_iff hheight hheight').1 hlt)

end

/-- **The window of a scan.** The headers of a scan come, one each, from the first rows of the
height index that are between the keys of the first and the last height, in their order, and each of
them is at the height that is read from its key. Those that come from keys of heights are in the
window, one height after the other. If there are no other keys, all headers are; and a scan of
blocks gives the same headers, as far as it goes. -/
theorem scanHeaders_window (hread : db.access.allowsReading = true) (hpage : 1 ≤ db.pageSize)
    (hfirst : 0 ≤ first) (hle : first ≤ last) (hlast : last ≤ Layout.maxHeight) :
    ∃ low high, Layout.heightKey first = .ok low ∧ Layout.heightKey last = .ok high ∧
      (∃ found : List (Row × BlockHeader), found.map Prod.fst <+: db.store.range low.le high ∧
        found.map Prod.snd = (scanHeaders db first last).1 ∧
        (∀ p ∈ found, LeadsTo db.store p.1.1 p.2) ∧
        (∀ p ∈ found, IsHeightKey p.1.1 → first ≤ p.2.height ∧ p.2.height ≤ last) ∧
        found.Pairwise fun p q =>
          IsHeightKey p.1.1 → IsHeightKey q.1.1 → p.2.height < q.2.height) ∧
      ((∀ r ∈ db.store.range low.le high, IsHeightKey r.1) →
        (∀ header ∈ (scanHeaders db first last).1,
          first ≤ header.height ∧ header.height ≤ last) ∧
        (scanHeaders db first last).1.Pairwise fun h h' => h.height < h'.height) ∧
      (scanBlocks db first last).1.map Prod.fst <+: (scanHeaders db first last).1 := by
  obtain ⟨low, hlow⟩ := Layout.exists_heightKey ⟨hfirst, by omega⟩
  obtain ⟨high, hhigh⟩ := Layout.exists_heightKey ⟨by omega, hlast⟩
  have hfound := exists_rows_in_window hread hpage hlow hhigh hle
  refine ⟨low, high, hlow, hhigh, hfound, fun hkeys => ?_,
    headers_of_scanBlocks hread hpage hlow hhigh hle⟩
  obtain ⟨found, hrows, hheaders, -, hwindow, hascending⟩ := hfound
  have hkey : ∀ p ∈ found, IsHeightKey p.1.1 := fun p hp =>
    hkeys p.1 (hrows.subset (List.mem_map_of_mem hp))
  rw [← hheaders]
  constructor
  · intro header hheader
    obtain ⟨p, hp, rfl⟩ := List.mem_map.1 hheader
    exact hwindow p hp (hkey p hp)
  · rw [List.pairwise_map]
    exact hascending.imp_of_mem fun hp hq hlt => hlt (hkey _ hp) (hkey _ hq)

/-- A plain header is decoded as it is encoded. -/
theorem check_plainHeader (id generator : Octets) :
    blockHeaderSchema.check (blockHeaderSchema.encode (plainHeader id generator)) =
      .ok (plainHeader id generator) :=
  Schema.decode_eq_ok.1 (Schema.decode_encode_of_yields BlockHeader.lawful rfl (by decide)
    (yields_plainHeader id generator) [])

/-- A store in which five bytes in the height index are read as 308 and lead to the block there. -/
def strayDatabase : Database :=
  ⟨"", .readOnly, 1000, Store.empty.putAll [
    (Layout.heightTag ++ [0, 0, 0, 1, 0x34], [1]),
    (Layout.blockKey [1], blockHeaderSchema.encode (plainHeader [1] [8]))]⟩

/-- A scan of the heights 1 and 2 gives the block at height 308. -/
theorem scanHeaders_leaves_window :
    ¬ ∀ header ∈ (scanHeaders strayDatabase 1 2).1, 1 ≤ header.height ∧ header.height ≤ 2 := by
  have hlow : Layout.heightKey 1 = .ok (Layout.heightTag ++ [0, 0, 0, 1]) := rfl
  have hhigh : Layout.heightKey 2 = .ok (Layout.heightTag ++ [0, 0, 0, 2]) := rfl
  have hrange : strayDatabase.store.range (Layout.heightTag ++ [0, 0, 0, 1]).le
      (Layout.heightTag ++ [0, 0, 0, 2]) = [(Layout.heightTag ++ [0, 0, 0, 1, 0x34], [1])] := rfl
  have hheader : headerOfRow strayDatabase (Layout.heightTag ++ [0, 0, 0, 1, 0x34], [1]) =
      .ok (plainHeader [1] [8]) :=
      (headerOfRow_eq_ok_iff rfl).2 ⟨_, rfl, check_plainHeader [1] [8], rfl⟩
  rw [scanHeaders_eq hlow hhigh (by decide) rfl (by decide), hrange, collect, hheader]
  intro h
  exact absurd (h _ List.mem_cons_self).2 (by decide)

/-- 32 bytes that are all 9. -/
def nines : Octets := List.replicate idLength 9

/-- A transaction that moves nothing. -/
def plainTransaction (id : Octets) : Transaction := ⟨id, "token", "transfer", 0, 0, [], []⟩

/-- A store in which the block at height 308, with one transaction, lies under its own ids. -/
def blockDatabase : Database :=
  ⟨"", .readOnly, 1, Store.empty.putAll [
    (Layout.heightTag ++ [0, 0, 1, 0x34], [1]),
    (Layout.blockKey [1], blockHeaderSchema.encode (plainHeader [1] [8])),
    (Layout.blockTransactionsKey [1], nines),
    (Layout.transactionKey nines, transactionSchema.encode (plainTransaction nines))]⟩

/-- The only row of the height index. -/
def blockRow : Row := (Layout.heightTag ++ [0, 0, 1, 0x34], [1])

theorem heightKey_308 : Layout.heightKey 308 = .ok (Layout.heightTag ++ [0, 0, 1, 0x34]) := rfl

theorem range_blockDatabase :
    blockDatabase.store.range (Layout.heightTag ++ [0, 0, 1, 0x34]).le
      (Layout.heightTag ++ [0, 0, 1, 0x34]) = [blockRow] := rfl

/-- The header under its own height is given, and no other. -/
theorem scanHeaders_window_block :
    plainHeader [1] [8] ∈ (scanHeaders blockDatabase 308 308).1 ∧
      ∀ header ∈ (scanHeaders blockDatabase 308 308).1, (header.height : Int) = 308 := by
  constructor
  · have hheader : headerOfRow blockDatabase blockRow = .ok (plainHeader [1] [8]) :=
      (headerOfRow_eq_ok_iff rfl).2 ⟨_, rfl, check_plainHeader [1] [8], rfl⟩
    rw [scanHeaders_eq heightKey_308 heightKey_308 (by decide) rfl (by decide),
      range_blockDatabase, collect, hheader]
    exact List.mem_cons_self
  · obtain ⟨low, high, hlow, hhigh, -, hwindow, -⟩ :=
      @scanHeaders_window blockDatabase 308 308 rfl (by decide) (by decide) (by decide) (by decide)
    obtain rfl := Except.ok.inj (heightKey_308.symm.trans hlow)
    obtain rfl := Except.ok.inj (heightKey_308.symm.trans hhigh)
    rw [range_blockDatabase] at hwindow
    obtain ⟨hbounds, -⟩ := hwindow fun r hr => ⟨308, List.mem_singleton.1 hr ▸ heightKey_308⟩
    intro header hheader
    obtain ⟨hge, hle⟩ := hbounds header hheader
    omega

-- ---------------------------------------------------------------------------
-- Ids
-- ---------------------------------------------------------------------------

/-- Whether the header that lies under the id in a row, and the transactions that are listed for
this id, state the ids that they lie under. -/
structure StatesOwnIds (s : Store) (r : Row) : Prop where
  header : ∀ {value header}, s.get? (Layout.blockKey r.2) = some value →
    blockHeaderSchema.check value = .ok header → header.id = r.2
  transaction : ∀ {ids id value t}, s.get? (Layout.blockTransactionsKey r.2) = some ids →
    id ∈ splitIds ids → s.get? (Layout.transactionKey id) = some value →
    transactionSchema.check value = .ok t → t.id = id

section
variable {r : Row} (hids : StatesOwnIds s r)
include hids

/-- The header of a row has the id of the row. -/
theorem id_of_isHeaderOf {header : BlockHeader} (h : IsHeaderOf s r header) :
    header.id = r.2 := by
  obtain ⟨value, hget, hcheck, -⟩ := h
  exact hids.header hget hcheck

/-- The transactions that are listed for the id of a row have the listed ids. -/
theorem ids_of_areListed {ids : Octets} {txs : List Transaction} (h : AreListed s r.2 txs)
    (hget : s.get? (Layout.blockTransactionsKey r.2) = some ids) :
    txs.map Transaction.id = splitIds ids := by
  cases h with
  | nothing hnone => exact nomatch hget.symm.trans hnone
  | ids hget' _ htxs =>
    obtain rfl := Option.some.inj (hget.symm.trans hget')
    have hlisted := (List.forall₂_and_left (splitIds ids) txs).2 ⟨fun _ hid => hid, htxs⟩
    rw [← List.forall₂_eq_eq_eq, List.forall₂_map_left_iff]
    refine List.Forall₂.flip (hlisted.imp fun id t h => ?_)
    obtain ⟨hid, value, hvalue, hcheck⟩ := h
    exact hids.transaction hget hid hvalue hcheck

/-- Of a block whose records state their ids, every link is by these ids. -/
theorem ids_of_isBlockOf {b : Block} (h : IsBlockOf s r b) :
    b.1.id = r.2 ∧ AreListed s r.2 b.2 ∧ ∀ ids,
      s.get? (Layout.blockTransactionsKey r.2) = some ids →
      b.2.map Transaction.id = splitIds ids := by
  obtain ⟨hheader, htxs⟩ := h
  have hid := id_of_isHeaderOf hids hheader
  rw [hid] at htxs
  exact ⟨hid, htxs, fun ids => ids_of_areListed hids htxs⟩

end

/-- **The links of a scan.** The blocks of a scan come, one each, from the first rows of the height
index that are between the keys of the first and the last height, in their order. Each consists of
the header that lies under the id in its row, at the height of the row's key, and of the
transactions that are listed for the id that this header states, one for each 32 bytes of the list,
in its order. In pages of a size that the store takes, the scan goes as far as rows lead to blocks,
whatever ids the records state. If the records that a row leads to state the ids that they lie
under, the header of its block has the id in the row, and the transactions have the listed ids. -/
theorem scanBlocks_links (hread : db.access.allowsReading = true) (hpage : IsPageSize db.pageSize)
    (hfirst : 0 ≤ first) (hle : first ≤ last) (hlast : last ≤ Layout.maxHeight) :
    ∃ low high before behind, Layout.heightKey first = .ok low ∧
      Layout.heightKey last = .ok high ∧ db.store.range low.le high = before ++ behind ∧
      List.Forall₂ (IsBlockOf db.store) before (scanBlocks db first last).1 ∧
      ((behind = [] ∧ (scanBlocks db first last).2 = none) ∨
        ∃ r rest e, behind = r :: rest ∧ (∀ b, ¬ IsBlockOf db.store r b) ∧
          (scanBlocks db first last).2 = some e) ∧
      List.Forall₂ (fun r b => StatesOwnIds db.store r →
        b.1.id = r.2 ∧ AreListed db.store r.2 b.2 ∧
          ∀ ids, db.store.get? (Layout.blockTransactionsKey r.2) = some ids →
            b.2.map Transaction.id = splitIds ids) before (scanBlocks db first last).1 := by
  obtain ⟨low, hlow⟩ := Layout.exists_heightKey ⟨hfirst, by omega⟩
  obtain ⟨high, hhigh⟩ := Layout.exists_heightKey ⟨by omega, hlast⟩
  obtain ⟨before, behind, hrows, hblocks, hend⟩ :=
    collect_split (blockOfRow db) (db.store.range low.le high)
  rw [← scanBlocks_eq hlow hhigh hle hread hpage] at hblocks hend
  simp only [blockOfRow_eq_ok hread] at hblocks
  refine ⟨low, high, before, behind, hlow, hhigh, hrows, hblocks, ?_,
    hblocks.imp fun r b hblock hids => ids_of_isBlockOf hids hblock⟩
  refine hend.imp id ?_
  rintro ⟨r, rest, e, hbehind, he, hfailure⟩
  refine ⟨r, rest, e, hbehind, fun b hb => ?_, hfailure⟩
  rw [(blockOfRow_eq_ok hread).2 hb] at he
  exact nomatch he

/-- A transaction that moves nothing is decoded as it is encoded. -/
theorem check_plainTransaction (id : Octets) :
    transactionSchema.check (transactionSchema.encode (plainTransaction id)) =
      .ok (plainTransaction id) := by
  refine Schema.check_encode Transaction.lawful ?_ rfl
  have hzero : Json.Token.isShort (some Decimal.maxDigits) 0 = true := by decide
  simp [plainTransaction, transactionSchema, Transaction.toJson, hexJson, natJson, Table.keys,
    hzero]

/-- The block at height 308 lies under its own ids. -/
theorem statesOwnIds_blockRow : StatesOwnIds blockDatabase.store blockRow := by
  constructor
  · intro value header hget hcheck
    have hvalue : blockDatabase.store.get? (Layout.blockKey blockRow.2) =
        some (blockHeaderSchema.encode (plainHeader [1] [8])) := rfl
    rw [← Option.some.inj (hvalue.symm.trans hget), check_plainHeader] at hcheck
    rw [← Checked.ok.inj hcheck]
    rfl
  · intro ids id value t hids hid hget hcheck
    have hnines : splitIds nines = [nines] := rfl
    obtain rfl : nines = ids := Option.some.inj hids
    rw [hnines, List.mem_singleton] at hid
    rw [hid] at hget ⊢
    have hvalue : blockDatabase.store.get? (Layout.transactionKey nines) =
        some (transactionSchema.encode (plainTransaction nines)) := rfl
    rw [← Option.some.inj (hvalue.symm.trans hget), check_plainTransaction] at hcheck
    rw [← Checked.ok.inj hcheck]
    rfl

/-- The row leads to the block at height 308 with its transaction. -/
theorem isBlockOf_blockRow :
    IsBlockOf blockDatabase.store blockRow (plainHeader [1] [8], [plainTransaction nines]) := by
  have hlisted : IsTransactionAt blockDatabase.store nines (plainTransaction nines) :=
    ⟨_, rfl, check_plainTransaction nines⟩
  exact ⟨⟨_, rfl, check_plainHeader [1] [8], rfl⟩, .ids rfl rfl (.cons hlisted .nil)⟩

/-- A block whose records state their own ids is given with these ids. -/
theorem scanBlocks_links_block :
    StatesOwnIds blockDatabase.store blockRow ∧
      (plainHeader [1] [8], [plainTransaction nines]) ∈ (scanBlocks blockDatabase 308 308).1 ∧
      ∀ b ∈ (scanBlocks blockDatabase 308 308).1,
        b.1.id = [1] ∧ b.2.map Transaction.id = [nines] := by
  refine ⟨statesOwnIds_blockRow, ?_, ?_⟩
  · rw [scanBlocks_eq heightKey_308 heightKey_308 (by decide) rfl (by decide),
      range_blockDatabase, collect, (blockOfRow_eq_ok rfl).2 isBlockOf_blockRow]
    exact List.mem_cons_self
  · obtain ⟨low, high, before, behind, hlow, hhigh, hrows, -, -, hids⟩ :=
      @scanBlocks_links blockDatabase 308 308 rfl (by decide) (by decide) (by decide) (by decide)
    obtain rfl := Except.ok.inj (heightKey_308.symm.trans hlow)
    obtain rfl := Except.ok.inj (heightKey_308.symm.trans hhigh)
    rw [range_blockDatabase] at hrows
    intro b hb
    obtain ⟨r, hr, hlinks⟩ := Pairing.exists_left hids hb
    have hrow : r = blockRow := List.mem_singleton.1 (hrows ▸ List.mem_append_left behind hr)
    obtain ⟨hid, -, htxs⟩ := hlinks (hrow ▸ statesOwnIds_blockRow)
    rw [hrow] at hid htxs
    exact ⟨hid, htxs nines rfl⟩

/-- A store in which the block at height 308 is a header that states another id, and the list for
that id has a transaction that states another id. -/
def foreignDatabase : Database :=
  ⟨"", .readOnly, 1000, Store.empty.putAll [
    (Layout.heightTag ++ [0, 0, 1, 0x34], [1]),
    (Layout.blockKey [1], blockHeaderSchema.encode (plainHeader [2] [8])),
    (Layout.blockTransactionsKey [2], nines),
    (Layout.transactionKey nines, Octets.ofText looseTransfer)]⟩

/-- A scan gives a block and a transaction that state other ids than those they lie under. -/
theorem scanBlocks_gives_foreign_ids :
    foreignDatabase.store.get? (Layout.heightTag ++ [0, 0, 1, 0x34]) = some [1] ∧
      foreignDatabase.store.get? (Layout.blockTransactionsKey [1]) = none ∧
      scanBlocks foreignDatabase 308 308 = ([(plainHeader [2] [8], [transfer])], none) ∧
      (plainHeader [2] [8]).id ≠ [1] ∧ transfer.id ≠ nines := by
  have hrange : foreignDatabase.store.range (Layout.heightTag ++ [0, 0, 1, 0x34]).le
      (Layout.heightTag ++ [0, 0, 1, 0x34]) = [(Layout.heightTag ++ [0, 0, 1, 0x34], [1])] := rfl
  have hblock : IsBlockOf foreignDatabase.store (Layout.heightTag ++ [0, 0, 1, 0x34], [1])
      (plainHeader [2] [8], [transfer]) := by
    have hlisted : IsTransactionAt foreignDatabase.store nines transfer :=
      ⟨_, rfl, Schema.decode_eq_ok.1 (decode_looseTransfer [])⟩
    exact ⟨⟨_, rfl, check_plainHeader [2] [8], rfl⟩,
      .ids rfl rfl (.cons hlisted .nil)⟩
  refine ⟨rfl, rfl, ?_, by decide, by decide⟩
  rw [scanBlocks_eq heightKey_308 heightKey_308 (by decide) rfl (by decide), hrange, collect,
    (blockOfRow_eq_ok rfl).2 hblock]
  rfl

end Regenesis.Snapshot

import Mathlib
import Regenesis.Proofs.Snapshot.BlockScan
import Regenesis.Proofs.Snapshot.Writing

/-!
# Proofs.Snapshot.BlockRoundTrip — a block is read as it was written

A block is put as one row under its height, one under its id, and, if it has transactions, one for
the list of their ids and one for each of them. No two of these rows have the same key, so all of
them are found afterwards, and they lead from the height to the header and from the header's id to
the transactions: `read_of_putBlock`. A block without transactions leaves the list of its id as it
was, so that transactions of an earlier block of this id come back with it: `putBlock_keeps_list`.
-/

namespace Regenesis.Snapshot

open Record

variable {db : Database} {header : BlockHeader} {txs : List Transaction}

-- ---------------------------------------------------------------------------
-- Lists of ids
-- ---------------------------------------------------------------------------

/-- Ids that are written one behind the other are cut apart again. -/
theorem splitIds_flatten {ids : List Octets} (h : ∀ id ∈ ids, id.length = idLength) :
    ids.flatten.length = ids.length * idLength ∧ splitIds ids.flatten = ids := by
  induction ids with
  | nil => exact ⟨rfl, rfl⟩
  | cons id rest ih =>
    obtain ⟨hid, hrest⟩ := List.forall_mem_cons.1 h
    obtain ⟨hlength, hsplit⟩ := ih hrest
    have hpos : 0 < idLength := by decide
    have hcons : (id :: rest).flatten.length = (id :: rest).length * idLength := by
      rw [List.flatten_cons, List.length_append, hid, hlength, List.length_cons, Nat.succ_mul,
        Nat.add_comm]
    refine ⟨hcons, ?_⟩
    rw [splitIds, hlength, Nat.mul_div_cancel _ hpos] at hsplit
    rw [splitIds, hcons, Nat.mul_div_cancel _ hpos, List.length_cons, List.range_succ_eq_map,
      List.map_cons, List.map_map, List.flatten_cons]
    -- the first piece is the first id; behind it the pieces are those of the rest
    congr 1
    · rw [Nat.zero_mul, List.drop_zero, ← hid, List.take_left]
    · refine (List.map_congr_left fun i _ => ?_).trans hsplit
      show ((id ++ rest.flatten).drop ((i + 1) * idLength)).take idLength = _
      rw [Nat.succ_mul, Nat.add_comm, ← List.drop_drop, ← hid, List.drop_left]

-- ---------------------------------------------------------------------------
-- The rows of a block
-- ---------------------------------------------------------------------------

/-- No two rows of a block have the same key. -/
theorem nodup_keys_block (header : BlockHeader) (hnodup : (txs.map Transaction.id).Nodup) :
    (Table.keys ((Call.block header txs).entries.map Entry.row)).Nodup := by
  have hkeys : ∀ {e e' : Entry}, e.tag ≠ e'.tag ∨ e.suffix ≠ e'.suffix → e.row.1 ≠ e'.row.1 := by
    intro e e' hparts hkey
    obtain ⟨htag, hsuffix⟩ := (e.key_eq_iff e'.tag_mem_tags).1 hkey
    exact hparts.elim (· htag) (· hsuffix)
  -- the first rows are each of a kind of their own, the transactions differ in their ids
  have hindex : Layout.heightTag ≠ Layout.blockTag ∧
      Layout.heightTag ≠ Layout.blockTransactionsTag ∧
      Layout.heightTag ≠ Layout.transactionTag := by decide
  have hheader : Layout.blockTag ≠ Layout.blockTransactionsTag ∧
      Layout.blockTag ≠ Layout.transactionTag := by decide
  have hids : Layout.blockTransactionsTag ≠ Layout.transactionTag := by decide
  have htransactions :
      (txs.map Entry.transaction).Pairwise fun e e' => e.row.1 ≠ e'.row.1 := by
    rw [List.pairwise_map]
    exact (List.pairwise_map.1 hnodup).imp fun hne => hkeys (.inr hne)
  have hapart : ∀ e : Entry, e.tag ≠ Layout.transactionTag →
      ∀ e' ∈ txs.map Entry.transaction, e.row.1 ≠ e'.row.1 := by
    intro e htag e' he'
    obtain ⟨t, -, rfl⟩ := List.mem_map.1 he'
    exact hkeys (.inl htag)
  rw [Table.keys, List.map_map, List.Nodup, List.pairwise_map, Call.entries]
  split
  · exact List.pairwise_pair.2 (hkeys (.inl hindex.1))
  · refine .cons ?_ (.cons ?_ (.cons (hapart _ hids) htransactions))
    · exact List.forall_mem_cons.2 ⟨hkeys (.inl hindex.1),
        List.forall_mem_cons.2 ⟨hkeys (.inl hindex.2.1), hapart _ hindex.2.2⟩⟩
    · exact List.forall_mem_cons.2 ⟨hkeys (.inl hheader.1), hapart _ hheader.2⟩

/-- A block puts its id and its header, with or without transactions. -/
theorem subset_entries_block (header : BlockHeader) (txs : List Transaction) :
    [Entry.index header, .header header] ⊆ (Call.block header txs).entries := by
  rw [Call.entries]
  split
  · exact List.Subset.refl _
  · exact List.subset_append_left [Entry.index header, .header header] _

/-- What a block puts is found under its key. -/
theorem get?_block (s : Store) (hnodup : (txs.map Transaction.id).Nodup) {e : Entry}
    (he : e ∈ (Call.block header txs).entries) :
    (s.putAll ((Call.block header txs).entries.map Entry.row)).get? (e.tag ++ e.suffix) =
      some e.value :=
  Store.get?_putAll_of_mem (nodup_keys_block header hnodup) (List.mem_map_of_mem he)

/-- A block without transactions puts nothing where transactions and their lists lie. -/
theorem get?_block_nil (s : Store) (header : BlockHeader) {tag suffix : Octets}
    (htag : tag = Layout.blockTransactionsTag ∨ tag = Layout.transactionTag) :
    (s.putAll ((Call.block header []).entries.map Entry.row)).get? (tag ++ suffix) =
      s.get? (tag ++ suffix) := by
  have hmem : tag ∈ Layout.tags := by
    rcases htag with rfl | rfl <;> decide
  refine Store.get?_putAll_of_forall_ne fun r hr hkey => ?_
  obtain ⟨e, he, rfl⟩ := List.mem_map.1 hr
  obtain ⟨hsame, -⟩ := (e.key_eq_iff hmem).1 hkey
  simp only [Call.entries, List.isEmpty_nil, if_true, List.mem_cons, List.not_mem_nil,
    or_false] at he
  rcases he with rfl | rfl <;> rcases htag with rfl | rfl <;>
    exact absurd hsame (by rw [Entry.tag]; decide)

-- ---------------------------------------------------------------------------
-- Reading
-- ---------------------------------------------------------------------------

theorem floatFree_transaction {t : Transaction} (h : (Json.obj t.params).floatFree = true) :
    t.toJson.floatFree = true := by
  show (true && (true && (true && (true && (true && (true &&
    ((Json.obj t.params).floatFree && true))))))) = true
  rw [h]
  rfl

/-- A decoded transaction without doubles is decoded again from what it is encoded as. -/
theorem check_encode_transaction {t : Transaction} (h : transactionSchema.Yields t)
    (hfloat : (Json.obj t.params).floatFree = true) :
    transactionSchema.check (transactionSchema.encode t) = .ok t := by
  obtain ⟨key, value, hdecode⟩ := h
  have hstorable :=
    Schema.storable_of_check Transaction.lawful (by decide) (Schema.decode_eq_ok.1 hdecode)
  exact Schema.check_encode Transaction.lawful hstorable (floatFree_transaction hfloat)

/-- A header is found at a height if the index leads to it. -/
theorem headerAt_of_isHeaderOf (hread : db.access.allowsReading = true) {height : Int}
    {key id : Octets} (hkey : Layout.heightKey height = .ok key) (hid : db.store.get? key = some id)
    (hheader : IsHeaderOf db.store (key, id) header) :
    headerAt db height = .ok (some header) := by
  rw [headerAt, hkey, Outcome.ok_bind, Database.get_of_allowsReading hread, Outcome.ok_bind, hid]
  exact Outcome.bind_pure_eq_ok.2 ⟨header, (headerOfRow_eq_ok_iff hread).2 hheader, rfl⟩

/-- The height of a block that was put leads to its header. -/
theorem headerAt_block (hread : db.access.allowsReading = true)
    (hheader : blockHeaderSchema.Yields header) (hheight : header.height ≤ Layout.maxHeight)
    (hnodup : (txs.map Transaction.id).Nodup) :
    headerAt { db with store := db.store.putAll ((Call.block header txs).entries.map Entry.row) }
      header.height = .ok (some header) := by
  have hlt := Layout.maxHeight_lt hheight
  rw [Int.toNat_natCast] at hlt
  have hkey : Layout.heightKey header.height = .ok (Entry.index header).row.1 :=
    Layout.heightKey_eq_ok.2 ⟨⟨Int.natCast_nonneg _, hheight⟩, by rw [Int.toNat_natCast]; rfl⟩
  have hindex := subset_entries_block header txs List.mem_cons_self
  have hrecord := subset_entries_block header txs (List.mem_cons_of_mem _ List.mem_cons_self)
  have hback := Schema.decode_encode_of_yields BlockHeader.lawful rfl (by decide) hheader []
  have hstated : header.height = Layout.heightOfKey (Entry.index header).row.1 := by
    show header.height = Layout.heightOfKey (Layout.heightTag ++ _)
    rw [Layout.heightOfKey_append]
    exact (Octets.toNat_bigEndian_of_lt hlt).symm
  refine headerAt_of_isHeaderOf ?_ hkey (get?_block db.store hnodup hindex)
    ⟨_, get?_block db.store hnodup hrecord, Schema.decode_eq_ok.1 hback, hstated⟩
  exact hread

/-- The id of a block leads to its transactions, if there are any. -/
theorem areListed_block (s : Store) (htxs : ∀ t ∈ txs, transactionSchema.Yields t)
    (hfloat : ∀ t ∈ txs, (Json.obj t.params).floatFree = true)
    (hlength : ∀ t ∈ txs, t.id.length = idLength) (hnodup : (txs.map Transaction.id).Nodup)
    (hne : txs ≠ []) :
    AreListed (s.putAll ((Call.block header txs).entries.map Entry.row)) header.id txs := by
  have hentries : (Call.block header txs).entries =
      .index header :: .header header :: .ids header.id txs :: txs.map .transaction :=
    if_neg (by rwa [List.isEmpty_iff])
  have hlist : Entry.ids header.id txs ∈ (Call.block header txs).entries := by simp [hentries]
  have hids : ∀ id ∈ txs.map Transaction.id, id.length = idLength := List.forall_mem_map.2 hlength
  obtain ⟨hflat, hsplit⟩ := splitIds_flatten hids
  refine .ids (get?_block s hnodup hlist) ?_ ?_
  · show (txs.flatMap Transaction.id).length % idLength = 0
    rw [List.flatMap_def, hflat, Nat.mul_mod_left]
  · show List.Forall₂ _ (splitIds (txs.flatMap Transaction.id)) txs
    rw [List.flatMap_def, hsplit, List.forall₂_map_left_iff, List.forall₂_same]
    intro t ht
    have hmem : Entry.transaction t ∈ (Call.block header txs).entries := by
      rw [hentries]
      exact List.mem_append_right [_, _, _] (List.mem_map_of_mem ht)
    exact ⟨_, get?_block s hnodup hmem, check_encode_transaction (htxs t ht) (hfloat t ht)⟩

/-- Without transactions, a block leaves the transactions that any id leads to as they were. -/
theorem transactionsOf_block_nil (db : Database) (header : BlockHeader) (id : Octets) :
    transactionsOf
        { db with store := db.store.putAll ((Call.block header []).entries.map Entry.row) } id =
      transactionsOf db id := by
  refine transactionsOf_congr ?_ ?_ fun _ _ _ _ _ => ?_
  · rfl
  · exact get?_block_nil db.store header (.inl rfl)
  · exact get?_block_nil db.store header (.inr rfl)

/-- The database after a block was put, which is as it was if the block could not be put. -/
def afterPutBlock (db : Database) (header : BlockHeader) (txs : List Transaction) : Database :=
  (putBlock db header txs).toOption.getD db

/-- **Round trip of a block.** A decoded header at a height that keys hold is put with decoded
transactions that have no doubles and ids of 32 bytes, no two of them the same. Whatever the store
held before, the header is then found at its height, and its id leads to the transactions, in their
order, if there are any or the id led to none before. A block without transactions leaves what its
id leads to as it was. A header at a greater height is not put, and nothing is changed. -/
theorem read_of_putBlock (hwrite : db.access = .readWrite)
    (hheader : blockHeaderSchema.Yields header) (htxs : ∀ t ∈ txs, transactionSchema.Yields t)
    (hfloat : ∀ t ∈ txs, (Json.obj t.params).floatFree = true)
    (hlength : ∀ t ∈ txs, t.id.length = idLength) (hnodup : (txs.map Transaction.id).Nodup) :
    (header.height ≤ Layout.maxHeight →
      putBlock db header txs = .ok (afterPutBlock db header txs) ∧
      headerAt (afterPutBlock db header txs) header.height = .ok (some header) ∧
      (txs ≠ [] ∨ transactionsOf db header.id = .ok [] →
        transactionsOf (afterPutBlock db header txs) header.id = .ok txs) ∧
      (txs = [] →
        transactionsOf (afterPutBlock db header txs) header.id = transactionsOf db header.id)) ∧
    (Layout.maxHeight < header.height →
      putBlock db header txs =
        .error (.range (.heightOutside header.height Layout.maxHeight)) ∧
      afterPutBlock db header txs = db) := by
  constructor
  · intro hheight
    have hput : putBlock db header txs = .ok
        { db with store := db.store.putAll ((Call.block header txs).entries.map Entry.row) } :=
      (Call.block header txs).run_eq hwrite (by simpa [Call.writtenHeaders] using hheight)
    have hread : db.access.allowsReading = true := by rw [hwrite]; rfl
    -- no list is written for a block without transactions, so the old one shows through
    have hempty : txs = [] → transactionsOf
        { db with store := db.store.putAll ((Call.block header txs).entries.map Entry.row) }
        header.id = transactionsOf db header.id := by
      rintro rfl
      exact transactionsOf_block_nil db header header.id
    -- the height is checked before anything is put
    rw [afterPutBlock, hput]
    refine ⟨rfl, headerAt_block hread hheader hheight hnodup, fun hsome => ?_, hempty⟩
    by_cases hnil : txs = []
    · have hnone := hsome.resolve_left (not_not.2 hnil)
      rw [hnil] at hempty ⊢
      exact (hempty rfl).trans hnone
    · refine (transactionsOf_eq_ok ?_).2 (areListed_block _ htxs hfloat hlength hnodup hnil)
      exact hread
  · intro hheight
    have hput : putBlock db header txs =
        .error (.range (.heightOutside header.height Layout.maxHeight)) := by
      rw [putBlock, blockRows, Layout.heightKey,
        Layout.checkHeight_of_fits (by omega) (fits_height hheader)]
      rfl
    rw [afterPutBlock, hput]
    exact ⟨rfl, rfl⟩

-- ---------------------------------------------------------------------------
-- A block that is put again
-- ---------------------------------------------------------------------------

theorem yields_plainTransaction (id : Octets) : transactionSchema.Yields (plainTransaction id) :=
  ⟨[], _, Schema.decode_eq_ok.2 (check_plainTransaction id)⟩

theorem floatFree_plainTransaction (id : Octets) :
    (Json.obj (plainTransaction id).params).floatFree = true := rfl

/-- 32 bytes that are all 8. -/
def eights : Octets := List.replicate idLength 8

/-- The block at height 308 is put again, with another transaction in front of the one it had. -/
theorem read_of_putBlock_again :
    ∃ db', putBlock { blockDatabase with access := .readWrite } (plainHeader [1] [7])
        [plainTransaction eights, plainTransaction nines] = .ok db' ∧
      headerAt db' 308 = .ok (some (plainHeader [1] [7])) ∧
      transactionsOf db' [1] = .ok [plainTransaction eights, plainTransaction nines] := by
  obtain ⟨hput, -⟩ := @read_of_putBlock { blockDatabase with access := .readWrite }
    (plainHeader [1] [7]) [plainTransaction eights, plainTransaction nines] rfl
    (yields_plainHeader [1] [7])
    (List.forall_mem_cons.2 ⟨yields_plainTransaction eights,
      List.forall_mem_singleton.2 (yields_plainTransaction nines)⟩)
    (List.forall_mem_cons.2 ⟨floatFree_plainTransaction eights,
      List.forall_mem_singleton.2 (floatFree_plainTransaction nines)⟩)
    (by decide) (by decide)
  obtain ⟨hput, hheader, htxs, -⟩ := hput (by decide)
  exact ⟨_, hput, hheader, htxs (.inl (List.cons_ne_nil _ _))⟩

/-- A block with a transaction is put, and then put again without it: the transaction comes back. -/
theorem putBlock_keeps_list :
    ∃ db db', putBlock (Database.create "" 1000) (plainHeader [1] [8]) [plainTransaction nines] =
        .ok db ∧
      putBlock db (plainHeader [1] [8]) [] = .ok db' ∧
      transactionsOf db' (plainHeader [1] [8]).id = .ok [plainTransaction nines] ∧
      transactionsOf db' (plainHeader [1] [8]).id ≠ .ok [] := by
  have hlisted := @areListed_block (plainHeader [1] [8]) [plainTransaction nines] Store.empty
    (List.forall_mem_singleton.2 (yields_plainTransaction nines))
    (List.forall_mem_singleton.2 (floatFree_plainTransaction nines)) (by decide)
    (List.nodup_singleton _) (List.cons_ne_nil _ _)
  have hread : transactionsOf ⟨"", .readWrite, 1000,
      (Store.empty.putAll ((Call.block (plainHeader [1] [8]) [plainTransaction nines]).entries.map
        Entry.row)).putAll ((Call.block (plainHeader [1] [8]) []).entries.map Entry.row)⟩
      (plainHeader [1] [8]).id = .ok [plainTransaction nines] := by
    refine (transactionsOf_block_nil ⟨_, _, _, _⟩ _ _).trans ?_
    exact (transactionsOf_eq_ok rfl).2 hlisted
  refine ⟨_, _, (Call.block _ _).run_eq rfl (by decide), (Call.block _ _).run_eq rfl (by decide),
    hread, fun hempty => ?_⟩
  exact nomatch Except.ok.inj (hread.symm.trans hempty)

end Regenesis.Snapshot

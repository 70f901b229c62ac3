import Mathlib
import Regenesis.Snapshot.Observation
import Regenesis.Proofs.Outcome
import Regenesis.Proofs.Snapshot.Accounts
import Regenesis.Proofs.Snapshot.Blocks
import Regenesis.Proofs.Snapshot.Load

/-!
# Proofs.Snapshot.Window — the records that a snapshot is read from

Which records are read depends on what was read before: a row of the height index leads to a header,
the header to a list of ids, and each id to a transaction. `Needs` says which keys are reached in
this way from the accounts, the two records about the chain and the heights of the window. A
snapshot and the keys of its validators depend on what lies under these keys, and not on the page
size as long as the store takes it, since the scans go over ranges whose keys are needed:
`load_congr` and `resolveValidatorKeys_congr`.
-/

namespace Regenesis.Snapshot

open Record

-- ---------------------------------------------------------------------------
-- Needed keys
-- ---------------------------------------------------------------------------

section
variable (s : Store) (height previous : Int)

/-- Whether a key is between those of the first and the last height of the window. -/
def IsIndexKey (key : Octets) : Prop :=
  ∃ low high, Layout.heightKey (previous + 1) = .ok low ∧ Layout.heightKey height = .ok high ∧
    low ≤ key ∧ key ≤ high

/-- Whether a key of the height index leads to a header, which states the height of the key. -/
def LeadsTo (key : Octets) (header : BlockHeader) : Prop :=
  ∃ id value, s.get? key = some id ∧ s.get? (Layout.blockKey id) = some value ∧
    blockHeaderSchema.decode (Layout.blockKey id) value = .ok header ∧
    header.height = Layout.heightOfKey key

/-- Whether the window leads to a header. -/
def IsHeader (header : BlockHeader) : Prop :=
  ∃ key, IsIndexKey height previous key ∧ LeadsTo s key header

/-- The keys that are looked up or scanned for a snapshot and the keys of its validators. -/
inductive Needs : Octets → Prop where
  | account {key : Octets} :
      Layout.accountRange.1 ≤ key → key ≤ Layout.accountRange.2 → Needs key
  | unregistered : Needs Layout.unregisteredKey
  | voteWeights : Needs Layout.voteWeightsKey
  | index {key : Octets} : IsIndexKey height previous key → Needs key
  | header {key id : Octets} :
      IsIndexKey height previous key → s.get? key = some id → Needs (Layout.blockKey id)
  | transactionIds {header : BlockHeader} :
      IsHeader s height previous header → Needs (Layout.blockTransactionsKey header.id)
  | transaction {header : BlockHeader} {ids id : Octets} :
      IsHeader s height previous header →
      s.get? (Layout.blockTransactionsKey header.id) = some ids → ids.length % idLength = 0 →
      id ∈ splitIds ids → Needs (Layout.transactionKey id)

end

-- ---------------------------------------------------------------------------
-- Keys that are not needed
-- ---------------------------------------------------------------------------

section
variable {s : Store} {height previous : Int} {key id : Octets}

/-- A key between those of two heights is one of the height index. -/
theorem IsIndexKey.exists_append (h : IsIndexKey height previous key) :
    ∃ x, key = Layout.heightTag ++ x := by
  obtain ⟨low, high, hlow, hhigh, hge, hle⟩ := h
  exact Layout.exists_append_of_heights hlow hhigh hge hle

/-- A needed key is of a kind that the layout knows. -/
theorem Needs.exists_tag (h : Needs s height previous key) :
    ∃ t ∈ Layout.tags, ∃ x, key = t ++ x := by
  cases h with
  | account hlow hhigh => exact ⟨_, by decide, Layout.exists_accountKey_of_mem_range hlow hhigh⟩
  | unregistered | voteWeights => exact ⟨Layout.chainTag, by decide, _, rfl⟩
  | index hindex => exact ⟨_, by decide, hindex.exists_append⟩
  | header => exact ⟨Layout.blockTag, by decide, _, rfl⟩
  | transactionIds => exact ⟨Layout.blockTransactionsTag, by decide, _, rfl⟩
  | transaction => exact ⟨Layout.transactionTag, by decide, _, rfl⟩

/-- A key of the height index is needed in the window only. -/
theorem isIndexKey_of_needs {x : Octets} (h : Needs s height previous (Layout.heightTag ++ x)) :
    IsIndexKey height previous (Layout.heightTag ++ x) := by
  generalize hkey : Layout.heightTag ++ x = key at h ⊢
  cases h with
  | index hindex => exact hindex
  | account hlow hhigh =>
    obtain ⟨y, rfl⟩ := Layout.exists_accountKey_of_mem_range hlow hhigh
    exact absurd (Layout.tag_eq_of_append_eq (by decide) (by decide) hkey) (by decide)
  | unregistered | voteWeights | header | transactionIds | transaction =>
    exact absurd (Layout.tag_eq_of_append_eq (by decide) (by decide) hkey) (by decide)

/-- A header is needed only if the window leads to it. -/
theorem exists_isIndexKey_of_needs (h : Needs s height previous (Layout.blockKey id)) :
    ∃ key, IsIndexKey height previous key ∧ s.get? key = some id := by
  generalize hkey : Layout.blockKey id = key at h
  cases h with
  | header hindex hget =>
    rw [List.append_cancel_left hkey]
    exact ⟨_, hindex, hget⟩
  | account hlow hhigh =>
    obtain ⟨y, rfl⟩ := Layout.exists_accountKey_of_mem_range hlow hhigh
    exact absurd (Layout.tag_eq_of_append_eq (by decide) (by decide) hkey) (by decide)
  | index hindex =>
    obtain ⟨y, rfl⟩ := hindex.exists_append
    exact absurd (Layout.tag_eq_of_append_eq (by decide) (by decide) hkey) (by decide)
  | unregistered | voteWeights | transactionIds | transaction =>
    exact absurd (Layout.tag_eq_of_append_eq (by decide) (by decide) hkey) (by decide)

/-- Keys of other kinds are not needed. -/
theorem not_needs_of_not_prefix (h : ∀ t ∈ Layout.tags, ¬ t <+: key) :
    ¬ Needs s height previous key := by
  intro hneeds
  obtain ⟨t, ht, x, rfl⟩ := hneeds.exists_tag
  exact h t ht (List.prefix_append t x)

end

-- ---------------------------------------------------------------------------
-- Looking up
-- ---------------------------------------------------------------------------

section
variable {db db' : Database} (haccess : db.access.allowsReading = db'.access.allowsReading)
include haccess

theorem get_congr {key : Octets} (h : db.store.get? key = db'.store.get? key) :
    db.get key = db'.get key := by
  rw [Database.get, Database.get, haccess, h]

/-- The header of an id depends on the record under its key. -/
theorem headerOf_congr {id : Octets}
    (h : db.store.get? (Layout.blockKey id) = db'.store.get? (Layout.blockKey id)) :
    headerOf db id = headerOf db' id := by
  rw [headerOf, headerOf, get_congr haccess h]

/-- The header of a row depends on the record that the row leads to. -/
theorem headerOfRow_congr {r : Row}
    (h : db.store.get? (Layout.blockKey r.2) = db'.store.get? (Layout.blockKey r.2)) :
    headerOfRow db r = headerOfRow db' r := by
  rw [headerOfRow, headerOfRow, headerOf_congr haccess h]

/-- A transaction depends on the record under its key. -/
theorem transactionOf_congr {id : Octets}
    (h : db.store.get? (Layout.transactionKey id) = db'.store.get? (Layout.transactionKey id)) :
    transactionOf db id = transactionOf db' id := by
  rw [transactionOf, transactionOf, get_congr haccess h]

/-- The transactions of a block depend on the list of their ids, and on the transactions where the
list can be cut into ids. -/
theorem transactionsOf_congr {id : Octets}
    (hids : db.store.get? (Layout.blockTransactionsKey id) =
      db'.store.get? (Layout.blockTransactionsKey id))
    (htransactions : ∀ ids, db.store.get? (Layout.blockTransactionsKey id) = some ids →
      ids.length % idLength = 0 → ∀ t ∈ splitIds ids,
        db.store.get? (Layout.transactionKey t) = db'.store.get? (Layout.transactionKey t)) :
    transactionsOf db id = transactionsOf db' id := by
  rw [transactionsOf, transactionsOf, ← get_congr haccess hids]
  refine Outcome.bind_congr fun found hfound => ?_
  cases found with
  | none => rfl
  | some ids =>
    dsimp only
    split
    · rfl
    · rename_i hlength
      refine Outcome.mapM_congr fun t ht => transactionOf_congr haccess ?_
      exact htransactions ids (Database.get?_of_get hfound) (not_not.1 hlength) t ht

end

/-- A header that is read at a row is the one to which the key of the row leads. -/
theorem headerOfRow_eq_ok {db : Database} {r : Row} {header : BlockHeader}
    (hget : db.store.get? r.1 = some r.2) (h : headerOfRow db r = .ok header) :
    LeadsTo db.store r.1 header := by
  obtain ⟨found, hfound, h⟩ := Outcome.bind_eq_ok.1 h
  obtain ⟨stored, hstored, hfound⟩ := Outcome.bind_eq_ok.1 hfound
  cases stored with
  | none =>
    obtain rfl := Except.ok.inj hfound
    exact nomatch h
  | some value =>
    obtain ⟨decoded, hdecode, hfound⟩ := Outcome.bind_eq_ok.1 hfound
    obtain rfl := Except.ok.inj hfound
    dsimp only at h
    split at h
    · obtain ⟨_, -, h⟩ := Outcome.bind_eq_ok.1 h
      exact nomatch h
    · rename_i hheight
      obtain rfl := Except.ok.inj h
      exact ⟨r.2, value, hget, Database.get?_of_get hstored, hdecode, not_not.1 hheight⟩

/-- The header that is read at a height is the one to which the key of the height leads, and states
that height. -/
theorem headerAt_eq_some {db : Database} {height : Int} {header : BlockHeader}
    (h : headerAt db height = .ok (some header)) :
    (∃ key, Layout.heightKey height = .ok key ∧ LeadsTo db.store key header) ∧
      header.height = height := by
  obtain ⟨key, hkey, h⟩ := Outcome.bind_eq_ok.1 h
  obtain ⟨found, hfound, h⟩ := Outcome.bind_eq_ok.1 h
  cases found with
  | none => exact nomatch Except.ok.inj h
  | some id =>
    obtain ⟨decoded, hdecoded, h⟩ := Outcome.bind_eq_ok.1 h
    obtain rfl := Option.some.inj (Except.ok.inj h)
    have hleads := headerOfRow_eq_ok (Database.get?_of_get hfound) hdecoded
    refine ⟨⟨key, hkey, hleads⟩, ?_⟩
    obtain ⟨_, _, -, -, -, hheight⟩ := hleads
    rw [hheight, Layout.heightOfKey_heightKey hkey]

-- ---------------------------------------------------------------------------
-- Reading the window
-- ---------------------------------------------------------------------------

section
variable {db db' : Database} {height previous : Int}
  (hagree : ∀ key, Needs db.store height previous key →
    db.store.get? key = db'.store.get? key)
  (haccess : db.access.allowsReading = db'.access.allowsReading)
include hagree haccess

theorem readUnregistered_congr : readUnregistered db = readUnregistered db' := by
  rw [readUnregistered, readUnregistered, get_congr haccess (hagree _ .unregistered)]

theorem readVoteWeights_congr : readVoteWeights db = readVoteWeights db' := by
  rw [readVoteWeights, readVoteWeights, get_congr haccess (hagree _ .voteWeights)]

/-- The header at the height of the snapshot is the last one of the window. -/
theorem headerAt_congr (hrange : checkRange height previous = .ok ()) :
    headerAt db height = headerAt db' height := by
  obtain ⟨hprevious, hlt, hheight⟩ := checkRange_eq_ok.1 hrange
  obtain ⟨low, hlow⟩ : ∃ low, Layout.heightKey (previous + 1) = .ok low :=
    Layout.exists_heightKey ⟨by omega, by omega⟩
  rw [headerAt, headerAt]
  refine Outcome.bind_congr fun key hkey => ?_
  have hindex : IsIndexKey height previous key :=
    ⟨low, key, hlow, hkey, (Layout.heightKey_le_iff hlow hkey).2 (by omega), List.le_refl key⟩
  rw [← get_congr haccess (hagree key (.index hindex))]
  refine Outcome.bind_congr fun found hfound => ?_
  cases found with
  | none => rfl
  | some id =>
    have hheader := hagree _ (.header hindex (Database.get?_of_get hfound))
    exact congrArg (· >>= fun header => pure (some header)) (headerOfRow_congr haccess hheader)

/-- A block of the window depends on needed keys. -/
theorem blockOfRow_congr {r : Row} (hkey : IsIndexKey height previous r.1)
    (hget : db.store.get? r.1 = some r.2) : blockOfRow db r = blockOfRow db' r := by
  rw [blockOfRow, blockOfRow, ← headerOfRow_congr haccess (hagree _ (.header hkey hget))]
  refine Outcome.bind_congr fun header hheader => ?_
  have hwindow : IsHeader db.store height previous header :=
    ⟨r.1, hkey, headerOfRow_eq_ok hget hheader⟩
  rw [transactionsOf_congr haccess (hagree _ (.transactionIds hwindow))
    fun ids hids hlength t ht => hagree _ (.transaction hwindow hids hlength ht)]

variable (hpage : IsPageSize db.pageSize) (hpage' : IsPageSize db'.pageSize)
include hpage hpage'

/-- The accounts depend on the rows in the range of accounts, in pages of any size that is taken. -/
theorem readAccounts_congr : readAccounts db = readAccounts db' := by
  cases hread : db.access.allowsReading with
  | false =>
    have hrefused : ∀ {db : Database}, db.access.allowsReading = false → IsPageSize db.pageSize →
        readAccounts db = .error (.storage (.scan _ _)) := fun hread hpage =>
      readAccounts_of_refused
        (Cursor.checkFetch_of_not_allowsReading hread (isPageSize_iff.1 hpage).2 accountCursor)
    rw [hrefused hread hpage, hrefused (haccess.symm.trans hread) hpage']
  | true =>
    have hrange : db.store.range Layout.accountRange.1.le Layout.accountRange.2 =
        db'.store.range Layout.accountRange.1.le Layout.accountRange.2 :=
      Store.range_congr fun key hlow hhigh => hagree key (.account (Octets.le_iff.1 hlow) hhigh)
    rw [readAccounts_eq hread hpage, readAccounts_eq (haccess.symm.trans hread) hpage', hrange]

/-- **Loading.** A snapshot depends on needed keys. -/
theorem load_congr : load db height previous = load db' height previous := by
  rw [load, load]
  refine Outcome.bind_congr fun _ hrange => ?_
  rw [readAccounts_congr hagree haccess hpage hpage', readUnregistered_congr hagree haccess,
    readVoteWeights_congr hagree haccess, headerAt_congr hagree haccess hrange]

/-- The blocks depend on the rows of the window and on what these lead to. -/
theorem readBlocks_congr (hread : db.access.allowsReading = true)
    (hrange : checkRange height previous = .ok ()) :
    readBlocks db (previous + 1) height = readBlocks db' (previous + 1) height := by
  obtain ⟨hprevious, hlt, hheight⟩ := checkRange_eq_ok.1 hrange
  obtain ⟨low, hfirst⟩ : ∃ low, Layout.heightKey (previous + 1) = .ok low :=
    Layout.exists_heightKey ⟨by omega, by omega⟩
  obtain ⟨high, hlast⟩ : ∃ high, Layout.heightKey height = .ok high :=
    Layout.exists_heightKey ⟨by omega, hheight⟩
  have hindex : ∀ key, low.le key = true → key ≤ high → IsIndexKey height previous key :=
    fun key hlow hhigh => ⟨low, high, hfirst, hlast, Octets.le_iff.1 hlow, hhigh⟩
  rw [readBlocks_eq_mapM hread hpage hfirst hlast (by omega),
    readBlocks_eq_mapM (haccess.symm.trans hread) hpage' hfirst hlast (by omega),
    ← Store.range_congr fun key hlow hhigh => hagree key (.index (hindex key hlow hhigh))]
  refine Outcome.mapM_congr fun r hr => ?_
  obtain ⟨hmem, hlow, hhigh⟩ := Store.mem_range.1 hr
  exact blockOfRow_congr hagree haccess (hindex r.1 hlow hhigh) (Store.mem_rows_iff.1 hmem)

/-- **Validator keys.** So do the keys that were last used for the validators. -/
theorem resolveValidatorKeys_congr (hread : db.access.allowsReading = true)
    (accounts : List Account) :
    resolveValidatorKeys db accounts height previous =
      resolveValidatorKeys db' accounts height previous := by
  rw [resolveValidatorKeys, resolveValidatorKeys]
  refine Outcome.bind_congr fun _ hrange => ?_
  rw [readBlocks_congr hagree haccess hpage hpage' hread hrange]

end

end Regenesis.Snapshot

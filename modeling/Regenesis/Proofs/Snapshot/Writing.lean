import Mathlib
import Regenesis.Snapshot.Writing
import Regenesis.Proofs.Outcome
import Regenesis.Proofs.Snapshot.Blocks
import Regenesis.Proofs.Store.Layout

/-!
# Proofs.Snapshot.Writing — what is found after writing

A history of calls of the writer puts one entry after the other, each under a key that tells its
kind. So what is found under a key is what was last written of that kind under that key:
`get?_writtenStore`, and below it one look-up for every kind of record that a snapshot is made of.
-/

namespace Regenesis.Snapshot

open Record

-- ---------------------------------------------------------------------------
-- Calls
-- ---------------------------------------------------------------------------

/-- A call of the writer. -/
inductive Call where
  | accounts (list : List Account)
  | unregistered (list : List UnregisteredAccount)
  | voteWeights (weights : VoteWeights)
  | block (header : BlockHeader) (txs : List Transaction)

namespace Call

def run (db : Database) : Call → Except Failure Database
  | accounts list => putAccounts db list
  | unregistered list => putUnregistered db list
  | voteWeights weights => putVoteWeights db weights
  | block header txs => putBlock db header txs

-- What a call writes of each kind. Only accounts are written several at a time.

def writtenAccounts : Call → List Account
  | accounts list => list
  | _ => []

def writtenUnregistered : Call → List (List UnregisteredAccount)
  | unregistered list => [list]
  | _ => []

def writtenVoteWeights : Call → List VoteWeights
  | voteWeights weights => [weights]
  | _ => []

def writtenHeaders : Call → List BlockHeader
  | block header _ => [header]
  | _ => []

end Call

/-- Does what calls ask for, one after the other. -/
def write (db : Database) (calls : List Call) : Except Failure Database := calls.foldlM Call.run db

-- ---------------------------------------------------------------------------
-- Entries
-- ---------------------------------------------------------------------------

/-- What a row stands for. -/
inductive Entry where
  | account (a : Account)
  | unregistered (list : List UnregisteredAccount)
  | voteWeights (weights : VoteWeights)
  /-- The id of a block under its height. -/
  | index (h : BlockHeader)
  | header (h : BlockHeader)
  /-- The ids of the transactions of a block. -/
  | ids (block : Octets) (txs : List Transaction)
  | transaction (t : Transaction)

namespace Entry

def tag : Entry → Octets
  | account _ => Layout.accountTag
  | unregistered _ | voteWeights _ => Layout.chainTag
  | index _ => Layout.heightTag
  | header _ => Layout.blockTag
  | ids _ _ => Layout.blockTransactionsTag
  | transaction _ => Layout.transactionTag

/-- What follows the tag in the key of an entry. -/
def suffix : Entry → Octets
  | account a => a.address
  | unregistered _ => Octets.ofText "unregisteredAddresses"
  | voteWeights _ => Octets.ofText "delegateVoteWeights"
  | index h => Octets.bigEndian Layout.heightWidth h.height
  | header h => h.id
  | ids block _ => block
  | transaction t => t.id

def value : Entry → Octets
  | account a => accountSchema.encode a
  | unregistered list => unregisteredAddressesSchema.encode ⟨list⟩
  | voteWeights weights => voteWeightsSchema.encode weights
  | index h => h.id
  | header h => blockHeaderSchema.encode h
  | ids _ txs => txs.flatMap Transaction.id
  | transaction t => transactionSchema.encode t

def row (e : Entry) : Row := (e.tag ++ e.suffix, e.value)

theorem tag_mem_tags (e : Entry) : e.tag ∈ Layout.tags := by
  cases e <;> simp [tag, Layout.tags]

/-- The key of an entry tells its tag and what stands behind it. -/
theorem key_eq_iff (e : Entry) {t x : Octets} (ht : t ∈ Layout.tags) :
    e.tag ++ e.suffix = t ++ x ↔ e.tag = t ∧ e.suffix = x := by
  constructor
  · intro h
    obtain rfl := Layout.tag_eq_of_append_eq e.tag_mem_tags ht h
    exact ⟨rfl, List.append_cancel_left h⟩
  · rintro ⟨rfl, rfl⟩
    rfl

/-- The account in an entry, if the entry is an account with this address. -/
def accountAt (address : Octets) : Entry → Option Account
  | account a => Option.guard (·.address == address) a
  | _ => none

def unregistered? : Entry → Option (List UnregisteredAccount)
  | unregistered list => some list
  | _ => none

def voteWeights? : Entry → Option VoteWeights
  | voteWeights weights => some weights
  | _ => none

/-- The header whose id is in an entry, if the entry has the key of this height. -/
def headerAt (height : Nat) : Entry → Option BlockHeader
  | index h => Option.guard (fun h => Octets.bigEndian Layout.heightWidth h.height ==
      Octets.bigEndian Layout.heightWidth height) h
  | _ => none

def headerOf (id : Octets) : Entry → Option BlockHeader
  | header h => Option.guard (·.id == id) h
  | _ => none

end Entry

/-- The entries that a call puts. -/
def Call.entries : Call → List Entry
  | accounts list => list.map .account
  | unregistered list => [.unregistered list]
  | voteWeights weights => [.voteWeights weights]
  | block header txs =>
    if txs.isEmpty then [.index header, .header header]
    else .index header :: .header header :: .ids header.id txs :: txs.map .transaction

/-- What calls leave behind in a store without rows. -/
def writtenStore (calls : List Call) : Store :=
  Store.empty.putAll ((calls.flatMap Call.entries).map Entry.row)

-- ---------------------------------------------------------------------------
-- Writing
-- ---------------------------------------------------------------------------

section
variable {db : Database}

/-- The rows of a block at a height that keys hold are those of its entries. -/
theorem blockRows_eq {header : BlockHeader} (h : header.height ≤ Layout.maxHeight)
    (txs : List Transaction) :
    blockRows header txs = .ok ((Call.block header txs).entries.map Entry.row) := by
  have hkey : Layout.heightKey header.height = .ok (Entry.index header).row.1 :=
    Layout.heightKey_eq_ok.2 ⟨⟨Int.natCast_nonneg _, h⟩, by rw [Int.toNat_natCast]; rfl⟩
  rw [blockRows, hkey, Outcome.ok_bind, Call.entries]
  split
  · rfl
  · rw [List.map_cons, List.map_cons, List.map_cons, List.map_map]
    rfl

/-- A call puts its entries. -/
theorem Call.run_eq (h : db.access = .readWrite) (c : Call)
    (hheights : ∀ header ∈ c.writtenHeaders, header.height ≤ Layout.maxHeight) :
    c.run db = .ok { db with store := db.store.putAll (c.entries.map Entry.row) } := by
  cases c with
  | accounts list =>
    rw [run, putAccounts, Database.putAll_of_readWrite h, entries, List.map_map]
    rfl
  | unregistered list => exact Database.putAll_of_readWrite h _
  | voteWeights weights => exact Database.putAll_of_readWrite h _
  | block header txs =>
    rw [run, putBlock, blockRows_eq (hheights header List.mem_cons_self), Outcome.ok_bind,
      Database.putAll_of_readWrite h]

/-- Calls put all of their entries. -/
theorem write_eq (h : db.access = .readWrite) (calls : List Call)
    (hheights : ∀ header ∈ calls.flatMap Call.writtenHeaders, header.height ≤ Layout.maxHeight) :
    write db calls =
      .ok { db with
        store := db.store.putAll ((calls.flatMap Call.entries).map Entry.row) } := by
  induction calls generalizing db with
  | nil => rfl
  | cons c rest ih =>
    rw [List.flatMap_cons] at hheights
    have hrun := c.run_eq h fun header hh => hheights header (List.mem_append_left _ hh)
    let db' : Database := { db with store := db.store.putAll (c.entries.map Entry.row) }
    have hrest := ih (show db'.access = .readWrite from h)
      fun header hh => hheights header (List.mem_append_right _ hh)
    have hstep : write db (c :: rest) = write db' rest := by
      rw [write, List.foldlM_cons, hrun]
      rfl
    rw [hstep, hrest, List.flatMap_cons, List.map_append, Store.putAll_append]

/-- **Writing.** Calls for heights that keys hold go well. -/
theorem write_create (name : String) (pageSize : Int) {calls : List Call}
    (hheights : ∀ header ∈ calls.flatMap Call.writtenHeaders, header.height ≤ Layout.maxHeight) :
    write (Database.create name pageSize) calls =
      .ok ⟨name, .readWrite, pageSize, writtenStore calls⟩ :=
  write_eq rfl calls hheights

end

-- ---------------------------------------------------------------------------
-- Finding what was written
-- ---------------------------------------------------------------------------

section
variable {t x : Octets} {β : Type} (part : Entry → Option β) {value : β → Octets}

/-- Of the entries under a key the last one is found. `part` takes out of an entry what is under the
key, and `value` is how it is stored. -/
theorem lookup_rows (ht : t ∈ Layout.tags)
    (hentry : ∀ e : Entry,
      (part e).map value = if e.tag = t ∧ e.suffix = x then some e.value else none)
    (entries : List Entry) :
    (entries.map Entry.row).reverse.lookup (t ++ x) =
      ((entries.filterMap part).getLast?).map value := by
  -- from the end, where the last write stands
  induction entries using List.reverseRecOn with
  | nil => rfl
  | append_singleton entries e ih =>
    have he := hentry e
    rw [List.map_append, List.reverse_append, List.map_singleton, List.reverse_singleton,
      List.singleton_append, Entry.row, List.lookup_cons, ih, List.filterMap_append,
      List.filterMap_cons, List.filterMap_nil]
    split at he
    · rename_i hparts
      have hkey := (e.key_eq_iff ht).2 hparts
      obtain ⟨b, hb, hvalue⟩ := Option.map_eq_some_iff.1 he
      simp only [hb, hkey, beq_self_eq_true, List.getLast?_concat, Option.map_some, hvalue]
    · rename_i hparts
      have hkey := mt (e.key_eq_iff ht).1 hparts
      simp only [Option.map_eq_none_iff.1 he, beq_eq_false_iff_ne.2 (Ne.symm hkey),
        List.append_nil]

/-- **Last write.** Under a key is what was written last of what belongs under it. -/
theorem get?_writtenStore {written : Call → List β} (ht : t ∈ Layout.tags)
    (hentry : ∀ e : Entry,
      (part e).map value = if e.tag = t ∧ e.suffix = x then some e.value else none)
    (hcall : ∀ c : Call, c.entries.filterMap part = written c) (calls : List Call) :
    (writtenStore calls).get? (t ++ x) = ((calls.flatMap written).getLast?).map value := by
  rw [writtenStore, Store.get?_putAll, Store.get?_empty, Option.or_none, lookup_rows part ht hentry,
    List.filterMap_flatMap]
  simp only [hcall]

/-- Of a block, nothing but the header is found by its height or its id. -/
theorem Call.filterMap_block (hids : ∀ block txs, part (.ids block txs) = none)
    (htransaction : ∀ tx, part (.transaction tx) = none) (header : BlockHeader)
    (txs : List Transaction) :
    (block header txs).entries.filterMap part =
      [Entry.index header, .header header].filterMap part := by
  have htxs : (txs.map Entry.transaction).filterMap part = [] := by
    rw [List.filterMap_map, List.filterMap_eq_nil_iff]
    exact fun tx _ => htransaction tx
  rw [entries]
  split
  · rfl
  · rw [List.filterMap_cons, List.filterMap_cons, List.filterMap_cons_none (hids _ _), htxs]
    rfl

/-- Nothing of an entry is under a key with another beginning. -/
theorem Entry.map_none {e : Entry} (h : e.tag ≠ t) :
    (none : Option β).map value = if e.tag = t ∧ e.suffix = x then some e.value else none :=
  (if_neg fun hparts => h hparts.1).symm

end

section
variable (calls : List Call)

/-- A key that leads somewhere is the key of an entry. -/
theorem exists_entry_of_get? {t x : Octets} (ht : t ∈ Layout.tags)
    (h : (writtenStore calls).get? (t ++ x) ≠ none) :
    ∃ e ∈ calls.flatMap Call.entries, e.tag = t ∧ e.suffix = x := by
  obtain ⟨value, hvalue⟩ := Option.ne_none_iff_exists'.1 h
  obtain ⟨e, he, heq⟩ := List.mem_map.1 (Store.mem_of_get?_putAll hvalue)
  exact ⟨e, he, (e.key_eq_iff ht).1 (Prod.mk.inj heq).1⟩

/-- A height index that was written has keys of heights only. -/
theorem hasHeightKeys_writtenStore : HasHeightKeys (writtenStore calls) := by
  intro suffix h
  obtain ⟨e, -, htag, rfl⟩ := exists_entry_of_get? calls (by decide) h
  cases e with
  | index header => exact Octets.length_bigEndian _ _
  | _ => exact absurd htag (by rw [Entry.tag]; decide)

/-- Under the key of an address lies the account that was written last for it. -/
theorem get?_accountKey (address : Octets) :
    (writtenStore calls).get? (Layout.accountKey address) =
      (((calls.flatMap Call.writtenAccounts).filter (·.address == address)).getLast?).map
        accountSchema.encode := by
  rw [List.filter_flatMap]
  refine get?_writtenStore (Entry.accountAt address) (by decide) (fun e => ?_) (fun c => ?_) calls
  · cases e with
    | account a =>
      simp [Entry.accountAt, Option.guard, apply_ite, Entry.tag, Entry.suffix, Entry.value]
    | _ => exact Entry.map_none (by rw [Entry.tag]; decide)
  · cases c with
    | accounts list =>
      rw [Call.entries, List.filterMap_map]
      exact congrFun List.filterMap_eq_filter list
    | unregistered | voteWeights => rfl
    | block header txs =>
      exact Call.filterMap_block (Entry.accountAt address) (fun _ _ => rfl) (fun _ => rfl) header
        txs

/-- The list of unregistered accounts is the one that was written last. -/
theorem get?_unregisteredKey :
    (writtenStore calls).get? Layout.unregisteredKey =
      ((calls.flatMap Call.writtenUnregistered).getLast?).map fun list =>
        unregisteredAddressesSchema.encode ⟨list⟩ := by
  refine get?_writtenStore Entry.unregistered? (by decide) (fun e => ?_) (fun c => ?_) calls
  · cases e with
    | unregistered list => simp [Entry.unregistered?, Entry.tag, Entry.suffix, Entry.value]
    | voteWeights weights => exact (if_neg fun h => absurd h.2 (by rw [Entry.suffix]; decide)).symm
    | _ => exact Entry.map_none (by rw [Entry.tag]; decide)
  · cases c with
    | accounts list => simp [Entry.unregistered?, Call.entries, Call.writtenUnregistered]
    | unregistered | voteWeights => rfl
    | block header txs =>
      exact Call.filterMap_block Entry.unregistered? (fun _ _ => rfl) (fun _ => rfl) header txs

/-- The vote weights are those that were written last. -/
theorem get?_voteWeightsKey :
    (writtenStore calls).get? Layout.voteWeightsKey =
      ((calls.flatMap Call.writtenVoteWeights).getLast?).map voteWeightsSchema.encode := by
  refine get?_writtenStore Entry.voteWeights? (by decide) (fun e => ?_) (fun c => ?_) calls
  · cases e with
    | voteWeights weights => simp [Entry.voteWeights?, Entry.tag, Entry.suffix, Entry.value]
    | unregistered list => exact (if_neg fun h => absurd h.2 (by rw [Entry.suffix]; decide)).symm
    | _ => exact Entry.map_none (by rw [Entry.tag]; decide)
  · cases c with
    | accounts list => simp [Entry.voteWeights?, Call.entries, Call.writtenVoteWeights]
    | unregistered | voteWeights => rfl
    | block header txs =>
      exact Call.filterMap_block Entry.voteWeights? (fun _ _ => rfl) (fun _ => rfl) header txs

/-- Among headers at heights that keys hold, a height leads to the id of the last one. -/
theorem get?_heightKey {height : Int} {key : Octets} (hkey : Layout.heightKey height = .ok key)
    (hheights : ∀ header ∈ calls.flatMap Call.writtenHeaders, header.height ≤ Layout.maxHeight) :
    (writtenStore calls).get? key =
      (((calls.flatMap Call.writtenHeaders).filter (·.height == height)).getLast?).map
        BlockHeader.id := by
  obtain ⟨⟨hzero, hmax⟩, rfl⟩ := Layout.heightKey_eq_ok.1 hkey
  let bytes (n : Nat) : Octets := Octets.bigEndian Layout.heightWidth n
  -- keys compare heights as bytes, which tell heights apart only as far as the bytes reach
  have hsame : ∀ header ∈ calls.flatMap Call.writtenHeaders,
      (bytes header.height == bytes height.toNat) = ((header.height : Int) == height) := by
    intro header hheader
    have hlt := Layout.maxHeight_lt (hheights header hheader)
    rw [Int.toNat_natCast] at hlt
    rw [Bool.eq_iff_iff, beq_iff_eq, beq_iff_eq,
      Octets.bigEndian_inj hlt (Layout.maxHeight_lt hmax)]
    omega
  rw [← List.filter_congr hsame, List.filter_flatMap]
  refine get?_writtenStore (Entry.headerAt height.toNat) (by decide) (fun e => ?_) (fun c => ?_)
    calls
  · cases e with
    | index h =>
      simp [Entry.headerAt, Option.guard, apply_ite, Entry.tag, Entry.suffix, Entry.value]
    | _ => exact Entry.map_none (by rw [Entry.tag]; decide)
  · cases c with
    | accounts list => simp [Entry.headerAt, Call.entries, Call.writtenHeaders]
    | unregistered | voteWeights => rfl
    | block header txs =>
      rw [Call.filterMap_block (Entry.headerAt height.toNat) (fun _ _ => rfl) fun _ => rfl]
      show [header].filterMap (Option.guard (bytes ·.height == bytes height.toNat)) =
        [header].filter (bytes ·.height == bytes height.toNat)
      rw [List.filterMap_eq_filter]

/-- Under the key of an id lies the header that was written last for it. -/
theorem get?_blockKey (id : Octets) :
    (writtenStore calls).get? (Layout.blockKey id) =
      (((calls.flatMap Call.writtenHeaders).filter (·.id == id)).getLast?).map
        blockHeaderSchema.encode := by
  rw [List.filter_flatMap]
  refine get?_writtenStore (Entry.headerOf id) (by decide) (fun e => ?_) (fun c => ?_) calls
  · cases e with
    | header h =>
      simp [Entry.headerOf, Option.guard, apply_ite, Entry.tag, Entry.suffix, Entry.value]
    | _ => exact Entry.map_none (by rw [Entry.tag]; decide)
  · cases c with
    | accounts list => simp [Entry.headerOf, Call.entries, Call.writtenHeaders]
    | unregistered | voteWeights => rfl
    | block header txs =>
      rw [Call.filterMap_block (Entry.headerOf id) (fun _ _ => rfl) fun _ => rfl]
      show [header].filterMap (Option.guard (·.id == id)) = [header].filter (·.id == id)
      rw [List.filterMap_eq_filter]

end

end Regenesis.Snapshot

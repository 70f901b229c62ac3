import Mathlib
import Regenesis.Genesis.Assembly
import Regenesis.Proofs.Address
import Regenesis.Proofs.Assembly.Success
import Regenesis.Proofs.Snapshot.RoundTrip
import Regenesis.Proofs.Stake.Stakers
import Regenesis.Proofs.Table

/-!
# Proofs.Stake.GeneratorKeys — a validator has the key that was seen last

Between two snapshots public keys are seen at the heights of blocks: the key that generated a block,
and behind it the keys of those senders that are delegates. The generator key of a validator is the
last of the keys seen that belong to its address, and the placeholder if there is none
(`generatorKey_of_readAssets`).
-/

namespace Regenesis.Snapshot

open Record

variable {db : Database}

-- ---------------------------------------------------------------------------
-- Keys that are seen
-- ---------------------------------------------------------------------------

/-- The keys that a block shows: its generator's, and in order those of the senders that are
delegates among the accounts. -/
def keysSeenIn (accounts : List Account) (header : BlockHeader) (txs : List Transaction) :
    List Octets :=
  header.generatorPublicKey :: (txs.map Transaction.senderPublicKey).filter fun key =>
    accounts.any fun a => a.isDelegate && a.address == Address.ofPublicKey key

/-- The keys that are seen at a height; none if no block is found there. -/
def keysSeenAt (db : Database) (accounts : List Account) (height : Int) :
    Except Failure (List Octets) := do
  match ← headerAt db height with
  | none => return []
  | some header => return keysSeenIn accounts header (← transactionsOf db header.id)

/-- The keys that are seen at a height are those of the block that is found there. -/
theorem keysSeenAt_of_blockAt {accounts : List Account} {height : Int} {block : Option Block}
    (h : blockAt db height = .ok block) :
    keysSeenAt db accounts height =
      .ok (block.elim [] fun b => keysSeenIn accounts b.1 b.2) := by
  obtain ⟨header, hheader, h⟩ := Outcome.bind_eq_ok.1 h
  rw [keysSeenAt, hheader, Outcome.ok_bind]
  cases header with
  | none =>
    rw [← Except.ok.inj h]
    rfl
  | some header =>
    obtain ⟨txs, htxs, h⟩ := Outcome.bind_eq_ok.1 h
    rw [← Except.ok.inj h]
    simp only [htxs, Outcome.ok_bind]
    rfl

/-- Height by height, keys are seen in the blocks that are found. -/
theorem mapM_keysSeenAt (accounts : List Account) {heights : List Int} {found : List (Option Block)}
    (h : heights.mapM (blockAt db) = .ok found) :
    heights.mapM (keysSeenAt db accounts) =
      .ok (found.map fun block => block.elim [] fun b => keysSeenIn accounts b.1 b.2) := by
  rw [Outcome.mapM_eq_ok, List.forall₂_map_right_iff]
  exact (Outcome.mapM_eq_ok.1 h).imp fun _ _ hblock => keysSeenAt_of_blockAt hblock

/-- What is observed in a block are the keys that it shows, each with its address. -/
theorem observations_eq (accounts : List Account) (block : Block) :
    observations ((accounts.filter Account.isDelegate).map Account.address) block =
      (keysSeenIn accounts block.1 block.2).map Observation.ofKey := by
  have hdelegate : ∀ address, ((accounts.filter Account.isDelegate).map Account.address).contains
      address = accounts.any fun a => a.isDelegate && a.address == address := by
    intro address
    rw [Bool.eq_iff_iff, List.contains_iff_mem, List.any_eq_true]
    simp only [List.mem_map, List.mem_filter, Bool.and_eq_true, beq_iff_eq, and_assoc]
  rw [observations, keysSeenIn, List.map_cons, List.filter_map, List.filter_map, List.map_map]
  simp only [hdelegate]
  rfl

theorem flatten_map_elim {α β : Type} (f : α → List β) (xs : List (Option α)) :
    (xs.map fun x => x.elim [] f).flatten = xs.reduceOption.flatMap f := by
  induction xs with
  | nil => rfl
  | cons x xs ih =>
    rw [List.map_cons, List.flatten_cons, ih]
    cases x with
    | none => rw [List.reduceOption_cons_of_none]; rfl
    | some a => rw [List.reduceOption_cons_of_some, List.flatMap_cons]; rfl

/-- The keys that are found are, of the keys seen in ascending order of heights, the last ones. -/
theorem resolveValidatorKeys_eq_ok (hpage : IsPageSize db.pageSize)
    (hread : db.access.allowsReading = true) (hindex : HasHeightKeys db.store)
    {accounts : List Account} {height previous : Int} {keys : ValidatorKeys}
    (h : resolveValidatorKeys db accounts height previous = .ok keys) :
    ∃ seen, (heightsFrom (previous + 1) (height - previous).toNat).mapM
        (keysSeenAt db accounts) = .ok seen ∧
      keys = Table.ofEntries (seen.flatten.map fun key => (Address.ofPublicKey key, key)) := by
  obtain ⟨_, hrange, h⟩ := Outcome.bind_eq_ok.1 h
  obtain ⟨blocks, hblocks, h⟩ := Outcome.bind_eq_ok.1 h
  obtain ⟨hprevious, hlt, hheight⟩ := checkRange_eq_ok.1 hrange
  have hcount : height + 1 - (previous + 1) = height - previous := by omega
  rw [readBlocks_eq hread hpage hindex (by omega) (by omega) hheight, hcount] at hblocks
  obtain ⟨found, hfound, hblocks⟩ := Outcome.map_eq_ok.1 hblocks
  refine ⟨_, mapM_keysSeenAt accounts hfound, ?_⟩
  have hobserved : blocks.flatMap
      (observations ((accounts.filter Account.isDelegate).map Account.address)) =
        (blocks.flatMap fun b => keysSeenIn accounts b.1 b.2).map Observation.ofKey := by
    rw [List.map_flatMap]
    exact List.flatMap_congr fun b _ => observations_eq accounts b
  rw [flatten_map_elim, hblocks, ← Except.ok.inj h, validatorKeys, lastKeys, hobserved,
    List.map_map]
  rfl

end Regenesis.Snapshot

namespace Regenesis.Genesis

open Record

-- ---------------------------------------------------------------------------
-- Validators
-- ---------------------------------------------------------------------------

namespace Stake

/-- The last of the keys that belong to an address. -/
def lastKeyOf (address : Octets) (seen : List Octets) : Option Octets :=
  (seen.filter fun key => Address.ofPublicKey key == address).getLast?

/-- The last key of an address belongs to it. -/
theorem ofPublicKey_of_lastKeyOf {address key : Octets} {seen : List Octets}
    (h : lastKeyOf address seen = some key) : Address.ofPublicKey key = address :=
  eq_of_beq (List.mem_filter.1 (List.mem_of_getLast? h)).2

/-- A key is looked up under the text of its address. -/
theorem get?_keyTexts (keys : Table Octets Octets) (address : Octets) :
    (keyTexts keys).get? (Hex.encode address) = (keys.get? address).map Hex.encode :=
  Table.get?_map (fun _ _ => Hex.encode_injective) Hex.encode keys address

/-- The generator key of an address is the last of its keys. -/
theorem generatorKey_eq (seen : List Octets) (address : Octets) :
    generatorKey (keyTexts (Table.ofEntries (seen.map fun key => (Address.ofPublicKey key, key))))
        address =
      (lastKeyOf address seen).elim invalidGeneratorKey Hex.encode := by
  have hlast : (Table.ofEntries (seen.map fun key => (Address.ofPublicKey key, key))).get?
      address = lastKeyOf address seen := by
    have hentries := Table.get?_ofEntries_map Address.ofPublicKey id seen address
    rwa [Option.map_id] at hentries
  rw [generatorKey, get?_keyTexts, hlast]
  cases lastKeyOf address seen <;> rfl

end Stake

/-- **Last observation.** Where the assets are read from a store whose height index has keys of
heights only: one validator after the other is that of a delegate, in the order of their addresses,
and its generator key is the last key seen for its address at the heights after the previous
snapshot, up to the snapshot, or the placeholder if none was seen. So a generator key that is not
the placeholder belongs to the validator's own address. -/
theorem generatorKey_of_readAssets {db : Database} {height previous : Int} {n : Network}
    {s : Snapshot} {assets : List Asset} (hpage : 1 ≤ db.pageSize)
    (hindex : Snapshot.HasHeightKeys db.store)
    (h : readAssets db height previous n = .ok (s, assets)) :
    ∃ seen vs ss start,
      (Snapshot.heightsFrom (previous + 1) (height - previous).toNat).mapM
          (Snapshot.keysSeenAt db s.accounts) = .ok seen ∧
      ⟨"pos", Stake.dataJson vs ss start, Stake.descriptor.schema⟩ ∈ assets ∧
      List.Forall₂ (fun a v =>
        Address.toText n.addressLabel a.address = .ok v.address ∧
        v.generatorKey = (Stake.lastKeyOf a.address seen.flatten).elim
          Stake.invalidGeneratorKey Hex.encode ∧
        (v.generatorKey ≠ Stake.invalidGeneratorKey →
          ∃ key, v.generatorKey = Hex.encode key ∧ Address.ofPublicKey key = a.address))
        (byAddress (s.accounts.filter Account.isDelegate)) vs := by
  obtain ⟨s', hload, h⟩ := Outcome.bind_eq_ok.1 h
  obtain ⟨keys, hkeys, h⟩ := Outcome.bind_eq_ok.1 h
  obtain ⟨assets', hassemble, h⟩ := Outcome.bind_eq_ok.1 h
  obtain ⟨rfl, rfl⟩ := Prod.mk.inj (Except.ok.inj h)
  -- the load has succeeded: the store can be read, and its page size can be bound
  have hread := Snapshot.allowsReading_of_load hload
  have hsize := Snapshot.isPageSize_of_load hpage hload
  obtain ⟨seen, hseen, rfl⟩ := Snapshot.resolveValidatorKeys_eq_ok hsize hread hindex hkeys
  obtain ⟨legacy, token, auth, stake, interoperability, -, -, -, hstake, -, rfl⟩ :=
    assemble_eq_ok.1 hassemble
  obtain ⟨vs, ss, start, hvs, -, -, rfl⟩ := Stake.asset_eq_ok.1 hstake
  refine ⟨seen, vs, ss, start, hseen, by simp, ?_⟩
  refine (Outcome.mapM_eq_ok.1 hvs).imp fun a v hv => ?_
  obtain ⟨text, htext, hv⟩ := Outcome.bind_eq_ok.1 hv
  rw [← Except.ok.inj hv]
  have hkey := Stake.generatorKey_eq seen.flatten a.address
  refine ⟨htext, hkey, fun hne => ?_⟩
  dsimp only at hne ⊢
  rw [hkey] at hne ⊢
  -- a key in place of the invalid one was observed, and it has the account's address
  cases hlast : Stake.lastKeyOf a.address seen.flatten with
  | none =>
    rw [hlast] at hne
    exact absurd rfl hne
  | some key => exact ⟨key, rfl, Stake.ofPublicKey_of_lastKeyOf hlast⟩

-- ---------------------------------------------------------------------------
-- A delegate that forges
-- ---------------------------------------------------------------------------

def forgerKey : Octets := [8]

def forger : Account := Snapshot.plainAccount (Address.ofPublicKey forgerKey) "forger"

/-- A history with one delegate, which has generated the block at height 308. -/
def forging : List Snapshot.Call := [
  .accounts [forger],
  .voteWeights (Snapshot.plainVoteWeights forger.address),
  .block (Snapshot.plainHeader [1] forgerKey) []]

/-- The store of the history, read row by row. -/
def forgingDatabase : Database := ⟨"", .readWrite, 1, Snapshot.writtenStore forging⟩

/-- The snapshot at height 309, where there is no block. -/
def forgingSnapshot : Snapshot where
  height := 309
  previousHeight := 307
  block := none
  accounts := [forger]
  legacyAccounts := []
  voteWeights := Snapshot.plainVoteWeights forger.address

theorem length_forgerAddress : forger.address.length = Address.length := by
  show (Address.ofPublicKey forgerKey).length = Address.length
  rw [Address.ofPublicKey, List.length_take, Digest.length_sha256]
  decide

theorem isDecoded_of_mem_forging : ∀ c ∈ forging, c.IsDecoded := by
  simp [forging, forger, Snapshot.Call.isDecoded_iff, Snapshot.Call.writtenAccounts,
    Snapshot.Call.writtenUnregistered, Snapshot.Call.writtenVoteWeights,
    Snapshot.Call.writtenHeaders, Snapshot.yields_plainAccount, Snapshot.yields_plainHeader,
    Snapshot.yields_plainVoteWeights]

theorem allowsReading_forging : forgingDatabase.access.allowsReading = true := rfl

/-- At each height, the store has the header that the history wrote last. -/
theorem headerAt_forging {height : Int} (hzero : 0 ≤ height) (hmax : height ≤ Layout.maxHeight) :
    Snapshot.headerAt forgingDatabase height = .ok (Snapshot.lastHeader forging height) :=
  Snapshot.headerAt_written isDecoded_of_mem_forging rfl rfl (by decide) (by decide) hzero hmax

/-- The snapshot of the history at a height behind 307. -/
def forgingSnapshotAt (height : Int) : Snapshot :=
  { forgingSnapshot with height, block := Snapshot.lastHeader forging height }

/-- Behind height 307 the snapshot of the history can be loaded. -/
theorem load_forgingAt {height : Int} (hlt : 307 < height) (hmax : height ≤ Layout.maxHeight) :
    Snapshot.load forgingDatabase height 307 = .ok (forgingSnapshotAt height) := by
  obtain ⟨accounts, haccounts, hpairwise, hmem⟩ :=
    Snapshot.readAccounts_written isDecoded_of_mem_forging allowsReading_forging rfl (by decide)
  -- the forger's account is the only one that was written
  have hone : ∀ a, a ∈ accounts ↔ a = forger := by
    intro a
    rw [hmem]
    constructor
    · rintro ⟨-, hlast⟩
      exact List.mem_singleton.1 (List.mem_of_mem_filter (List.mem_of_getLast? hlast))
    · rintro rfl
      refine ⟨length_forgerAddress, ?_⟩
      rw [Snapshot.lastAccount]
      simp [forging, Snapshot.Call.writtenAccounts]
  rw [Snapshot.eq_singleton_of_mem_iff hpairwise hone] at haccounts
  exact Snapshot.load_eq_ok.2 ⟨Snapshot.checkRange_eq_ok.2 ⟨by decide, hlt, hmax⟩, rfl, rfl,
    haccounts, Snapshot.readUnregistered_written isDecoded_of_mem_forging rfl rfl,
    Snapshot.readVoteWeights_written isDecoded_of_mem_forging rfl rfl,
    headerAt_forging (by omega) hmax⟩

/-- No block of the history has transactions. -/
theorem transactionsOf_forging (id : Octets) :
    Snapshot.transactionsOf forgingDatabase id = .ok [] := by
  have hget : forgingDatabase.store.get? (Layout.blockTransactionsKey id) = none := by
    by_contra hne
    obtain ⟨e, he, htag, -⟩ := Snapshot.exists_entry_of_get? forging (by decide) hne
    have hentries : forging.flatMap Snapshot.Call.entries = [.account forger,
      .voteWeights (Snapshot.plainVoteWeights forger.address),
      .index (Snapshot.plainHeader [1] forgerKey),
      .header (Snapshot.plainHeader [1] forgerKey)] := rfl
    simp only [hentries, List.mem_cons, List.not_mem_nil, or_false] at he
    rcases he with rfl | rfl | rfl | rfl
    all_goals exact absurd htag (by rw [Snapshot.Entry.tag]; decide)
  rw [Snapshot.transactionsOf, Database.get_of_allowsReading rfl, hget]
  rfl

/-- Of the heights behind 307, there is a block at the first. -/
theorem blockAt_forging :
    (Snapshot.heightsFrom 308 2).mapM (Snapshot.blockAt forgingDatabase) =
      .ok [some (Snapshot.plainHeader [1] forgerKey, []), none] := by
  have hheights : Snapshot.heightsFrom 308 2 = [308, 309] := by decide
  have hfirst : Snapshot.blockAt forgingDatabase 308 =
      .ok (some (Snapshot.plainHeader [1] forgerKey, [])) := by
    rw [Snapshot.blockAt, headerAt_forging (by decide) (by decide), Outcome.ok_bind]
    show (do return some (_, ← Snapshot.transactionsOf forgingDatabase [1])) = _
    rw [transactionsOf_forging]
    rfl
  have hsecond : Snapshot.blockAt forgingDatabase 309 = .ok none := by
    rw [Snapshot.blockAt, headerAt_forging (by decide) (by decide)]
    rfl
  rw [hheights, List.mapM_cons, hfirst, Outcome.ok_bind, List.mapM_cons, hsecond]
  rfl

/-- At no height is the history damaged. -/
theorem exists_blockAt_forging {height : Int} (hzero : 0 ≤ height)
    (hmax : height ≤ Layout.maxHeight) :
    ∃ block, Snapshot.blockAt forgingDatabase height = .ok block := by
  rw [Snapshot.blockAt, headerAt_forging hzero hmax, Outcome.ok_bind]
  cases Snapshot.lastHeader forging height with
  | none => exact ⟨none, rfl⟩
  | some header =>
    simp only [transactionsOf_forging]
    exact ⟨some (header, []), rfl⟩

/-- The assets of the history can be read at the heights of round 3 behind 307. -/
theorem exists_readAssets_forgingAt {height : Int} (hlt : 307 < height)
    (hmax : height ≤ Layout.maxHeight)
    (hround : Stake.roundOf height Token.simpleNetwork.roundLength = .ok 3) :
    ∃ assets, readAssets forgingDatabase height 307 Token.simpleNetwork =
      .ok (forgingSnapshotAt height, assets) := by
  -- blocks or no blocks, every height of the window can be read
  obtain ⟨found, hfound⟩ : ∃ found, (Snapshot.heightsFrom 308 (height + 1 - 308).toNat).mapM
      (Snapshot.blockAt forgingDatabase) = .ok found := by
    refine Outcome.exists_mapM fun h hh => ?_
    have hbounds := Snapshot.mem_heightsFrom.1 hh
    exact exists_blockAt_forging (by omega) (by omega)
  obtain ⟨keys, hkeys⟩ : ∃ keys, Snapshot.resolveValidatorKeys forgingDatabase
      (forgingSnapshotAt height).accounts height 307 = .ok keys := by
    have hrange := Snapshot.checkRange_eq_ok.2 ⟨show (0 : Int) ≤ 307 by decide, hlt, hmax⟩
    have hfirst : (307 : Int) + 1 = 308 := by decide
    rw [Snapshot.resolveValidatorKeys, hrange, Outcome.ok_bind, hfirst,
      Snapshot.readBlocks_eq rfl (by decide) (Snapshot.hasHeightKeys_writtenStore forging)
        (by decide) (by omega) hmax, hfound]
    exact ⟨_, rfl⟩
  -- what the assembly needs: a recorded round, and addresses and numbers that can be written
  have hrecorded : (forgingSnapshotAt height).voteWeights.forRound (3 - 2) =
      some ⟨1, [⟨forger.address, 5⟩]⟩ := rfl
  have haddresses : ∀ a ∈ (forgingSnapshotAt height).accounts, HasAddresses a := by
    intro a ha
    rw [List.mem_singleton.1 ha]
    exact ⟨length_forgerAddress, nofun, nofun⟩
  have hnonces : ∀ a ∈ (forgingSnapshotAt height).accounts,
      Decimal.fits a.sequence.nonce = true := by
    intro a ha
    rw [List.mem_singleton.1 ha]
    decide
  have hsupply : Decimal.fits (Token.totalSupply [forger] (Legacy.reserveAmount [])) = true := by
    decide
  obtain ⟨assets, hassets⟩ := exists_assemble (s := forgingSnapshotAt height)
    (n := Token.simpleNetwork) (Stake.keyTexts keys) Token.readText_tokenId_simpleNetwork rfl
    List.length_replicate (by decide +kernel) (List.nodup_singleton _) haddresses hnonces hsupply
    hround (by decide) hrecorded nofun (fun d hd => List.mem_singleton.1 hd ▸ length_forgerAddress)
  refine ⟨assets, Outcome.bind_eq_ok.2 ⟨_, load_forgingAt hlt hmax, ?_⟩⟩
  exact Outcome.bind_eq_ok.2 ⟨keys, hkeys, Outcome.bind_eq_ok.2 ⟨assets, hassets, rfl⟩⟩

theorem exists_readAssets_forging : ∃ assets,
    readAssets forgingDatabase 309 307 Token.simpleNetwork = .ok (forgingSnapshot, assets) :=
  exists_readAssets_forgingAt (by decide) (by decide) (by decide)

/-- The delegate has generated the block at height 308, so its validator has its key. -/
theorem generatorKey_of_readAssets_forging :
    ∃ s assets vs ss start,
      readAssets forgingDatabase 309 307 Token.simpleNetwork = .ok (s, assets) ∧
      ⟨"pos", Stake.dataJson vs ss start, Stake.descriptor.schema⟩ ∈ assets ∧
      vs.map Stake.Validator.generatorKey = [Hex.encode forgerKey] := by
  obtain ⟨assets, hassets⟩ := exists_readAssets_forging
  obtain ⟨seen, vs, ss, start, hseen, hasset, hvalidators⟩ := generatorKey_of_readAssets
    (by decide) (Snapshot.hasHeightKeys_writtenStore forging) hassets
  -- one block was forged in the window, at its first height
  have hseen' : seen = [[forgerKey], []] := by
    have hcount : ((309 : Int) - 307).toNat = 2 := by decide
    have hfirst : (307 : Int) + 1 = 308 := by decide
    have hkeys := Snapshot.mapM_keysSeenAt forgingSnapshot.accounts blockAt_forging
    rw [hcount, hfirst, hkeys] at hseen
    exact (Except.ok.inj hseen).symm
  have hdelegates : byAddress (forgingSnapshot.accounts.filter Account.isDelegate) = [forger] :=
    List.mergeSort_singleton forger
  rw [hdelegates, List.forall₂_cons_left_iff] at hvalidators
  obtain ⟨v, rest, ⟨-, hkey, -⟩, hrest, rfl⟩ := hvalidators
  obtain rfl := List.forall₂_nil_left_iff.1 hrest
  have hlast : Stake.lastKeyOf forger.address [forgerKey] = some forgerKey := by
    simp [Stake.lastKeyOf, forger, Snapshot.plainAccount]
  refine ⟨_, assets, [v], ss, start, hassets, hasset, ?_⟩
  rw [List.map_singleton, hkey, hseen']
  show [(Stake.lastKeyOf forger.address [forgerKey]).elim _ _] = _
  rw [hlast]
  rfl

end Regenesis.Genesis

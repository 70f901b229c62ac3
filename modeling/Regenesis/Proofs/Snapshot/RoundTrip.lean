import Mathlib
import Regenesis.Proofs.Record.RoundTrip
import Regenesis.Proofs.Snapshot.Accounts
import Regenesis.Proofs.Snapshot.Load
import Regenesis.Proofs.Snapshot.Writing

/-!
# Proofs.Snapshot.RoundTrip — reading a snapshot undoes writing it

Whatever decoded records are written into a new store, in whatever order and however often, reading
a snapshot goes well and gives back, of each kind, what was written last: `load_of_write`. Accounts
whose addresses do not have twenty bytes are written and then passed over.
-/

namespace Regenesis.Snapshot

open Record

-- ---------------------------------------------------------------------------
-- What was written last
-- ---------------------------------------------------------------------------

/-- Whether the records that a call writes were decoded. Transactions may be any. -/
@[mk_iff]
structure Call.IsDecoded (c : Call) : Prop where
  accounts : ∀ a ∈ c.writtenAccounts, accountSchema.Yields a
  unregistered : ∀ list ∈ c.writtenUnregistered, ∀ a ∈ list, unregisteredAccountSchema.Yields a
  voteWeights : ∀ weights ∈ c.writtenVoteWeights, voteWeightsSchema.Yields weights
  headers : ∀ header ∈ c.writtenHeaders, blockHeaderSchema.Yields header

/-- The account that was last written with an address. -/
def lastAccount (calls : List Call) (address : Octets) : Option Account :=
  ((calls.flatMap Call.writtenAccounts).filter (·.address == address)).getLast?

/-- The header that was last written for a height. -/
def lastHeader (calls : List Call) (height : Int) : Option BlockHeader :=
  ((calls.flatMap Call.writtenHeaders).filter (·.height == height)).getLast?

section
variable {calls : List Call} (hdecoded : ∀ c ∈ calls, c.IsDecoded)
include hdecoded

/-- The account that is written last for an address is a decoded one, with this address. -/
theorem yields_of_lastAccount {address : Octets} {a : Account}
    (h : lastAccount calls address = some a) : accountSchema.Yields a ∧ a.address = address := by
  obtain ⟨hmem, haddress⟩ := List.mem_filter.1 (List.mem_of_getLast? h)
  obtain ⟨c, hc, ha⟩ := List.mem_flatMap.1 hmem
  exact ⟨(hdecoded c hc).accounts a ha, eq_of_beq haddress⟩

/-- The account that is written last is decoded again from what was written. -/
theorem decode_lastAccount {address : Octets} {a : Account}
    (h : lastAccount calls address = some a) (key : Octets) :
    accountSchema.decode key (accountSchema.encode a) = .ok a :=
  Schema.decode_encode_of_yields Account.lawful rfl (by decide)
    (yields_of_lastAccount hdecoded h).1 key

-- ---------------------------------------------------------------------------
-- Reading it back
-- ---------------------------------------------------------------------------

variable {db : Database} (hread : db.access.allowsReading = true)
  (hstore : db.store = writtenStore calls)

include hstore in
/-- What lies under an address is decoded as the account that was written last with it. -/
theorem decode_accountKey_iff {a : Account} :
    (∃ value, db.store.get? (Layout.accountKey a.address) = some value ∧
      accountSchema.decode (Layout.accountKey a.address) value = .ok a) ↔
      lastAccount calls a.address = some a := by
  rw [hstore, get?_accountKey]
  constructor
  · rintro ⟨value, hvalue, hdecode⟩
    obtain ⟨b, hb, rfl⟩ := Option.map_eq_some_iff.1 hvalue
    rw [decode_lastAccount hdecoded hb] at hdecode
    rw [Except.ok.inj hdecode] at hb
    exact hb
  · intro ha
    exact ⟨_, Option.map_eq_some_iff.2 ⟨a, ha, rfl⟩, decode_lastAccount hdecoded ha _⟩

include hstore in
/-- No row of the range of accounts is damaged. -/
theorem exists_accountOfRow_written {r : Row}
    (h : r ∈ db.store.range Layout.accountRange.1.le Layout.accountRange.2) :
    ∃ x, accountOfRow r = .ok x := by
  have hvalue := Store.mem_rows_iff.1 (Store.mem_range.1 h).1
  rw [key_of_mem_range h, hstore, get?_accountKey] at hvalue
  obtain ⟨a, ha, hencode⟩ := Option.map_eq_some_iff.1 hvalue
  exact exists_accountOfRow (hencode ▸ decode_lastAccount hdecoded ha r.1)
    (yields_of_lastAccount hdecoded ha).2.symm

include hread hstore

/-- **Accounts.** Those come back that were written last for an address of twenty bytes, in strictly
ascending order of their addresses. -/
theorem readAccounts_written (hpage : IsPageSize db.pageSize) :
    ∃ accounts, readAccounts db = .ok accounts ∧
      accounts.Pairwise (fun a b => a.address < b.address) ∧
      ∀ a, a ∈ accounts ↔
        a.address.length = Address.length ∧ lastAccount calls a.address = some a := by
  obtain ⟨accounts, haccounts⟩ := exists_readAccounts hread hpage fun r hr =>
    exists_accountOfRow_written hdecoded hstore hr
  obtain ⟨hpairwise, hmem⟩ := mem_of_readAccounts hread hpage haccounts
  exact ⟨accounts, haccounts, hpairwise, fun a =>
    (hmem a).trans (and_congr_right fun _ => decode_accountKey_iff hdecoded hstore)⟩

/-- The list of unregistered accounts that was written last comes back. -/
theorem readUnregistered_written :
    readUnregistered db = .ok (((calls.flatMap Call.writtenUnregistered).getLast?).getD []) := by
  rw [readUnregistered, Database.get_of_allowsReading hread, Outcome.ok_bind, hstore,
    get?_unregisteredKey]
  cases hlast : (calls.flatMap Call.writtenUnregistered).getLast? with
  | none => rfl
  | some list =>
    obtain ⟨c, hc, hlist⟩ := List.mem_flatMap.1 (List.mem_of_getLast? hlast)
    have hyields := (hdecoded c hc).unregistered list hlist
    rw [Option.map_some]
    simp only [decode_encode_unregisteredAddresses hyields, Outcome.ok_bind]
    rfl

/-- The vote weights that were written last come back. -/
theorem readVoteWeights_written :
    readVoteWeights db = .ok (((calls.flatMap Call.writtenVoteWeights).getLast?).getD ⟨[]⟩) := by
  rw [readVoteWeights, Database.get_of_allowsReading hread, Outcome.ok_bind, hstore,
    get?_voteWeightsKey]
  cases hlast : (calls.flatMap Call.writtenVoteWeights).getLast? with
  | none => rfl
  | some weights =>
    obtain ⟨c, hc, hweights⟩ := List.mem_flatMap.1 (List.mem_of_getLast? hlast)
    have hyields := (hdecoded c hc).voteWeights weights hweights
    exact Schema.decode_encode_of_yields VoteWeights.lawful rfl (by decide) hyields _

variable
  (hheights : ∀ header ∈ calls.flatMap Call.writtenHeaders, header.height ≤ Layout.maxHeight)
  (hids : ∀ header ∈ calls.flatMap Call.writtenHeaders,
    ∀ header' ∈ calls.flatMap Call.writtenHeaders, header.id = header'.id → header = header')
include hids

/-- An id leads to the header that was written with it. -/
theorem headerOf_written {header : BlockHeader}
    (h : header ∈ calls.flatMap Call.writtenHeaders) :
    headerOf db header.id = .ok (some header) := by
  -- whichever header was written last with this id, it is this one
  have hsome : header ∈ (calls.flatMap Call.writtenHeaders).filter (·.id == header.id) :=
    List.mem_filter.2 ⟨h, beq_self_eq_true _⟩
  have hlast : ((calls.flatMap Call.writtenHeaders).filter (·.id == header.id)).getLast? =
      some header := by
    rw [List.getLast?_eq_some_getLast (List.ne_nil_of_mem hsome)]
    obtain ⟨hmem, hid⟩ := List.mem_filter.1 (List.getLast_mem (List.ne_nil_of_mem hsome))
    rw [hids _ hmem _ h (eq_of_beq hid)]
  obtain ⟨c, hc, hheader⟩ := List.mem_flatMap.1 h
  have hback := Schema.decode_encode_of_yields BlockHeader.lawful rfl (by decide)
    ((hdecoded c hc).headers header hheader)
  rw [headerOf, Database.get_of_allowsReading hread, Outcome.ok_bind, hstore, get?_blockKey, hlast,
    Option.map_some]
  simp only [hback, Outcome.ok_bind]
  rfl

include hheights

/-- **Blocks.** At each height, the header that was written last for it comes back. -/
theorem headerAt_written {height : Int} (hzero : 0 ≤ height) (hmax : height ≤ Layout.maxHeight) :
    headerAt db height = .ok (lastHeader calls height) := by
  have hkey : Layout.heightKey height = .ok _ := Layout.heightKey_eq_ok.2 ⟨⟨hzero, hmax⟩, rfl⟩
  have hget : db.store.get? (Layout.heightTag ++ Octets.bigEndian Layout.heightWidth height.toNat) =
      (lastHeader calls height).map BlockHeader.id :=
    hstore ▸ get?_heightKey calls hkey hheights
  rw [headerAt, hkey, Outcome.ok_bind, Database.get_of_allowsReading hread, Outcome.ok_bind, hget]
  cases hlast : lastHeader calls height with
  | none => rfl
  | some header =>
    obtain ⟨hmem, hheader⟩ := List.mem_filter.1 (List.mem_of_getLast? hlast)
    have hfound := headerOf_written hdecoded hread hstore hids hmem
    -- the key gives back the height, so the check against the header passes
    have hheight : Layout.heightOfKey
        (Layout.heightTag ++ Octets.bigEndian Layout.heightWidth height.toNat) = header.height := by
      rw [Layout.heightOfKey_append, Octets.toNat_bigEndian_of_lt (Layout.maxHeight_lt hmax),
        ← eq_of_beq hheader, Int.toNat_natCast]
    rw [Option.map_some]
    simp only [headerOfRow, hfound, Outcome.ok_bind, hheight, if_neg (not_not.2 rfl)]
    rfl

end

-- ---------------------------------------------------------------------------
-- Snapshots
-- ---------------------------------------------------------------------------

/-- **Round trip.** Decoded records are written into a new store, with headers at heights that keys
hold and no two of them with the same id. Then a snapshot can be read, in pages of any size that the
store takes. Its accounts are in strictly ascending order and are, of each address of twenty bytes,
the one that was written last; and so are the balances of unregistered addresses, the top delegates
and the header at the height what was written last. -/
theorem load_of_write (name : String) {pageSize height previous : Int} {calls : List Call}
    (hdecoded : ∀ c ∈ calls, c.IsDecoded)
    (hheights : ∀ header ∈ calls.flatMap Call.writtenHeaders, header.height ≤ Layout.maxHeight)
    (hids : ∀ header ∈ calls.flatMap Call.writtenHeaders,
      ∀ header' ∈ calls.flatMap Call.writtenHeaders, header.id = header'.id → header = header')
    (hpage : IsPageSize pageSize) (hprevious : 0 ≤ previous) (hlt : previous < height)
    (hheight : height ≤ Layout.maxHeight) :
    ∃ db s, write (Database.create name pageSize) calls = .ok db ∧
      load db height previous = .ok s ∧
      s.accounts.Pairwise (fun a b => a.address < b.address) ∧
      (∀ a, a ∈ s.accounts ↔
        a.address.length = Address.length ∧ lastAccount calls a.address = some a) ∧
      s.legacyAccounts = ((calls.flatMap Call.writtenUnregistered).getLast?).getD [] ∧
      s.voteWeights = ((calls.flatMap Call.writtenVoteWeights).getLast?).getD ⟨[]⟩ ∧
      s.block = lastHeader calls height := by
  let db : Database := ⟨name, .readWrite, pageSize, writtenStore calls⟩
  have hread : db.access.allowsReading = true := rfl
  obtain ⟨accounts, haccounts, hpairwise, hmem⟩ := readAccounts_written hdecoded hread rfl hpage
  have hlegacy := readUnregistered_written hdecoded hread rfl
  have hweights := readVoteWeights_written hdecoded hread rfl
  have hblock := headerAt_written hdecoded hread rfl hheights hids (by omega) hheight
  have hrange := checkRange_eq_ok.2 ⟨hprevious, hlt, hheight⟩
  exact ⟨db, ⟨height, previous, _, accounts, _, _⟩, write_create name pageSize hheights,
    load_eq_ok.2 ⟨hrange, rfl, rfl, haccounts, hlegacy, hweights, hblock⟩,
    hpairwise, hmem, rfl, rfl, rfl⟩

-- ---------------------------------------------------------------------------
-- A history
-- ---------------------------------------------------------------------------

section
variable (address id key : Octets) (username : String)

/-- An account that has nothing. It is a delegate if it has a name. -/
def plainAccount : Account :=
  ⟨address, ⟨0⟩, ⟨0⟩, ⟨[], [], 0⟩, ⟨{ DelegateAccount.none with username }, [], []⟩⟩

/-- The header of a block at height 308. -/
def plainHeader : BlockHeader := ⟨id, 308, 0, [], 2, key⟩

/-- Top delegates of round 1, of which there is one. -/
def plainVoteWeights : VoteWeights := ⟨[⟨1, [⟨address, 5⟩]⟩]⟩

/-- A plain account is a decoded one. -/
theorem yields_plainAccount : accountSchema.Yields (plainAccount address username) := by
  refine Schema.yields_of_storable Account.lawful rfl ?_
  have hzero : Json.Token.isShort (some Decimal.maxDigits) 0 = true := by decide
  simp [plainAccount, accountSchema, Account.toJson, TokenAccount.toJson, SequenceAccount.toJson,
    KeysAccount.toJson, DposAccount.toJson, DelegateAccount.toJson, DelegateAccount.none, hexJson,
    natJson, Table.keys, hzero]

/-- A plain header is a decoded one. -/
theorem yields_plainHeader : blockHeaderSchema.Yields (plainHeader id key) := by
  refine Schema.yields_of_storable BlockHeader.lawful rfl ?_
  have hheight : Json.Token.isShort (some Decimal.maxDigits) 308 = true := by decide
  have hversion : Json.Token.isShort (some Decimal.maxDigits) 2 = true := by decide
  have hzero : Json.Token.isShort (some Decimal.maxDigits) 0 = true := by decide
  simp [plainHeader, blockHeaderSchema, BlockHeader.toJson, hexJson, natJson, Table.keys, hheight,
    hversion, hzero]

theorem yields_plainVoteWeights : voteWeightsSchema.Yields (plainVoteWeights address) := by
  refine Schema.yields_of_storable VoteWeights.lawful rfl ?_
  have hround : Json.Token.isShort (some Decimal.maxDigits) 1 = true := by decide
  have hvotes : Json.Token.isShort (some Decimal.maxDigits) 5 = true := by decide
  simp [plainVoteWeights, voteWeightsSchema, VoteWeights.toJson, VoteWeight.toJson,
    DelegateWeight.toJson, hexJson, natJson, Table.keys, hround, hvotes]

theorem yields_balance : unregisteredAccountSchema.Yields ⟨address, 5⟩ := by
  refine Schema.yields_of_storable UnregisteredAccount.lawful rfl ?_
  have hbalance : Json.Token.isShort (some Decimal.maxDigits) 5 = true := by decide
  simp [unregisteredAccountSchema, UnregisteredAccount.toJson, hexJson, natJson, Table.keys,
    hbalance]

end

/-- Accounts in ascending order of which only one is there. -/
theorem eq_singleton_of_mem_iff {accounts : List Account} {a : Account}
    (hpairwise : accounts.Pairwise fun a b => a.address < b.address)
    (hmem : ∀ b, b ∈ accounts ↔ b = a) : accounts = [a] := by
  have hnodup : accounts.Nodup := (nodup_of_pairwise_address hpairwise).of_map _
  exact List.perm_singleton.1 <| (List.perm_ext_iff_of_nodup hnodup (List.nodup_singleton a)).2
    fun b => (hmem b).trans List.mem_singleton.symm

/-- The address of a voter who becomes a delegate. -/
def voterAddress : Octets := List.replicate Address.length 3

/-- A history in which all is written twice but the top delegates, and two accounts have addresses
of other lengths. -/
def rewriting : List Call := [
  .accounts [
    plainAccount voterAddress "", plainAccount [3] "", plainAccount (voterAddress ++ [3]) ""],
  .unregistered [⟨[1], 5⟩],
  .block (plainHeader [2] [7]) [],
  .voteWeights (plainVoteWeights voterAddress),
  .block (plainHeader [1] [8]) [],
  .unregistered [],
  .accounts [plainAccount voterAddress "delegate"]]

/-- What was written last comes back, from a store that is read one row at a time. -/
theorem load_of_write_rewriting :
    ∃ db s, write (Database.create "" 1) rewriting = .ok db ∧ load db 308 307 = .ok s ∧
      s.accounts = [plainAccount voterAddress "delegate"] ∧ s.legacyAccounts = [] ∧
      s.voteWeights = plainVoteWeights voterAddress ∧ s.block = some (plainHeader [1] [8]) := by
  have hdecoded : ∀ c ∈ rewriting, c.IsDecoded := by
    simp [rewriting, Call.isDecoded_iff, Call.writtenAccounts, Call.writtenUnregistered,
      Call.writtenVoteWeights, Call.writtenHeaders, yields_plainAccount, yields_plainHeader,
      yields_balance, yields_plainVoteWeights]
  obtain ⟨db, s, hwrite, hload, hpairwise, hmem, hlegacy, hweights, hblock⟩ :=
    load_of_write "" hdecoded (by decide) (by decide) (show IsPageSize 1 by decide)
      (show (0 : Int) ≤ 307 by decide) (show (307 : Int) < 308 by decide) (by decide)
  -- of the accounts written, two have addresses of other lengths and one was written over
  have hone : ∀ a, a ∈ s.accounts ↔ a = plainAccount voterAddress "delegate" := by
    intro a
    rw [hmem]
    constructor
    · rintro ⟨hlength, hlast⟩
      have ha := List.mem_of_mem_filter (List.mem_of_getLast? hlast)
      have hwritten : rewriting.flatMap Call.writtenAccounts = [plainAccount voterAddress "",
        plainAccount [3] "", plainAccount (voterAddress ++ [3]) "",
        plainAccount voterAddress "delegate"] := rfl
      simp only [hwritten, List.mem_cons, List.not_mem_nil, or_false] at ha
      rcases ha with rfl | rfl | rfl | rfl
      · exact absurd hlast (by decide)
      · exact absurd hlength (by decide)
      · exact absurd hlength (by decide)
      · rfl
    · rintro rfl
      decide
  exact ⟨db, s, hwrite, hload, eq_singleton_of_mem_iff hpairwise hone, hlegacy, hweights, hblock⟩

/-- In pages of a size that the store does not take, nothing comes back. -/
theorem load_of_oversizedPages :
    1 ≤ Database.integerLimit ∧
      ∃ db, write (Database.create "" Database.integerLimit) rewriting = .ok db ∧
        load db 308 307 = .error .pageSizeOutside := by
  have hwrite := write_create "" Database.integerLimit (show ∀ header ∈
    rewriting.flatMap Call.writtenHeaders, header.height ≤ Layout.maxHeight by decide)
  refine ⟨by decide, _, hwrite, load_of_refused (checkRange_eq_ok.2 (by decide)) ?_⟩
  exact Cursor.checkFetch_of_isInteger_eq_false (by decide) (isInteger_of_integerLimit_le le_rfl) _

end Regenesis.Snapshot

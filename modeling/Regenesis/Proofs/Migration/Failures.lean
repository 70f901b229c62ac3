import Mathlib
import Regenesis.Proofs.Assembly.Failures
import Regenesis.Proofs.Migration.Output
import Regenesis.Proofs.Snapshot.Failures

/-!
# Proofs.Migration.Failures — how a migration fails

A migration reads records that were checked one by one when they were decoded, but not all that it
makes of them can be written: the address of a delegate need not have twenty bytes, the supply and
the time of the block can get too many digits, and so can the number that is read from a key of the
height index. The heights that are asked for can be too long themselves. `IsUnfit` says what the
store or the request has to hold for that. Apart from it, and from a page size that the store does
not take, a migration fails with a failure of a migration (`failure_of_run`). These exceptions do
occur: `run_of_unfit` for an unfit value of the snapshot, `run_of_unprintable` for a height,
`run_of_isInteger_eq_false` for a page size.
-/

namespace Regenesis.Migration

open Genesis Outcome Record

/-- Whether what a migration works on has a value that cannot be written: a height that is asked
for, a value of the snapshot, the time of the block that follows the block of the snapshot, or the
number in a key of the window that leads to a header. -/
inductive IsUnfit (db : Database) (n : Network) (r : Request) : ValueFault → Prop where
  | requested {height : Int} :
      height ∈ [r.snapshotHeight, r.previousHeight] → Decimal.fits height = false →
      IsUnfit db n r (.integer .tooLarge)
  | snapshot {s : Snapshot} {fault : ValueFault} :
      Snapshot.load db r.snapshotHeight r.previousHeight = .ok s → Unfit s n fault →
      IsUnfit db n r fault
  | timestamp {s : Snapshot} {header : BlockHeader} :
      Snapshot.load db r.snapshotHeight r.previousHeight = .ok s → s.block = some header →
      Decimal.fits (header.timestamp + n.genesisDelay) = false →
      IsUnfit db n r (.integer .tooLarge)
  | index {key id : Octets} {header : BlockHeader} :
      Snapshot.IsIndexKey r.snapshotHeight r.previousHeight key → db.store.get? key = some id →
      Snapshot.headerOf db id = .ok (some header) →
      Decimal.fits (Layout.heightOfKey key) = false → IsUnfit db n r (.integer .tooLarge)

/-- What is taken for granted of a network: its token and its reserve have hex texts, of which the
reserve's stands for an address, its version of the genesis block can be written, and its rounds are
not empty. -/
structure IsSound (n : Network) : Prop where
  token : ∃ token, Hex.readText n.tokenId = .ok token
  reserve : ∃ reserve, n.reserveAddress = Hex.encode reserve ∧ reserve.length = Address.length
  version : Decimal.fits n.genesisVersion = true
  rounds : 0 < n.roundLength

/-- The networks that are known are sound. -/
theorem isSound_of_mem_known {n : Network} (h : n ∈ Network.known) : IsSound n := by
  have hlength : (Address.ofPublicKey (Octets.ofText "legacyReserve")).length = Address.length := by
    rw [Address.ofPublicKey, List.length_take, Digest.length_sha256]
    decide
  have hsound : ∀ token, Hex.readText n.tokenId = .ok token →
      n.reserveAddress = legacyReserveAddress → n.genesisVersion = 0 → n.roundLength = 103 →
      IsSound n := by
    intro token htoken hreserve hversion hround
    exact ⟨⟨token, htoken⟩, ⟨_, hreserve, hlength⟩, hversion ▸ by decide, hround ▸ by decide⟩
  simp only [Network.known, List.mem_cons, List.not_mem_nil, or_false] at h
  rcases h with rfl | rfl | rfl
  · exact hsound [0, 0, 0, 0, 0, 0, 0, 0] (by decide +kernel) rfl rfl rfl
  · exact hsound [1, 0, 0, 0, 0, 0, 0, 0] (by decide +kernel) rfl rfl rfl
  · exact hsound [4, 0, 0, 0, 0, 0, 0, 0] (by decide +kernel) rfl rfl rfl

/-- Accounts of a snapshot that was loaded lie under distinct addresses of twenty bytes, and their
nonces can be written. -/
theorem accounts_of_load {db : Database} {height previous : Int} {s : Snapshot}
    (hpage : 1 ≤ db.pageSize) (h : Snapshot.load db height previous = .ok s) :
    (∀ a ∈ s.accounts, a.address.length = Address.length) ∧
      (s.accounts.map Account.address).Nodup ∧
      ∀ a ∈ s.accounts, Decimal.fits a.sequence.nonce = true := by
  obtain ⟨-, -, -, haccounts, -⟩ := Snapshot.load_eq_ok.1 h
  obtain ⟨hpairwise, hmem⟩ := Snapshot.mem_of_readAccounts (Snapshot.allowsReading_of_load h)
    (Snapshot.isPageSize_of_load hpage h) haccounts
  refine ⟨fun a ha => ((hmem a).1 ha).1, Snapshot.nodup_of_pairwise_address hpairwise, ?_⟩
  intro a ha
  obtain ⟨-, value, -, hdecode⟩ := (hmem a).1 ha
  exact fits_nonce ⟨_, value, hdecode⟩

section
variable {P : Failure → Prop} {db : Database} {n : Network} {r : Request}
  (hP : ∀ e : Failure, e.isMigrationFailure = true → P e)
  (hunfit : ∀ fault, IsUnfit db n r fault → P (.value fault)) (hsound : IsSound n)
  (hpage : 1 ≤ db.pageSize)
  (hsize : Database.isInteger db.pageSize = false → P .pageSizeOutside)
include hP hunfit hsound hpage hsize

/-- Where the heights that are asked for can be written, reading the assets fails with a failure of
a migration, unless a value is unfit or the store does not take the page size. -/
theorem failsWithin_readAssets (hheight : Decimal.fits r.snapshotHeight = true)
    (hprevious : Decimal.fits r.previousHeight = true) :
    FailsWithin P (readAssets db r.snapshotHeight r.previousHeight n) := by
  refine (Snapshot.failsWithin_load hP hpage hsize hheight hprevious).bind fun s hload => ?_
  obtain ⟨hrange, hsnapshot, -⟩ := Snapshot.load_eq_ok.1 hload
  obtain ⟨hbefore, hlt, -⟩ := Snapshot.checkRange_eq_ok.1 hrange
  obtain ⟨haddress, hnodup, hnonce⟩ := accounts_of_load hpage hload
  obtain ⟨token, htoken⟩ := hsound.token
  obtain ⟨reserve, hreserve, hlength⟩ := hsound.reserve
  refine (Snapshot.failsWithin_resolveValidatorKeys hP (Snapshot.allowsReading_of_load hload)
    (Snapshot.isPageSize_of_load hpage hload) hrange ?_ _).bind fun keys _ => ?_
  · exact fun key id header hkey hget hheader hlong =>
      hunfit _ (.index hkey hget hheader hlong)
  refine (failsWithin_assemble htoken hreserve hlength haddress hnodup hnonce hP
    (fun fault h => hunfit fault (.snapshot hload h)) (by omega) ?_ hsound.rounds
    _).bind fun _ _ => .ok _
  rw [hsnapshot]
  exact hheight

/-- **Failures of building a block.** They are failures of a migration, unless a value is unfit or
the store does not take the page size. -/
theorem failsWithin_build : FailsWithin P (build db n r) := by
  unfold build
  have hprint : FailsWithin P (Decimal.print [r.snapshotHeight, r.previousHeight]) :=
    Decimal.failsWithin_print fun height hheight hlong => hunfit _ (.requested hheight hlong)
  refine hprint.bind fun _ hprinted => ?_
  obtain ⟨hheight, hprevious⟩ : Decimal.fits r.snapshotHeight = true ∧
      Decimal.fits r.previousHeight = true := by simpa using Decimal.print_eq_ok.1 hprinted
  refine (failsWithin_readAssets hP hunfit hsound hpage hsize hheight hprevious).bind ?_
  rintro ⟨s, assets⟩ hassets
  obtain ⟨s', hload, hassets⟩ := bind_eq_ok.1 hassets
  obtain ⟨keys, -, hassets⟩ := bind_eq_ok.1 hassets
  obtain ⟨assets', -, hassets⟩ := bind_eq_ok.1 hassets
  obtain ⟨rfl, rfl⟩ := Prod.mk.inj (Except.ok.inj hassets)
  obtain ⟨hrange, -, -, -, -, -, hblock⟩ := Snapshot.load_eq_ok.1 hload
  obtain ⟨hbefore, hlt, hmax⟩ := Snapshot.checkRange_eq_ok.1 hrange
  dsimp only
  cases hfound : s'.block with
  | none => exact .error (hP _ rfl)
  | some header =>
    rw [hfound] at hblock
    refine FailsWithin.bind ?_ fun _ _ => .ok _
    have hstated := (Snapshot.headerAt_eq_some hblock).2
    unfold blockAfter
    dsimp only
    split
    · exact .ok _
    · rename_i hwritable
      refine .error (hunfit _ (.timestamp hload hfound ?_))
      -- the version and the height can be written, so it is the time that cannot
      by_contra htime
      rw [Bool.not_eq_false] at htime
      exact hwritable (Header.isWritable_iff.2
        ⟨hsound.version, htime, Layout.fits_of_natAbs_le (by dsimp only [headerAfter]; omega)⟩)

end

section
variable {db : Database} {n : Network} {r : Request} {d d' : Directory} (hsound : IsSound n)
  (hpage : 1 ≤ db.pageSize)
include hsound hpage

/-- A migration that can write its files fails with a failure of a migration, or because the page
size is too large for the store, or because a value is unfit. -/
theorem failure_of_run {e : Failure}
    (hwrites : ∀ block assets, (writeAll r block assets d).2 = none)
    (h : run db n r d = (.error e, d')) :
    e.isMigrationFailure = true ∨
      (e = .pageSizeOutside ∧ Database.integerLimit ≤ db.pageSize) ∨
      ∃ fault, e = .value fault ∧ IsUnfit db n r fault := by
  have hbuild : FailsWithin (fun e => e.isMigrationFailure = true ∨
      (e = .pageSizeOutside ∧ Database.integerLimit ≤ db.pageSize) ∨
      ∃ fault, e = .value fault ∧ IsUnfit db n r fault) (build db n r) := by
    refine failsWithin_build (fun _ he => Or.inl he)
      (fun fault hfault => Or.inr (Or.inr ⟨fault, rfl, hfault⟩)) hsound hpage fun hno => ?_
    exact Or.inr (Or.inl ⟨rfl, integerLimit_le_of_isInteger_eq_false hpage hno⟩)
  rcases run_eq_error h with ⟨herror, -⟩ | ⟨block, assets, -, hwrite⟩
  · exact hbuild e herror
  · rw [hwrites] at hwrite
    exact nomatch hwrite

/-- Where a snapshot that was loaded has an unfit value, and the keys of its validators were found,
a migration fails with what is no failure of a migration. -/
theorem run_of_unfit {s : Snapshot} {keys : Snapshot.ValidatorKeys} {fault : ValueFault}
    (hload : Snapshot.load db r.snapshotHeight r.previousHeight = .ok s)
    (hkeys : Snapshot.resolveValidatorKeys db s.accounts r.snapshotHeight r.previousHeight =
      .ok keys)
    (h : Unfit s n fault) (d : Directory) :
    ∃ fault, run db n r d = (.error (.value fault), d) := by
  obtain ⟨haddress, hnodup, hnonce⟩ := accounts_of_load hpage hload
  obtain ⟨token, htoken⟩ := hsound.token
  obtain ⟨reserve, hreserve, hlength⟩ := hsound.reserve
  obtain ⟨fault, hassemble⟩ := assemble_of_unfit htoken hreserve hlength haddress hnodup hnonce h
    (Stake.keyTexts keys)
  have hprint := print_of_checkRange (Snapshot.load_eq_ok.1 hload).1
  have hbuild : build db n r = .error (.value fault) := by
    rw [build, hprint, ok_bind, readAssets, hload, ok_bind, hkeys, ok_bind, hassemble]
    rfl
  exact ⟨fault, run_of_build_error hbuild d⟩

end

/-- A migration whose heights cannot be shown ends there, whatever the store holds. -/
theorem run_of_unprintable {r : Request} {height : Int}
    (hheight : height ∈ [r.snapshotHeight, r.previousHeight])
    (hlong : Decimal.fits height = false) (db : Database) (n : Network) (d : Directory) :
    run db n r d = (.error (.value (.integer .tooLarge)), d) := by
  refine run_of_build_error ?_ d
  rw [build, Decimal.print_of_not_fits hheight hlong, error_bind]

end Regenesis.Migration

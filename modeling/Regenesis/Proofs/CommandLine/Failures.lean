import Mathlib
import Regenesis.Proofs.CommandLine.Command
import Regenesis.Proofs.Migration.Failures

/-!
# Proofs.CommandLine.Failures — which failures are reported

A migration that can write its files fails with a failure of a migration, and then the command
reports it and ends with code 1. The exceptions are values that cannot be written, be they decoded
or asked for, and page sizes that the store does not take. The command scans in pages of its own, so
only with such a value it breaks off. Together: `failures_reported`.
-/

namespace Regenesis.CommandLine

open Migration Record

variable {o : Options} {n : Network} {snapshot previous : Int} {d : Directory}

/-- Whether all options that a migration needs have a value, and the name of the store is one that a
system takes. -/
structure Options.IsStated (o : Options) (snapshot previous : Int) (n : Network) : Prop where
  store : ∃ name, o.store = some name ∧ ¬ name.toList.contains (Char.ofNat 0)
  snapshotHeight : o.snapshotHeight = some snapshot
  previousHeight : o.previousHeight = some previous
  network : o.network = some n
  output : ∃ path, o.output = some path
  assetsOutput : o.assetsOutput ≠ some none
  fromVersion : ∃ source, o.fromVersion = some source
  toVersion : ∃ target, o.toVersion = some target

/-- Nothing is wrong with the paths where all options have values. -/
theorem pathIssues_of_isStated (h : o.IsStated snapshot previous n) : o.pathIssues = [] := by
  obtain ⟨path, hpath⟩ := h.output
  rw [Options.pathIssues, hpath, if_neg h.assetsOutput]
  rfl

/-- Whether an end of the command is a report with code 0 or 1. -/
def Reports (outcome : Except Breakdown Report) : Prop :=
  ∃ report, outcome = .ok report ∧ (report.exitCode = 0 ∨ report.exitCode = 1)

theorem reports_success (output : String) : Reports (.ok ⟨0, output, none⟩) :=
  ⟨_, rfl, Or.inl rfl⟩

theorem reports_error (message : String) : Reports (.ok ⟨1, "", some message⟩) :=
  ⟨_, rfl, Or.inr rfl⟩

/-- A command that carries out an action reports how it ends, unless the action fails with what is
no failure of a migration. -/
theorem carryOut_reports (action : Action) (h : o.IsStated snapshot previous n) :
    Reports (carryOut action o n snapshot previous d).1 ∨
      ∃ db d₁ e d₂, d.openStore o.storeName = .ok (db, d₁) ∧
        action db n (o.request snapshot previous) d₁ = (.error e, d₂) ∧
        e.isMigrationFailure = false ∧
        (carryOut action o n snapshot previous d).1 = .error (.failure e) := by
  obtain ⟨name, hstore, hname⟩ := h.store
  have hstoreName : o.storeName = name := by rw [Options.storeName, hstore, Option.getD_some]
  unfold carryOut
  rw [hstoreName, pathIssues_of_isStated h]
  -- every failure to open the store is one the command reports
  cases hopen : d.openStore name with
  | error e =>
    dsimp only
    rw [if_pos (Directory.openStore_error hname hopen)]
    exact Or.inl (reports_error _)
  | ok opened =>
    obtain ⟨db, d₁⟩ := opened
    dsimp only
    cases haction : action db n (o.request snapshot previous) d₁ with
    | mk outcome d₂ =>
      rw [Options.request] at haction
      rw [haction]
      cases outcome with
      | ok block => exact Or.inl (reports_success _)
      | error e =>
        dsimp only
        -- only a failure outside the migration's own escapes
        cases hmigration : e.isMigrationFailure with
        | true => exact Or.inl (reports_error _)
        | false => exact Or.inr ⟨db, d₁, e, d₂, rfl, haction, hmigration, rfl⟩

/-- A command whose options have values ends with a report, or as its migration does. -/
theorem migrate_reports (h : o.IsStated snapshot previous n) :
    Reports (migrate builtin o d).1 ∨
      (migrate builtin o d).1 = (carryOut Migration.run o n snapshot previous d).1 := by
  obtain ⟨source, hsource⟩ := h.fromVersion
  obtain ⟨target, htarget⟩ := h.toVersion
  have hfind : findAction builtin o = .ok (builtin.get source target) := by
    rw [findAction, hsource, htarget]
  rw [migrate, h.previousHeight, h.snapshotHeight, h.network]
  dsimp only
  rw [hfind]
  cases hget : builtin.get source target with
  | error e => exact Or.inl (reports_error _)
  | ok found =>
    cases found with
    | none => exact Or.inl (reports_success _)
    | some action =>
      obtain ⟨s, -, haction, -⟩ := get_eq_ok hget
      obtain rfl := eq_run_of_builtin haction
      exact Or.inr rfl

/-- **Failures are reported.** On a known network, and where what is asked for can be written: a
migration fails with a failure of a migration, unless it has to do with a value that cannot be
written or with pages that are too large for the store. With such a value in its snapshot, with a
height that has too many digits, and in range with such pages, it does fail otherwise. So a command
whose options have values ends with code 0 or 1, whatever the store holds, unless there is such a
value, with which it breaks off. -/
theorem failures_reported {db : Database} {r : Request} (hn : n ∈ Network.known)
    (hpage : 1 ≤ db.pageSize) (hwrites : ∀ block assets, (writeAll r block assets d).2 = none) :
    (∀ e d', Migration.run db n r d = (.error e, d') →
      e.isMigrationFailure = true ∨
        (e = .pageSizeOutside ∧ Database.integerLimit ≤ db.pageSize) ∨
        ∃ fault, e = .value fault ∧ IsUnfit db n r fault) ∧
    (∀ s keys fault, Snapshot.load db r.snapshotHeight r.previousHeight = .ok s →
      Snapshot.resolveValidatorKeys db s.accounts r.snapshotHeight r.previousHeight = .ok keys →
      Genesis.Unfit s n fault → ∃ fault, Migration.run db n r d = (.error (.value fault), d)) ∧
    (∀ height ∈ [r.snapshotHeight, r.previousHeight], Decimal.fits height = false →
      Migration.run db n r d = (.error (.value (.integer .tooLarge)), d)) ∧
    (db.access ≠ .closed → Database.integerLimit ≤ db.pageSize → 0 ≤ r.previousHeight →
      r.previousHeight < r.snapshotHeight → r.snapshotHeight ≤ Layout.maxHeight →
      Migration.run db n r d = (.error .pageSizeOutside, d)) ∧
    ∀ (o : Options) (snapshot previous : Int) (d : Directory), o.IsStated snapshot previous n →
      (∀ db d₁, d.openStore o.storeName = .ok (db, d₁) → ∀ block assets,
        (writeAll (o.request snapshot previous) block assets d₁).2 = none) →
      Reports (migrate builtin o d).1 ∨
        ∃ db d₁ fault, d.openStore o.storeName = .ok (db, d₁) ∧
          IsUnfit db n (o.request snapshot previous) fault ∧
          (migrate builtin o d).1 = .error (.failure (.value fault)) := by
  have hsound := isSound_of_mem_known hn
  refine ⟨fun e d' h => failure_of_run hsound hpage hwrites h, fun s keys fault hload hkeys h =>
    run_of_unfit hsound hpage hload hkeys h d, fun height hheight hlong =>
    run_of_unprintable hheight hlong db n d, fun hopen hsize hprevious hlt hheight =>
    run_of_isInteger_eq_false hopen (isInteger_of_integerLimit_le hsize)
      (Snapshot.checkRange_eq_ok.2 ⟨hprevious, hlt, hheight⟩) n d,
    fun o snapshot previous d ho hwrites => ?command⟩
  case command =>
    rcases migrate_reports ho with hreport | hcarry
    · exact Or.inl hreport
    rcases carryOut_reports Migration.run ho with hreport | ⟨db, d₁, e, d₂, hopen, hrun, hno, hend⟩
    · exact Or.inl (hcarry ▸ hreport)
    -- a store that the command opens has the default page size
    have hpageSize : IsPageSize db.pageSize := by
      rw [Directory.pageSize_of_openStore hopen]
      decide
    rcases failure_of_run hsound hpageSize.pos (hwrites db d₁ hopen) hrun with
      hyes | ⟨-, hlarge⟩ | ⟨fault, rfl, hfault⟩
    · rw [hno] at hyes
      exact nomatch hyes
    · exact absurd hpageSize.lt (Int.not_lt.2 hlarge)
    · exact Or.inr ⟨db, d₁, fault, hopen, hfault, hcarry.trans hend⟩

-- ---------------------------------------------------------------------------
-- A vote for an address of one byte
-- ---------------------------------------------------------------------------

/-- An account with a vote for an address of one byte. -/
def strayVoter : Account :=
  ⟨Genesis.Token.repeated 1, ⟨0⟩, ⟨0⟩, ⟨[], [], 0⟩, ⟨.none, [⟨[9], 1⟩], []⟩⟩

/-- A store with that account. -/
def strayVoteDatabase : Database :=
  ⟨"", .readOnly, 1000, Store.empty.putAll [
    (Layout.accountKey strayVoter.address, accountSchema.encode strayVoter)]⟩

/-- What is asked for: the block after height 10, and no files. -/
def plainRequest : Request := ⟨10, 5, none, none⟩

/-- The snapshot of the store. -/
def strayVoteSnapshot : Snapshot where
  height := 10
  previousHeight := 5
  block := none
  accounts := [strayVoter]
  legacyAccounts := []
  voteWeights := ⟨[]⟩

/-- The account is a decoded one, stray vote and all. -/
theorem yields_strayVoter : accountSchema.Yields strayVoter := by
  refine Schema.yields_of_storable Account.lawful rfl ?_
  have hzero : Json.Token.isShort (some Decimal.maxDigits) 0 = true := by decide
  have hone : Json.Token.isShort (some Decimal.maxDigits) 1 = true := by decide
  simp [strayVoter, accountSchema, Account.toJson, TokenAccount.toJson, SequenceAccount.toJson,
    KeysAccount.toJson, DposAccount.toJson, DelegateAccount.toJson, DelegateAccount.none,
    SentVote.toJson, hexJson, natJson, Table.keys, hzero, hone]

/-- The snapshot with the stray vote can be loaded. -/
theorem load_strayVote :
    Snapshot.load strayVoteDatabase plainRequest.snapshotHeight plainRequest.previousHeight =
      .ok strayVoteSnapshot := by
  have hback := Schema.decode_encode_of_yields Account.lawful rfl (by decide) yields_strayVoter
    (Layout.accountKey strayVoter.address)
  have hrow : Snapshot.accountOfRow
      (Layout.accountKey strayVoter.address, accountSchema.encode strayVoter) =
        .ok (some strayVoter) := by
    rw [Snapshot.accountOfRow_eq_some]
    dsimp only
    exact ⟨hback, rfl, Layout.addressOfKey_accountKey strayVoter.address⟩
  have haccounts : Snapshot.readAccounts strayVoteDatabase = .ok [strayVoter] := by
    refine (Snapshot.readAccounts_eq_ok rfl (by decide)).2 ⟨[some strayVoter], ?_, rfl⟩
    exact .cons hrow .nil
  have hrange := Snapshot.checkRange_eq_ok.2
    (show (0 : Int) ≤ 5 ∧ (5 : Int) < 10 ∧ (10 : Int) ≤ Layout.maxHeight by decide)
  exact Snapshot.load_eq_ok.2 ⟨hrange, rfl, rfl, haccounts, rfl, rfl, rfl⟩

/-- There are no blocks, and no keys to be found. -/
theorem resolveValidatorKeys_strayVote :
    Snapshot.resolveValidatorKeys strayVoteDatabase strayVoteSnapshot.accounts
      plainRequest.snapshotHeight plainRequest.previousHeight = .ok [] := by
  have hpage : IsPageSize strayVoteDatabase.pageSize := by decide
  have hfirst : Layout.heightKey 6 = .ok (Layout.heightTag ++ [0, 0, 0, 6]) := rfl
  have hlast : Layout.heightKey 10 = .ok (Layout.heightTag ++ [0, 0, 0, 10]) := rfl
  have hrange : strayVoteDatabase.store.range (Layout.heightTag ++ [0, 0, 0, 6]).le
      (Layout.heightTag ++ [0, 0, 0, 10]) = [] := rfl
  have hblocks : Snapshot.readBlocks strayVoteDatabase 6 10 = .ok [] := by
    rw [Snapshot.readBlocks_eq_mapM rfl hpage hfirst hlast (by decide), hrange]
    rfl
  rw [Snapshot.resolveValidatorKeys]
  exact Outcome.bind_eq_ok.2 ⟨(), rfl, Outcome.bind_eq_ok.2 ⟨[], hblocks, rfl⟩⟩

/-- The stray vote is an unfit value. -/
theorem unfit_strayVote : Genesis.Unfit strayVoteSnapshot .mainnet (.addressLength 1) := by
  have hlength : (⟨[9], 1⟩ : SentVote).delegateAddress.length ≠ Address.length := by decide
  exact .vote (List.mem_singleton.2 rfl) (List.mem_singleton.2 rfl) hlength

/-- The migration of the store is no success, and its failure is none of a migration. -/
theorem run_breaks_off : ¬ ∀ outcome d',
    Migration.run strayVoteDatabase .mainnet plainRequest {} = (outcome, d') →
      (∃ block, outcome = .ok block) ∨ ∃ e, outcome = .error e ∧ e.isMigrationFailure = true := by
  intro h
  obtain ⟨fault, hrun⟩ := run_of_unfit (isSound_of_mem_known List.mem_cons_self)
    (show 1 ≤ strayVoteDatabase.pageSize by decide) load_strayVote resolveValidatorKeys_strayVote
    unfit_strayVote {}
  rcases h _ _ hrun with ⟨block, hblock⟩ | ⟨e, he, hmigration⟩
  · exact nomatch hblock
  · rw [← Except.error.inj he] at hmigration
    exact nomatch hmigration

/-- Options with the name of a store that is not there. -/
def missingOptions : Options := { hashedOptions with store := some "missing.db" }

/-- The migration of the store breaks off with an unfit value; a command that finds no store
reports it. -/
theorem failures_reported_stray_vote :
    (∃ fault, Migration.run strayVoteDatabase .mainnet plainRequest {} =
        (.error (.value fault), {}) ∧ IsUnfit strayVoteDatabase .mainnet plainRequest fault) ∧
      Reports (migrate builtin missingOptions {}).1 := by
  obtain ⟨hrun, hunfit, -, -, hcommand⟩ := @failures_reported .mainnet {} strayVoteDatabase
    plainRequest List.mem_cons_self (by decide) fun _ _ => rfl
  constructor
  · -- the vote for a stray address makes the run end in a value error
    obtain ⟨fault, hend⟩ :=
      hunfit _ _ _ load_strayVote resolveValidatorKeys_strayVote unfit_strayVote
    refine ⟨fault, hend, ?_⟩
    rcases hrun _ _ hend with hmigration | ⟨hsize, -⟩ | ⟨_, hfault, h⟩
    · exact nomatch hmigration
    · exact nomatch hsize
    · rwa [Failure.value.inj hfault]
  · -- with no store to open, the command never gets to the run
    have hmissing : (Directory.openStore {} missingOptions.storeName).toOption.isNone = true := by
      decide +kernel
    have hopen : ∀ {db d₁}, Directory.openStore {} missingOptions.storeName ≠ .ok (db, d₁) := by
      intro db d₁ hopen
      rw [hopen] at hmissing
      exact nomatch hmissing
    have hstated : missingOptions.IsStated 10 5 .mainnet :=
      ⟨⟨_, rfl, by decide +kernel⟩, rfl, rfl, rfl, ⟨_, rfl⟩, nofun, ⟨_, rfl⟩, ⟨_, rfl⟩⟩
    rcases hcommand missingOptions 10 5 {} hstated fun _ _ h => absurd h hopen with
      hreport | ⟨_, _, _, h, -⟩
    · exact hreport
    · exact absurd h hopen

end Regenesis.CommandLine

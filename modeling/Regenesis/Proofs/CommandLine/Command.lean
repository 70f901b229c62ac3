import Mathlib
import Regenesis.CommandLine.Command
import Regenesis.Proofs.Directory.Opening
import Regenesis.Proofs.Migration.Output

/-!
# Proofs.CommandLine.Command — all or nothing

A migration writes what it was asked for when everything else has succeeded, and nothing otherwise.
So the command ends with code 1 only where nothing was written, and with code 0 only behind a block
or where no migration is needed. There is one exception: a name of a store that ends the path in
front of the option for reading can make a file. Together: `writes_all_or_nothing`.
-/

namespace Regenesis.CommandLine

open Migration

variable {registry : Registry Action} {action : Action} {o : Options} {n : Network}
  {snapshot previous : Int} {d d' : Directory} {report : Report}

-- ---------------------------------------------------------------------------
-- Ends of the command
-- ---------------------------------------------------------------------------

/-- The request that options make. -/
def Options.request (o : Options) (snapshot previous : Int) : Request :=
  ⟨snapshot, previous, o.output, o.assetsOutput.join⟩

/-- A report comes behind a store that was not opened, an action that failed with a failure of a
migration, or one that succeeded. -/
theorem carryOut_eq_ok (h : carryOut action o n snapshot previous d = (.ok report, d')) :
    (report.exitCode = 1 ∧ d' = d) ∨
      ∃ db d₁, d.openStore o.storeName = .ok (db, d₁) ∧
        ((report.exitCode = 1 ∧ ∃ e, e.isMigrationFailure = true ∧
            action db n (o.request snapshot previous) d₁ = (.error e, d')) ∨
          (report.exitCode = 0 ∧ ∃ block,
            action db n (o.request snapshot previous) d₁ = (.ok block, d'))) := by
  unfold carryOut at h
  split at h
  · split at h
    · -- the store could not be opened, and the directory is as it was
      obtain ⟨hreport, rfl⟩ := Prod.mk.inj h
      rw [← Except.ok.inj hreport]
      exact Or.inl ⟨rfl, rfl⟩
    · exact nomatch (Prod.mk.inj h).1
  · rename_i db d₁ hopen
    refine Or.inr ⟨db, d₁, hopen, ?_⟩
    split at h
    · split at h
      · -- the action gave a block
        rename_i block d₂ haction
        obtain ⟨hreport, rfl⟩ := Prod.mk.inj h
        rw [← Except.ok.inj hreport]
        exact Or.inr ⟨rfl, block, haction⟩
      · rename_i e d₂ haction
        split at h
        · -- the action failed with a failure that is reported; any other ends without a report
          rename_i hfailure
          obtain ⟨hreport, rfl⟩ := Prod.mk.inj h
          rw [← Except.ok.inj hreport]
          exact Or.inl ⟨rfl, e, hfailure, haction⟩
        · exact nomatch (Prod.mk.inj h).1
    · exact nomatch (Prod.mk.inj h).1

/-- Whether no migration is needed between the versions that options state: they have one major
version, and no migration is registered for them. -/
def NeedsNone (registry : Registry Action) (o : Options) : Prop :=
  ∃ source target s, o.fromVersion = some source ∧ o.toVersion = some target ∧
    Step.ofTexts source target = .ok s ∧ registry.entries.get? s = none ∧
    s.source.major = s.target.major

/-- A migration that is found is registered for the step. Without a failure, none is found only
within one major version. -/
theorem get_eq_ok {source target : String} {found : Option Action}
    (h : registry.get source target = .ok found) :
    ∃ s, Step.ofTexts source target = .ok s ∧ registry.entries.get? s = found ∧
      (found = none → s.source.major = s.target.major) := by
  obtain ⟨s, hs, h⟩ := Outcome.bind_eq_ok.1 h
  refine ⟨s, hs, ?_⟩
  split at h
  · rename_i migration hfound
    rw [← Except.ok.inj h]
    exact ⟨hfound, nofun⟩
  · rename_i hfound
    split at h
    · rename_i hmajor
      rw [← Except.ok.inj h]
      exact ⟨hfound, fun _ => hmajor⟩
    · exact nomatch h

theorem findAction_eq_ok {found : Option Action} (h : findAction registry o = .ok (.ok found)) :
    ∃ source target, o.fromVersion = some source ∧ o.toVersion = some target ∧
      registry.get source target = .ok found := by
  unfold findAction at h
  split at h
  · exact nomatch h
  · split at h
    · exact nomatch Except.ok.inj h
    · exact nomatch h
  · rename_i source target hsource htarget
    exact ⟨source, target, hsource, htarget, Except.ok.inj h⟩

/-- A command reports that it could not begin, that nothing is needed, or how its action ended. -/
theorem migrate_eq_ok (h : migrate registry o d = (.ok report, d')) :
    (report.exitCode = 1 ∧ d' = d) ∨
      (report.exitCode = 0 ∧ NeedsNone registry o ∧ d' = d ∧
        ∀ d₁, migrate registry o d₁ = (.ok report, d₁)) ∨
      ∃ s action snapshot previous n, registry.entries.get? s = some action ∧
        o.snapshotHeight = some snapshot ∧ o.previousHeight = some previous ∧
        o.network = some n ∧ carryOut action o n snapshot previous d = (.ok report, d') := by
  unfold migrate at h
  split at h
  · rename_i previous snapshot n hprevious hsnapshot hnetwork
    split at h
    · exact nomatch (Prod.mk.inj h).1
    · obtain ⟨hreport, rfl⟩ := Prod.mk.inj h
      rw [← Except.ok.inj hreport]
      exact Or.inl ⟨rfl, rfl⟩
    · rename_i haction
      obtain ⟨hreport, rfl⟩ := Prod.mk.inj h
      -- two versions of one major number: nothing to migrate, and the directory is not looked at
      obtain ⟨source, target, hsource, htarget, hget⟩ := findAction_eq_ok haction
      obtain ⟨s, hs, hnone, hmajor⟩ := get_eq_ok hget
      rw [← Except.ok.inj hreport]
      refine Or.inr (Or.inl ⟨rfl, ?_, rfl, fun d₁ => ?_⟩)
      · exact ⟨source, target, s, hsource, htarget, hs, hnone, hmajor rfl⟩
      · rw [migrate, hprevious, hsnapshot, hnetwork]
        dsimp only
        rw [haction]
    · rename_i action haction
      obtain ⟨_, _, -, -, hget⟩ := findAction_eq_ok haction
      obtain ⟨s, -, hsome, -⟩ := get_eq_ok hget
      exact Or.inr (Or.inr ⟨s, action, snapshot, previous, n, hsome, hsnapshot, hprevious,
        hnetwork, h⟩)
  · exact nomatch (Prod.mk.inj h).1
  · exact nomatch (Prod.mk.inj h).1

/-- The one migration that comes with the program. -/
theorem eq_run_of_builtin {s : Step} (h : Migration.builtin.entries.get? s = some action) :
    action = Migration.run := by
  have hmem := Table.mem_of_get?_eq_some h
  rw [builtin, List.mem_singleton] at hmem
  exact (Prod.mk.inj hmem).2

-- ---------------------------------------------------------------------------
-- Codes
-- ---------------------------------------------------------------------------

/-- A migration fails with a failure of a migration before it writes. -/
theorem directory_eq_of_run_error {db : Database} {r : Request} {e : Failure}
    (h : Migration.run db n r d = (.error e, d')) (he : e.isMigrationFailure = true) : d' = d := by
  rcases run_eq_error h with ⟨-, hd⟩ | ⟨block, assets, -, hwrite⟩
  · exact hd
  · obtain ⟨text, fault, rfl⟩ := writeAll_error hwrite
    exact nomatch he

/-- A block is built from a store that can be read. -/
theorem allowsReading_of_build {db : Database} {r : Request}
    {x : Genesis.Block × List Genesis.Asset} (h : build db n r = .ok x) :
    db.access.allowsReading = true := by
  obtain ⟨-, _, _, hread, -⟩ := build_eq_ok.1 h
  obtain ⟨_, hload, -⟩ := Outcome.bind_eq_ok.1 hread
  exact Snapshot.allowsReading_of_load hload

/-- **All or nothing.** Where what is asked for can be written: a migration that fails changes no
file, and one that succeeds leaves the block, which follows the block at the height of the
snapshot, and its assets where they were asked for, and changes no other file and no other store.
The command ends with code 1 only where nothing was changed, or where the name of the store has a
question mark or a hash sign in it and opening it made a file. It ends with code 0 only behind a
migration that succeeded, or, whatever the directory, where no migration is needed. -/
theorem writes_all_or_nothing {db : Database} {r : Request}
    (hwrites : ∀ block assets, (writeAll r block assets d).2 = none) :
    (∀ e d', Migration.run db n r d = (.error e, d') → d' = d) ∧
    (∀ block d', Migration.run db n r d = (.ok block, d') → ∃ assets,
      build db n r = .ok (block, assets) ∧ Follows db.store n r.snapshotHeight assets block ∧
        Holds r block assets d d') ∧
    ∀ (o : Options) (d : Directory) (report : Report) (d' : Directory),
      migrate Migration.builtin o d = (.ok report, d') →
      (report.exitCode = 1 ∧ (d' = d ∨
        (∃ b ∈ Octets.ofText o.storeName, ¬ Locator.IsPlain b) ∧ Directory.MakesFile d d')) ∨
      (report.exitCode = 0 ∧
        ((∃ db n snapshot previous block, o.snapshotHeight = some snapshot ∧
            o.previousHeight = some previous ∧ o.network = some n ∧
            d.openStore o.storeName = .ok (db, d) ∧
            Migration.run db n (o.request snapshot previous) d = (.ok block, d')) ∨
          (NeedsNone Migration.builtin o ∧ d' = d ∧
            ∀ d₁, migrate Migration.builtin o d₁ = (.ok report, d₁)))) := by
  refine ⟨fun e d' h => ?_, fun block d' h => ?_, fun o d report d' h => ?_⟩
  · -- a run that fails after the block is built would need a write to fail
    rcases run_eq_error h with ⟨-, hd⟩ | ⟨block, assets, -, hwrite⟩
    · exact hd
    · rw [hwrites] at hwrite
      exact nomatch hwrite
  · obtain ⟨assets, hbuild, hholds⟩ := run_eq_ok h
    exact ⟨assets, hbuild, follows_of_build hbuild, hholds⟩
  · rcases migrate_eq_ok h with ⟨hcode, hd⟩ | ⟨hcode, hnone⟩ |
      ⟨s, action, snapshot, previous, n, haction, hsnapshot, hprevious, hnetwork, h⟩
    · exact Or.inl ⟨hcode, Or.inl hd⟩
    · exact Or.inr ⟨hcode, Or.inr hnone⟩
    · obtain rfl := eq_run_of_builtin haction
      rcases carryOut_eq_ok h with ⟨hcode, hd⟩ | ⟨db, d₁, hopen, hend⟩
      · exact Or.inl ⟨hcode, Or.inl hd⟩
      · have hopened := Directory.openStore_eq_ok hopen
        rcases hend with ⟨hcode, e, he, hrun⟩ | ⟨hcode, block, hrun⟩
        · obtain rfl := directory_eq_of_run_error hrun he
          exact Or.inl ⟨hcode, hopened.imp_right fun h => ⟨h.1, h.2.2⟩⟩
        · obtain ⟨assets, hbuild, -⟩ := run_eq_ok hrun
          rcases hopened with rfl | ⟨-, hclosed, -⟩
          · exact Or.inr ⟨hcode, Or.inl ⟨db, n, snapshot, previous, block, hsnapshot, hprevious,
              hnetwork, hopen, hrun⟩⟩
          · -- a store in a file that was just made cannot be read, so no block came of it
            have hread := allowsReading_of_build hbuild
            rw [hclosed] at hread
            exact nomatch hread

/-- The migration of the history of a delegate that forges leaves the files that it was asked
for. -/
theorem writes_all_or_nothing_forging : ∃ block d',
    Migration.run Genesis.forgingDatabase Genesis.Token.simpleNetwork forgingRequest {} =
      (.ok block, d') ∧ block.header.height = 309 ∧
    d'.read? "genesis.json" = some block.fileText ∧
    ∀ p, ¬ IsRequested forgingRequest d' p → d'.files.get? p = none := by
  obtain ⟨block, d', hrun⟩ := exists_run_forging
  obtain ⟨-, hok, -⟩ := writes_all_or_nothing writeAll_forging
  obtain ⟨assets, -, hfollows, hholds⟩ := hok block d' hrun
  exact ⟨block, d', hrun, hfollows.height_eq, hholds.block _ rfl (by decide), hholds.files⟩

/-- Options with a hash sign in the name of the store. -/
def hashedOptions : Options where
  store := some "new#.db"
  snapshotHeight := some 10
  previousHeight := some 5
  network := some .mainnet
  output := some "./genesis_block.json"
  assetsOutput := none
  fromVersion := some "3.0.0"
  toVersion := some "4.0.0"
  verbose := false

/-- **A file that is made.** With a hash sign in the name of the store the command ends with code 1,
and leaves a file that was not there before. -/
theorem migrate_makes_file :
    ∃ report d', migrate Migration.builtin hashedOptions {} = (.ok report, d') ∧
      report.exitCode = 1 ∧ ({} : Directory).files.get? ⟨false, ["new"]⟩ = none ∧
      d'.files.get? ⟨false, ["new"]⟩ = some "" := by
  have hcode : (migrate Migration.builtin hashedOptions {}).1.toOption.map Report.exitCode =
      some 1 := by decide +kernel
  have hfile : (migrate Migration.builtin hashedOptions {}).2.files.get? ⟨false, ["new"]⟩ =
      some "" := by decide +kernel
  revert hcode hfile
  rcases migrate Migration.builtin hashedOptions {} with ⟨_ | report, d'⟩ <;> intro hcode hfile
  · exact nomatch hcode
  · exact ⟨report, d', rfl, Option.some.inj hcode, rfl, hfile⟩

end Regenesis.CommandLine

import Mathlib
import Regenesis.Migration.Genesis
import Regenesis.Proofs.Assembly.Parts
import Regenesis.Proofs.Block.Commitment
import Regenesis.Proofs.Directory.Writing
import Regenesis.Proofs.Snapshot.Window
import Regenesis.Proofs.Stake.GeneratorKeys

/-!
# Proofs.Migration.Output — what a migration leaves behind

A migration writes after everything else, so one that fails before that writes nothing. One that
succeeds leaves the assets and the block at the places that were asked for, changes no other place,
and its block follows the block at the height of the snapshot.

* `run_eq_error` — where a failure comes from;
* `run_eq_ok`, `follows_of_build` — what the block of a success is made of;
* `holds_writeAll` — where the files of a success are.
-/

namespace Regenesis.Migration

open Genesis

-- ---------------------------------------------------------------------------
-- Files
-- ---------------------------------------------------------------------------

/-- Whether a text is asked for at a path that leads to a place. -/
def LeadsTo (d : Directory) (path : Option String) (p : Path) : Prop :=
  ∃ text, path = some text ∧ text ≠ "" ∧ d.reach text = .ok p

/-- Whether a directory differs from another in that a text was written where it was asked for. -/
structure Written (path : Option String) (content : String) (d d' : Directory) : Prop where
  read : ∀ text, path = some text → text ≠ "" → d'.read? text = some content
  reach : ∀ text p, d.reach text = .ok p → d'.reach text = .ok p
  files : ∀ p, ¬ LeadsTo d' path p → d'.files.get? p = d.files.get? p
  stores : ∀ p, ¬ LeadsTo d' path p → d'.stores.get? p = d.stores.get? p

/-- Where no text is asked for, nothing is written. -/
theorem written_self {path : Option String} (h : ∀ text, path = some text → text = "")
    (content : String) (d : Directory) : Written path content d d :=
  ⟨fun text hpath hne => absurd (h text hpath) hne, fun _ _ hreach => hreach, fun _ _ => rfl,
    fun _ _ => rfl⟩

/-- A text that is written changes its own place only. -/
theorem written_write {text content : String} {d d' : Directory} (hne : text ≠ "")
    (h : d.write text content = (d', none)) : Written (some text) content d d' := by
  obtain ⟨p, hp, hfiles, hstores, hreach⟩ := Directory.write_eq_ok h
  have hplace : ∀ q, ¬ LeadsTo d' (some text) q → (q == p) = false := by
    intro q hq
    refine beq_false_of_ne ?_
    rintro rfl
    exact hq ⟨text, rfl, hne, hp⟩
  refine ⟨fun other hother _ => ?_, hreach, fun q hq => ?_, fun q hq => ?_⟩
  · rw [← Option.some.inj hother]
    exact Directory.read?_write h
  · rw [hfiles, hplace q hq]
    rfl
  · rw [hstores, hplace q hq]
    rfl

/-- Writing where it is asked for changes that place only. -/
theorem written_writeTo {path : Option String} {content : String} {d d' : Directory}
    (h : writeTo path content d = (d', none)) : Written path content d d' := by
  cases path with
  | none =>
    obtain rfl : d = d' := (Prod.mk.inj h).1
    refine written_self (fun text hpath => ?_) content d
    exact nomatch hpath
  | some text =>
    rw [writeTo] at h
    split at h
    · rename_i hempty
      obtain rfl := (Prod.mk.inj h).1
      refine written_self (fun other hother => ?_) content d
      rw [← Option.some.inj hother]
      exact String.isEmpty_iff.1 hempty
    · rename_i hempty
      exact written_write (fun heq => hempty (String.isEmpty_iff.2 heq)) h

/-- Writing everything is writing the assets and then the block. -/
theorem written_writeAll {r : Request} {block : Block} {assets : List Asset} {d d' : Directory}
    (h : writeAll r block assets d = (d', none)) :
    ∃ d₁, Written r.assetsPath (assetsFileText assets) d d₁ ∧
      Written r.blockPath block.fileText d₁ d' := by
  unfold writeAll at h
  split at h
  · exact nomatch h
  · rename_i d₁ hassets
    exact ⟨d₁, written_writeTo hassets, written_writeTo h⟩

theorem writeTo_error {path : Option String} {content : String} {d : Directory} {e : Failure}
    (h : (writeTo path content d).2 = some e) : ∃ text fault, e = .path text fault := by
  unfold writeTo at h
  split at h
  · exact nomatch h
  · split at h
    · exact nomatch h
    · exact Directory.write_error h

/-- Writing fails at a path. -/
theorem writeAll_error {r : Request} {block : Block} {assets : List Asset} {d : Directory}
    {e : Failure} (h : (writeAll r block assets d).2 = some e) :
    ∃ text fault, e = .path text fault := by
  unfold writeAll at h
  split at h
  · rename_i hassets
    exact writeTo_error ((congrArg Prod.snd hassets).trans h)
  · exact writeTo_error h

/-- Whether a place is one of those to which the paths of a request lead. -/
def IsRequested (r : Request) (d : Directory) (p : Path) : Prop :=
  LeadsTo d r.assetsPath p ∨ LeadsTo d r.blockPath p

/-- Whether a directory differs from another in the files that a request asks for: the block is
where it was asked for, and so are the assets, unless that is the same place. -/
structure Holds (r : Request) (block : Block) (assets : List Asset) (d d' : Directory) :
    Prop where
  block : ∀ text, r.blockPath = some text → text ≠ "" → d'.read? text = some block.fileText
  assets : ∀ text p, r.assetsPath = some text → text ≠ "" → d'.reach text = .ok p →
    ¬ LeadsTo d' r.blockPath p → d'.read? text = some (assetsFileText assets)
  files : ∀ p, ¬ IsRequested r d' p → d'.files.get? p = d.files.get? p
  stores : ∀ p, ¬ IsRequested r d' p → d'.stores.get? p = d.stores.get? p

/-- **Files.** Writing everything leaves what was asked for, and changes nothing else. -/
theorem holds_writeAll {r : Request} {block : Block} {assets : List Asset} {d d' : Directory}
    (h : writeAll r block assets d = (d', none)) : Holds r block assets d d' := by
  obtain ⟨d₁, hassets, hblock⟩ := written_writeAll h
  have hearlier : ∀ p, LeadsTo d₁ r.assetsPath p → LeadsTo d' r.assetsPath p :=
    fun p h => h.imp fun text h => ⟨h.1, h.2.1, hblock.reach text p h.2.2⟩
  refine ⟨hblock.read, fun text p hpath hne hreach hother => ?_, fun p hp => ?_, fun p hp => ?_⟩
  · have hread := hassets.read text hpath hne
    rw [Directory.read?] at hread ⊢
    split at hread
    · rename_i q hq
      obtain rfl := Except.ok.inj ((hblock.reach text q hq).symm.trans hreach)
      rw [hreach]
      exact (hblock.files q hother).trans hread
    · cases hread
  · rw [hblock.files p fun hleads => hp (Or.inr hleads),
      hassets.files p fun hleads => hp (Or.inl (hearlier p hleads))]
  · rw [hblock.stores p fun hleads => hp (Or.inr hleads),
      hassets.stores p fun hleads => hp (Or.inl (hearlier p hleads))]

-- ---------------------------------------------------------------------------
-- Outcomes
-- ---------------------------------------------------------------------------

section
variable {db : Database} {n : Network} {r : Request} {d d' : Directory}

/-- A block is built if both heights can be shown, the assets can be read, the snapshot has a block,
and the block behind that one can be written. -/
theorem build_eq_ok {block : Block} {assets : List Asset} :
    build db n r = .ok (block, assets) ↔
      (Decimal.fits r.snapshotHeight = true ∧ Decimal.fits r.previousHeight = true) ∧
      ∃ s header, readAssets db r.snapshotHeight r.previousHeight n = .ok (s, assets) ∧
        s.block = some header ∧ blockAfter Digest.sha256 assets header n = .ok block := by
  rw [build]
  constructor
  · intro h
    obtain ⟨_, hprint, h⟩ := Outcome.bind_eq_ok.1 h
    obtain ⟨⟨s, assets'⟩, hread, h⟩ := Outcome.bind_eq_ok.1 h
    -- both heights are printed before anything is read
    refine ⟨by simpa using Decimal.print_eq_ok.1 hprint, s, ?_⟩
    dsimp only at h
    cases hfound : s.block with
    | none =>
      rw [hfound] at h
      exact nomatch h
    | some header =>
      rw [hfound] at h
      obtain ⟨b, hb, h⟩ := Outcome.bind_eq_ok.1 h
      obtain ⟨rfl, rfl⟩ := Prod.mk.inj (Except.ok.inj h)
      exact ⟨header, hread, rfl, hb⟩
  · rintro ⟨hfits, s, header, hread, hfound, hb⟩
    rw [Decimal.print_of_fits (by simpa using hfits), Outcome.ok_bind, hread, Outcome.ok_bind]
    dsimp only
    rw [hfound]
    dsimp only
    rw [hb]
    rfl

theorem run_of_build_error {e : Failure} (h : build db n r = .error e) (d : Directory) :
    run db n r d = (.error e, d) := by
  rw [run, h]

/-- Heights in range can be shown. -/
theorem print_of_checkRange
    (hrange : Snapshot.checkRange r.snapshotHeight r.previousHeight = .ok ()) :
    Decimal.print [r.snapshotHeight, r.previousHeight] = .ok () := by
  obtain ⟨hprevious, hlt, hheight⟩ := Snapshot.checkRange_eq_ok.1 hrange
  refine Decimal.print_of_fits (List.forall_mem_cons.2 ⟨?_, List.forall_mem_singleton.2 ?_⟩)
  · exact Layout.fits_of_natAbs_le (by omega)
  · exact Layout.fits_of_natAbs_le (by omega)

/-- Pages of a size that the store does not take end a migration of heights in range, whatever is
stored. -/
theorem run_of_isInteger_eq_false (hopen : db.access ≠ .closed)
    (hpage : Database.isInteger db.pageSize = false)
    (hrange : Snapshot.checkRange r.snapshotHeight r.previousHeight = .ok ()) (n : Network)
    (d : Directory) : run db n r d = (.error .pageSizeOutside, d) := by
  have hload := Snapshot.load_of_refused hrange
    (Cursor.checkFetch_of_isInteger_eq_false hopen hpage _)
  refine run_of_build_error ?_ d
  rw [build, print_of_checkRange hrange, Outcome.ok_bind, readAssets, hload]
  rfl

/-- A failure of a migration is one of building, or one of writing at a path. -/
theorem run_eq_error {e : Failure} (h : run db n r d = (.error e, d')) :
    (build db n r = .error e ∧ d' = d) ∨
      ∃ block assets, build db n r = .ok (block, assets) ∧
        (writeAll r block assets d).2 = some e := by
  unfold run at h
  split at h
  · rename_i hbuild
    obtain ⟨he, hd⟩ := Prod.mk.inj h
    obtain rfl := Except.error.inj he
    exact Or.inl ⟨hbuild, hd.symm⟩
  · rename_i block assets hbuild
    split at h
    · rename_i hwrite
      obtain ⟨he, -⟩ := Prod.mk.inj h
      obtain rfl := Except.error.inj he
      exact Or.inr ⟨block, assets, hbuild, congrArg Prod.snd hwrite⟩
    · exact nomatch (Prod.mk.inj h).1

/-- **Success.** The block of a migration that succeeds is built, and the files hold it. -/
theorem run_eq_ok {block : Block} (h : run db n r d = (.ok block, d')) :
    ∃ assets, build db n r = .ok (block, assets) ∧ Holds r block assets d d' := by
  unfold run at h
  split at h
  · exact nomatch (Prod.mk.inj h).1
  · rename_i block' assets hbuild
    split at h
    · exact nomatch (Prod.mk.inj h).1
    · rename_i hwrite
      obtain ⟨he, hd⟩ := Prod.mk.inj h
      obtain rfl := Except.ok.inj he
      obtain rfl := hd
      exact ⟨assets, hbuild, holds_writeAll hwrite⟩

/-- Whether a block has these assets and follows the block at the height of the snapshot. -/
structure Follows (s : Store) (n : Network) (height : Int) (assets : List Asset) (b : Block) :
    Prop where
  names : assets.map Asset.name = moduleNames
  assets_eq : b.assets = assets
  root_eq : b.header.assetRoot = assetRoot Digest.sha256 assets
  height_eq : b.header.height = height + 1
  previous : ∃ key header, Layout.heightKey height = .ok key ∧ Snapshot.LeadsTo s key header ∧
    b.header.previousBlockId = header.id ∧
    b.header.timestamp - n.genesisDelay = header.timestamp

/-- **Blocks.** A block that is built follows the block at the height of the snapshot. -/
theorem follows_of_build {block : Block} {assets : List Asset}
    (h : build db n r = .ok (block, assets)) :
    Follows db.store n r.snapshotHeight assets block := by
  obtain ⟨-, s, header, hread, hfound, hb⟩ := build_eq_ok.1 h
  obtain ⟨s', hload, hread⟩ := Outcome.bind_eq_ok.1 hread
  obtain ⟨keys, -, hread⟩ := Outcome.bind_eq_ok.1 hread
  obtain ⟨assets', hassemble, hread⟩ := Outcome.bind_eq_ok.1 hread
  obtain ⟨rfl, rfl⟩ := Prod.mk.inj (Except.ok.inj hread)
  obtain ⟨-, -, -, -, -, -, hblock⟩ := Snapshot.load_eq_ok.1 hload
  rw [hfound] at hblock
  obtain ⟨⟨key, hkey, hleads⟩, hheight⟩ := Snapshot.headerAt_eq_some hblock
  rw [eq_of_blockAfter hb]
  refine ⟨names_of_assemble hassemble, rfl, rfl, ?_, key, header, hkey, hleads, rfl, ?_⟩
  · exact congrArg (· + 1) hheight
  · exact Int.add_sub_cancel _ _

end

-- ---------------------------------------------------------------------------
-- A migration that succeeds
-- ---------------------------------------------------------------------------

/-- The migration of the history of a delegate that forges, at the height of its block. -/
def forgingRequest : Request := ⟨308, 307, some "genesis.json", some "assets.json"⟩

/-- The block of the history can be built. -/
theorem exists_build_forging : ∃ block assets,
    build forgingDatabase Token.simpleNetwork forgingRequest = .ok (block, assets) := by
  obtain ⟨assets, hassets⟩ : ∃ assets, readAssets forgingDatabase 308 307 Token.simpleNetwork =
      .ok (forgingSnapshotAt 308, assets) :=
    exists_readAssets_forgingAt (by decide) (by decide) (by decide)
  have hheader : (forgingSnapshotAt 308).block = some (Snapshot.plainHeader [1] forgerKey) := rfl
  have hfits : Decimal.fits 0 = true ∧ Decimal.fits 7200 = true ∧ Decimal.fits 309 = true := by
    decide
  have hwritable : (headerAfter Digest.sha256 assets (Snapshot.plainHeader [1] forgerKey)
      Token.simpleNetwork).isWritable = true := Header.isWritable_iff.2 hfits
  obtain ⟨block, hblock⟩ : ∃ block, blockAfter Digest.sha256 assets
      (Snapshot.plainHeader [1] forgerKey) Token.simpleNetwork = .ok block := ⟨_, if_pos hwritable⟩
  exact ⟨block, assets, build_eq_ok.2 ⟨by decide, _, _, hassets, hheader, hblock⟩⟩

/-- A text that is a name leads to the place of the name in the working folder. -/
theorem reach_name {name : String} (d : Directory) (hnull : ¬ name.toList.contains (Char.ofNat 0))
    (hnames : Path.namesOf name = [name]) (hstart : Path.start name = ⟨false, []⟩)
    (hstep : Path.step ⟨false, []⟩ name = ⟨false, [name]⟩) (hempty : name.isEmpty = false)
    (hlength : ¬ Directory.maxNameLength < name.utf8ByteSize) :
    d.reach name = .ok ⟨false, [name]⟩ := by
  have hfolder : d.isFolder ⟨false, []⟩ = true := rfl
  rw [Directory.reach, if_neg hnull, hnames, hstart, Directory.follow, hfolder, hstep]
  simp [hempty, hlength, Directory.follow]

/-- A text is put at the place to which its path leads. -/
theorem writeTo_of_reach {d : Directory} {name : String} {p : Path} (hempty : name.isEmpty = false)
    (hfolders : Path.folderTexts name = []) (hreach : d.reach name = .ok p)
    (hfolder : d.isFolder p = false) (content : String) :
    writeTo (some name) content d = (d.putFile p content, none) := by
  rw [writeTo, if_neg (by rw [hempty]; decide)]
  exact Directory.write_of_reach hfolders hreach hfolder content

/-- Both files of the request can be written to an empty directory. -/
theorem writeAll_forging (block : Block) (assets : List Asset) :
    (writeAll forgingRequest block assets {}).2 = none := by
  have hassets : ∀ d : Directory, d.reach "assets.json" = .ok ⟨false, ["assets.json"]⟩ :=
    fun d => reach_name d (by decide +kernel) (by decide +kernel) (by decide +kernel)
      (by decide +kernel) (by decide +kernel) (by decide +kernel)
  have hblock : ∀ d : Directory, d.reach "genesis.json" = .ok ⟨false, ["genesis.json"]⟩ :=
    fun d => reach_name d (by decide +kernel) (by decide +kernel) (by decide +kernel)
      (by decide +kernel) (by decide +kernel) (by decide +kernel)
  have hfirst := writeTo_of_reach (by decide +kernel) (by decide +kernel) (hassets {}) rfl
    (assetsFileText assets)
  have hsecond := writeTo_of_reach (by decide +kernel) (by decide +kernel)
    (hblock (({} : Directory).putFile ⟨false, ["assets.json"]⟩ (assetsFileText assets))) rfl
    block.fileText
  rw [writeAll, forgingRequest, hfirst]
  dsimp only
  rw [hsecond]

/-- The history is migrated. -/
theorem exists_run_forging : ∃ block d', run forgingDatabase Token.simpleNetwork forgingRequest {} =
    (.ok block, d') := by
  obtain ⟨block, assets, hbuild⟩ := exists_build_forging
  have hwrite := writeAll_forging block assets
  rw [run, hbuild]
  dsimp only
  split
  · rename_i hfailed
    rw [hfailed] at hwrite
    exact nomatch hwrite
  · exact ⟨block, _, rfl⟩

end Regenesis.Migration

import Regenesis.Directory.Basic
import Regenesis.Genesis.Assembly
import Regenesis.Genesis.Block
import Regenesis.Migration.Registry

/-!
# Migration.Genesis — from a snapshot to a genesis block

The migration reads a snapshot, assembles its assets, builds the block that follows the snapshot's
block, and only then writes what was asked for: the assets, then the block. Where it fails before
that, it writes nothing.
-/

namespace Regenesis.Migration

/-- What a migration is asked for. A path that is missing or empty asks for no file. -/
structure Request where
  snapshotHeight : Int
  previousHeight : Int
  blockPath : Option String := none
  assetsPath : Option String := none
deriving DecidableEq, Repr

/-- The genesis block of a snapshot and the assets that it is made of. The log tells the heights
first. -/
def build (db : Database) (n : Network) (r : Request) :
    Except Failure (Genesis.Block × List Genesis.Asset) := do
  Decimal.print [r.snapshotHeight, r.previousHeight]
  let (snapshot, assets) ← Genesis.readAssets db r.snapshotHeight r.previousHeight n
  match snapshot.block with
  | none => .error (.history (.snapshotBlock r.snapshotHeight))
  | some header => return (← Genesis.blockAfter Digest.sha256 assets header n, assets)

/-- Writes a text, if there is a path to write it to. -/
def writeTo (path : Option String) (text : String) (d : Directory) : Directory × Option Failure :=
  match path with
  | none => (d, none)
  | some path => if path.isEmpty then (d, none) else d.write path text

/-- Writes the assets and then the block, where they are asked for. -/
def writeAll (r : Request) (block : Genesis.Block) (assets : List Genesis.Asset) (d : Directory) :
    Directory × Option Failure :=
  match writeTo r.assetsPath (Genesis.assetsFileText assets) d with
  | (d, some e) => (d, some e)
  | (d, none) => writeTo r.blockPath block.fileText d

/-- Carries out a migration: the block or a failure, and the directory afterwards. -/
def run (db : Database) (n : Network) (r : Request) (d : Directory) :
    Except Failure Genesis.Block × Directory :=
  match build db n r with
  | .error e => (.error e, d)
  | .ok (block, assets) =>
    match writeAll r block assets d with
    | (d, some e) => (.error e, d)
    | (d, none) => (.ok block, d)

/-- A migration: what it does with a store, a network, a request and a directory. -/
abbrev Action :=
  Database → Network → Request → Directory → Except Failure Genesis.Block × Directory

/-- The migrations that come with the program. -/
def builtin : Registry Action := ⟨[(⟨⟨3, 0, 0⟩, ⟨4, 0, 0⟩⟩, run)]⟩

end Regenesis.Migration

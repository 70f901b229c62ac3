import Regenesis.CommandLine.Options
import Regenesis.Directory.Opening
import Regenesis.Migration.Genesis

/-!
# CommandLine.Command — the command and its answer

The command finds the migration between the two versions, opens the store for reading, migrates, and
prints a summary. It ends with code 0 if it migrated or nothing was to be done, with code 1 if it
could not, and with code 2 if its arguments are wrong. A failure that is no failure of a migration
is not reported: the command breaks off. It also breaks off where it needs the value of an option
that is given without one. What it did in the directory up to then stays done.
-/

namespace Regenesis.CommandLine

/-- What a command reports when it ends. -/
structure Report where
  exitCode : Nat
  /-- What it printed. -/
  output : String
  /-- The error that it reported, if any. -/
  error : Option String

/-- Why a command breaks off. -/
inductive Breakdown where
  /-- A failure that is no failure of a migration. -/
  | failure (f : Failure)
  /-- Only one of the heights has a value, the previous one or the other, and they are compared. -/
  | heights (previousHasValue : Bool)
  /-- The network has no value. -/
  | network
  /-- A version has no value. -/
  | version
  /-- Paths of files have no value. -/
  | request (issues : List Record.Issue)
deriving DecidableEq, Repr

/-- The message of a breakdown. What is given without a value is an empty list. -/
def Breakdown.message : Breakdown → String
  | .failure f => f.message
  | .heights true => "'>=' not supported between instances of 'int' and 'list'"
  | .heights false => "'>=' not supported between instances of 'list' and 'int'"
  | .network => "unhashable type: 'list'"
  | .version => "'list' object has no attribute 'split'"
  | .request issues => Record.headline "MigrationContext" issues

/-- The name of the store. An empty list is written as two brackets. -/
def Options.storeName (o : Options) : String := o.store.getD "[]"

/-- The complaints about paths without a value. -/
def Options.pathIssues (o : Options) : List Record.Issue :=
  (if o.output.isNone then [⟨.notText, [.member "output_path"]⟩] else []) ++
    (if o.assetsOutput = some none then [⟨.notText, [.member "assets_path"]⟩] else [])

/-- The summary of a migration. -/
def summary (n : Network) (block : Genesis.Block) (output : String) : String :=
  let modules := ", ".intercalate (block.assets.map Genesis.Asset.name)
  "\n--- Genesis Summary ---\n" ++
    s!"Network:      {n.networkId}\n" ++
    s!"Height:       {block.header.height}\n" ++
    s!"Block ID:     " ++ Hex.encode block.id ++ "\n" ++
    s!"Asset root:   " ++ Hex.encode block.header.assetRoot ++ "\n" ++
    s!"Modules:      {modules}\n" ++
    s!"Genesis file: {output}\n"

/-- How a failure to find a migration is reported. -/
def lookupError : Failure → String
  | .unknownMigration step registered =>
    Text.quote (Failure.unknownMigration step registered).message
  | e => e.message

/-- Migrates the store with an action, between heights that are known. -/
def carryOut (action : Migration.Action) (o : Options) (n : Network) (snapshot previous : Int)
    (d : Directory) : Except Breakdown Report × Directory :=
  match d.openStore o.storeName with
  | .error e =>
    if e.isMigrationFailure then (.ok ⟨1, "", some e.message⟩, d) else (.error (.failure e), d)
  | .ok (db, d) =>
    match o.pathIssues with
    | [] =>
      match action db n ⟨snapshot, previous, o.output, o.assetsOutput.join⟩ d with
      | (.ok block, d) => (.ok ⟨0, summary n block (o.output.getD ""), none⟩, d)
      | (.error e, d) =>
        if e.isMigrationFailure then (.ok ⟨1, "", some ("Migration failed: " ++ e.message)⟩, d)
        else (.error (.failure e), d)
    | issues => (.error (.request issues), d)

/-- The migration between two versions, if one is needed. -/
def findAction (registry : Registry Migration.Action) (o : Options) :
    Except Breakdown (Except Failure (Option Migration.Action)) :=
  match o.fromVersion, o.toVersion with
  | none, _ => .error .version
  | some source, none =>
    match Version.ofText source with
    | .error e => .ok (.error e)
    | .ok _ => .error .version
  | some source, some target => .ok (registry.get source target)

/-- Migrates as asked. -/
def migrate (registry : Registry Migration.Action) (o : Options) (d : Directory) :
    Except Breakdown Report × Directory :=
  match o.previousHeight, o.snapshotHeight, o.network with
  | some previous, some snapshot, some n =>
    match findAction registry o with
    | .error e => (.error e, d)
    | .ok (.error e) => (.ok ⟨1, "", some (lookupError e)⟩, d)
    | .ok (.ok none) =>
      let source := o.fromVersion.getD ""
      let target := o.toVersion.getD ""
      (.ok ⟨0, s!"Protocol {source} -> {target} needs no genesis migration.\n", none⟩, d)
    | .ok (.ok (some action)) => carryOut action o n snapshot previous d
  | some _, some _, none => (.error .network, d)
  | previous, _, _ => (.error (.heights previous.isSome), d)

/-- Runs the command. -/
def run (arguments : List String) (d : Directory) : Except Breakdown Report × Directory :=
  match parse arguments with
  | .error _ => (.ok ⟨2, "", none⟩, d)
  | .ok .help => (.ok ⟨0, "", none⟩, d)
  | .ok (.migrate options) => migrate Migration.builtin options d

end Regenesis.CommandLine

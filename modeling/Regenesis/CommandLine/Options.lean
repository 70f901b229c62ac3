import Regenesis.CommandLine.Arguments
import Regenesis.Network

/-!
# CommandLine.Options — what the command is asked to do

The store, the height of the snapshot and the height of the previous one must be given. The network,
the path of the genesis block and the two versions have defaults; the assets are only written if a
path is given. The first fault in the order of the arguments is reported, and a request for help
counts if it comes before any fault. An option that is given without a value is no fault here, but
the command cannot go on when it comes to need the value.
-/

namespace Regenesis.CommandLine

/-- The options of the command. -/
inductive Setting where
  | help
  | store
  | snapshotHeight
  | previousHeight
  | network
  | output
  | assetsOutput
  | fromVersion
  | toVersion
  | verbose
deriving DecidableEq, Repr

/-- The names of the options. -/
def specs : List (OptionSpec Setting) := [
  ⟨.help, ["-h", "--help"], false⟩,
  ⟨.store, ["--db"], true⟩,
  ⟨.snapshotHeight, ["--snapshot-height"], true⟩,
  ⟨.previousHeight, ["--snapshot-height-prev"], true⟩,
  ⟨.network, ["--network"], true⟩,
  ⟨.output, ["--output", "-o"], true⟩,
  ⟨.assetsOutput, ["--assets-output"], true⟩,
  ⟨.fromVersion, ["--from-version"], true⟩,
  ⟨.toVersion, ["--to-version"], true⟩,
  ⟨.verbose, ["--verbose", "-v"], false⟩]

/-- One line for every option. -/
def usage : String :=
  "options:\n" ++ String.join (specs.map fun s =>
    "  " ++ ", ".intercalate s.names ++ (if s.takesValue then " VALUE" else "") ++ "\n")

/-- What an option states: a value, or nothing, if it is given without one. -/
abbrev Stated (α : Type) := Option α

/-- The options as far as they are read. -/
structure Partial where
  help : Bool := false
  store : Option (Stated String) := none
  snapshotHeight : Option (Stated Int) := none
  previousHeight : Option (Stated Int) := none
  network : Stated Network := some Network.mainnet
  output : Stated String := some "./genesis_block.json"
  assetsOutput : Option (Stated String) := none
  fromVersion : Stated String := some "3.0.0"
  toVersion : Stated String := some "4.0.0"
  verbose : Bool := false

/-- What the command is asked to do. -/
structure Options where
  store : Stated String
  snapshotHeight : Stated Int
  previousHeight : Stated Int
  network : Stated Network
  output : Stated String
  /-- The path for the assets; they are not written unless there is one. -/
  assetsOutput : Option (Stated String)
  fromVersion : Stated String
  toVersion : Stated String
  verbose : Bool

/-- What arguments ask for: help, or a migration. -/
inductive Invocation where
  | help
  | migrate (options : Options)

/-- A height as it is given. -/
def heightValue (g : Given Setting) : Except UsageFault (Stated Int) :=
  match g.value with
  | none => .ok none
  | some text =>
    match Decimal.read text with
    | .ok n => .ok (some n)
    | .error _ => .error (.badValue g.name text)

/-- A network as it is given. -/
def networkValue (g : Given Setting) : Except UsageFault (Stated Network) :=
  match g.value with
  | none => .ok none
  | some text =>
    match Network.named text with
    | .ok n => .ok (some n)
    | .error _ => .error (.badValue g.name text)

/-- Takes an option; help ends the reading. -/
def takeOption (p : Partial) (g : Given Setting) : Except UsageFault (Partial × Bool) :=
  match g.key with
  | .help => .ok ({ p with help := true }, true)
  | .store => .ok ({ p with store := some g.value }, false)
  | .snapshotHeight => do return ({ p with snapshotHeight := some (← heightValue g) }, false)
  | .previousHeight => do return ({ p with previousHeight := some (← heightValue g) }, false)
  | .network => do return ({ p with network := ← networkValue g }, false)
  | .output => .ok ({ p with output := g.value }, false)
  | .assetsOutput => .ok ({ p with assetsOutput := some g.value }, false)
  | .fromVersion => .ok ({ p with fromVersion := g.value }, false)
  | .toVersion => .ok ({ p with toVersion := g.value }, false)
  | .verbose => .ok ({ p with verbose := true }, false)

/-- What an option states that must be given. -/
def needed {α : Type} (name : String) : Option α → Except UsageFault α
  | some a => .ok a
  | none => .error (.missing name)

/-- Whether two heights are known to be in the wrong order. Two heights without a value are. -/
def isWrongOrder : Stated Int → Stated Int → Bool
  | some previous, some snapshot => snapshot ≤ previous
  | none, none => true
  | _, _ => false

/-- The options of which everything is read. -/
def Partial.complete (p : Partial) (stray : Bool) : Except UsageFault Options := do
  let store ← needed "--db" p.store
  let snapshotHeight ← needed "--snapshot-height" p.snapshotHeight
  let previousHeight ← needed "--snapshot-height-prev" p.previousHeight
  if stray then .error .unexpected
  else if isWrongOrder previousHeight snapshotHeight then .error .heightOrder
  else
    return ⟨store, snapshotHeight, previousHeight, p.network, p.output, p.assetsOutput,
      p.fromVersion, p.toVersion, p.verbose⟩

/-- What arguments ask for. -/
def parse (arguments : List String) : Except UsageFault Invocation := do
  let items ← items specs arguments
  let (p, stray) ← foldOptions takeOption {} false items
  if p.help then return .help else return .migrate (← p.complete stray)

end Regenesis.CommandLine

import Regenesis.CommandLine.Command
import Regenesis.Store.Dump

/-!
# Main — the command as a program

The store is read from the file that holds its dump. What the command prints goes to the output,
what it reports goes to the error output, and the files that it wrote are written to disk once it
is done.
-/

namespace Regenesis.Program

open CommandLine

/-- The text of the path in the locator of a store. -/
def storePath (name : String) : String :=
  match Locator.ofText? name with
  | some l => l.pathText
  | none => name

/-- What lies at the path of the store: a store, a file that is none, or nothing. -/
def readDirectory (name : String) : IO Directory := do
  let path := storePath name
  try
    let text ← IO.FS.readFile path
    match Store.ofDump? text with
    | some store => return { stores := [(Path.ofText path, store)] }
    | none => return { files := [(Path.ofText path, text)] }
  catch _ => return {}

/-- Writes a file, and the directories around it where they are missing. -/
def writeFile (path : Path) (text : String) : IO Unit := do
  IO.FS.createDirAll path.outer.text
  IO.FS.writeFile path.text text

/-- Carries out a migration and gives the exit code. -/
def execute (options : Options) : IO UInt32 := do
  let before ← readDirectory options.storeName
  let (outcome, after) := migrate Migration.builtin options before
  for (path, text) in after.files do
    if before.files.get? path != some text then writeFile path text
  match outcome with
  | .error breakdown =>
    IO.eprintln breakdown.message
    return 1
  | .ok report =>
    IO.print report.output
    if let some message := report.error then IO.eprintln message
    return report.exitCode.toUInt32

end Regenesis.Program

/-- The command. -/
def main (arguments : List String) : IO UInt32 := do
  match Regenesis.CommandLine.parse arguments with
  | .error fault =>
    IO.eprint Regenesis.CommandLine.usage
    IO.eprintln fault.message
    return 2
  | .ok .help =>
    IO.print Regenesis.CommandLine.usage
    return 0
  | .ok (.migrate options) => Regenesis.Program.execute options

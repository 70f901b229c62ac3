import Regenesis.Directory.Basic
import Regenesis.Store.Database
import Regenesis.Store.Locator

/-!
# Directory.Opening — stores in a directory

The command opens a store by a locator, for reading unless the locator has options that say
otherwise. A file that is no store can be opened too, but not be read, and the same is true of a
transient store, since nothing was ever put into it. Where the terms allow it, a missing file is
made, without a text.

A database that is open while the directory changes keeps its rows in the place of its store, and
loses them when another file takes that place.
-/

namespace Regenesis.Directory

/-- The place of the file of a store. Two points cancel the name before them even where nothing is
there, but no name leads on from a file. -/
def seek? (d : Directory) : Path → List String → Option Path
  | p, [] => some p
  | p, name :: rest =>
    if name = "" ∨ name = "." then d.seek? p rest
    else if name = ".." then
      if p.absolute && p.names.isEmpty then none else d.seek? p.outer rest
    else if d.isFile p || maxNameLength < name.utf8ByteSize then none
    else d.seek? (p.step name) rest

/-- Opens the store at a place, on terms of a locator; `none` if it cannot be opened. The directory
changes if a file is made. -/
def openPlace? (d : Directory) (name : String) (mode : Locator.Mode) (p : Path) :
    Option (Database × Directory) :=
  let unreadable := Database.unreadable name Database.defaultPageSize
  match d.stores.get? p with
  | some store => some (⟨name, .readOnly, Database.defaultPageSize, store⟩, d)
  | none =>
    if (d.files.get? p).isSome then some (unreadable, d)
    else if !d.isFolder p && d.isFolder p.outer && mode = .create then
      some (unreadable, d.putFile p "")
    else none

/-- Opens what a locator names; `none` if it cannot be opened. -/
def openLocator? (d : Directory) (name : String) (l : Locator) : Option (Database × Directory) := do
  let t ← l.terms?
  if l.isTransient t then return (Database.unreadable name Database.defaultPageSize, d)
  else d.openPlace? name t.mode (← d.seek? (.start l.pathText) (Path.namesOf l.pathText))

/-- Opens the store of a name for reading. The name comes first in the locator, so it may bring
options of its own, or keep the option behind it from being one. -/
def openStore (d : Directory) (name : String) : Except Failure (Database × Directory) :=
  if name.toList.contains (Char.ofNat 0) then .error (.path name .null)
  else
    match (Locator.ofText? (name ++ "?mode=ro")).bind (d.openLocator? name) with
    | some opened => .ok opened
    | none => .error (.storage (.opening name))

-- ---------------------------------------------------------------------------
-- Databases that stay open
-- ---------------------------------------------------------------------------

/-- Whether the store of a database is in its place. -/
def holdsStore (d : Directory) (db : Database) : Bool :=
  (d.stores.get? (Path.ofText db.name)).isSome

/-- The directory with the rows of a database in the place of its store. -/
def refresh (d : Directory) (db : Database) : Directory :=
  if d.holdsStore db then { d with stores := d.stores.put (Path.ofText db.name) db.store } else d

end Regenesis.Directory

namespace Regenesis.Database

/-- The database after its directory has changed. -/
def within (db : Database) (d : Directory) : Database :=
  if d.holdsStore db || db.access = .closed then db else { db with access := .replaced }

/-- The database opened again, by its name, with another page size. A file that is no store cannot
be opened for writing. -/
def reopen? (db : Database) (d : Directory) (access : Access) (pageSize : Int) : Option Database :=
  if d.holdsStore db then some { db with access, pageSize }
  else if access = .readWrite then none
  else some (unreadable db.name pageSize)

end Regenesis.Database

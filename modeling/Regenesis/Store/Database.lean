import Regenesis.Failure
import Regenesis.Store.Basic

/-!
# Store.Database — a store that is open, or closed

A database is a store with a name, a way of access, and the number of rows that a scan fetches at a
time. A closed database refuses everything; one that is open for reading refuses to write a row. If
its file is replaced while it is open, a database cannot read or write any row from then on.
-/

namespace Regenesis

/-- What a database lets be done. -/
inductive Access where
  | readWrite
  | readOnly
  /-- Nothing that touches a row: another file is in the place of the store. -/
  | replaced
  /-- Nothing: the database is closed, or there never was a store in its file. -/
  | closed
deriving DecidableEq, Repr

/-- Whether rows can be read. -/
def Access.allowsReading : Access → Bool
  | .readWrite | .readOnly => true
  | .replaced | .closed => false

/-- A store with the terms on which it is used. -/
structure Database where
  name : String
  access : Access
  /-- The number of rows of a page; a negative number stands for all rows. -/
  pageSize : Int
  store : Store

namespace Database

/-- The page size that is used unless another is asked for. -/
def defaultPageSize : Int := 1000

/-- The least number that is too great for the store. Its integers have 64 bits, one of which is the
sign. -/
def integerLimit : Int := Nat.pow 2 63

/-- Whether a number is an integer of the store. -/
def isInteger (n : Int) : Bool := decide (-integerLimit ≤ n) && decide (n < integerLimit)

/-- A new database without rows. -/
def create (name : String) (pageSize : Int) : Database := ⟨name, .readWrite, pageSize, .empty⟩

/-- A database of a file that is no store. -/
def unreadable (name : String) (pageSize : Int) : Database := ⟨name, .closed, pageSize, .empty⟩

/-- The value of a key, if it has one. -/
def get (db : Database) (key : Octets) : Except Failure (Option Octets) :=
  if db.access.allowsReading then .ok (db.store.get? key) else .error (.storage (.read key))

/-- The database with rows put into it. To put no row goes well unless it is closed. -/
def putAll (db : Database) (rows : List Row) : Except Failure Database :=
  if db.access = .closed ∨ (db.access ≠ .readWrite ∧ rows ≠ []) then
    .error (.storage (.write db.name))
  else .ok { db with store := db.store.putAll rows }

/-- The database with a row put into it. -/
def put (db : Database) (r : Row) : Except Failure Database := db.putAll [r]

/-- The database closed. -/
def close (db : Database) : Database := { db with access := .closed }

end Database

end Regenesis

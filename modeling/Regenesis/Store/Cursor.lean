import Regenesis.Store.Database

/-!
# Store.Cursor — scanning a range page by page

A cursor walks the rows of a range of keys in ascending order. It fetches a page when the first row
of the page is asked for, and the next page starts behind the last key of the page before. So rows
that are written during a scan show if they lie in a page that is not yet fetched. A page that is
shorter than the page size is the last one. Where no page can be short, because the page size is not
positive, the scan ends in a failure when it finds no row. It ends in another one when it is to
fetch pages whose size is no integer of the store.
-/

namespace Regenesis

/-- The state of a scan. -/
structure Cursor where
  low : Octets
  high : Octets
  /-- The last key of the last page; none before the first page. -/
  last : Option Octets
  /-- The rows of the last page that were not taken yet. -/
  pending : List Row
  /-- Whether the last page was full. -/
  more : Bool

namespace Cursor

/-- A scan of the keys from `low` to `high`, both included. -/
def ofRange (low high : Octets) : Cursor := ⟨low, high, none, [], true⟩

/-- Whether a key lies behind what was fetched so far. -/
def isAhead (c : Cursor) (key : Octets) : Bool :=
  match c.last with
  | none => c.low.le key
  | some last => decide (last < key)

/-- The first rows of a list: as many as the page size says, all if it is negative. -/
def takePage (pageSize : Int) (rows : List Row) : List Row :=
  if pageSize < 0 then rows else rows.take pageSize.toNat

/-- The page that the cursor fetches next. -/
def page (db : Database) (c : Cursor) : List Row :=
  takePage db.pageSize (db.store.range c.isAhead c.high)

/-- The cursor that has fetched a page. -/
def load (db : Database) (c : Cursor) (rows : List Row) : Cursor :=
  { c with
    last := (rows.getLast?.map (·.1)).or c.last
    pending := rows
    more := decide (db.pageSize ≤ rows.length) }

/-- Refuses to fetch a page. That the database is closed shows first, then the page size, and only
then that its rows are gone. -/
def checkFetch (db : Database) (c : Cursor) : Except Failure Unit :=
  if db.access = .closed then .error (.storage (.scan c.low c.high))
  else if !Database.isInteger db.pageSize then .error .pageSizeOutside
  else if !db.access.allowsReading then .error (.storage (.scan c.low c.high))
  else .ok ()

/-- The next row and the cursor behind it; `none` at the end. -/
def next (db : Database) (c : Cursor) : Except Failure (Option (Row × Cursor)) :=
  match c.pending with
  | r :: rest => .ok (some (r, { c with pending := rest }))
  | [] =>
    if !c.more then .ok none
    else do
      c.checkFetch db
      let loaded := c.load db (c.page db)
      match loaded.pending with
      | r :: rest => return some (r, { loaded with pending := rest })
      | [] => if loaded.more then .error .scanStuck else return none

/-- A number that no scan of the database has more rows than. -/
def bound (db : Database) (c : Cursor) : Nat := c.pending.length + db.store.rows.length

end Cursor

-- ---------------------------------------------------------------------------
-- Running a scan to its end
-- ---------------------------------------------------------------------------

/-- What a scan gives until it ends, and the failure in which it ended, if any. `next` gives the
next element; at most `fuel` elements are taken. -/
def runScan {σ α : Type} (next : σ → Except Failure (Option (α × σ))) :
    Nat → σ → List α × Option Failure
  | 0, _ => ([], none)
  | fuel + 1, s =>
    match next s with
    | .error e => ([], some e)
    | .ok none => ([], none)
    | .ok (some (a, s')) =>
      let (rest, e) := runScan next fuel s'
      (a :: rest, e)

/-- All elements of a scan, unless it ended in a failure. -/
def allOf {α : Type} (run : List α × Option Failure) : Except Failure (List α) :=
  match run.2 with
  | none => .ok run.1
  | some e => .error e

/-- The rows of a scan. -/
def Cursor.run (db : Database) (c : Cursor) : List Row × Option Failure :=
  runScan (Cursor.next db) (c.bound db + 1) c

end Regenesis

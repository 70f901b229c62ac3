import Regenesis.Snapshot.Accounts
import Regenesis.Snapshot.Blocks

/-!
# Snapshot.Scan — scans of all kinds

A scan goes over rows, accounts, headers or blocks. It is asked for one item after the other and
reads from the store only what the next item needs. After its end or a failure it gives nothing
more.
-/

namespace Regenesis.Snapshot

open Record

/-- What a scan gives. -/
inductive Item where
  | row (r : Row)
  | account (a : Account)
  | header (h : BlockHeader)
  | block (b : Block)

/-- The state of a scan. -/
inductive Scan where
  | rows (c : Cursor)
  | accounts (c : Cursor)
  | headers (s : HeaderScan)
  | blocks (s : HeaderScan)
  | ended

/-- The next item of a scan, and the scan behind it. -/
def Scan.next (db : Database) : Scan → Except Failure (Option (Item × Scan))
  | .rows c => do return (← c.next db).map fun (r, c) => (.row r, .rows c)
  | .accounts c => do return (← nextAccount db c).map fun (a, c) => (.account a, .accounts c)
  | .headers s => do return (← s.next db).map fun (h, s) => (.header h, .headers s)
  | .blocks s => do return (← nextBlock db s).map fun (b, s) => (.block b, .blocks s)
  | .ended => .ok none

/-- The next item of a scan, if there is one, and the scan afterwards, which is at its end if there
is none or the scan failed. -/
def Scan.advance (db : Database) (s : Scan) : Except Failure (Option Item) × Scan :=
  match s.next db with
  | .error e => (.error e, .ended)
  | .ok none => (.ok none, .ended)
  | .ok (some (item, s')) => (.ok (some item), s')

/-- All that a scan gives, and the failure in which it ends, if any. -/
def Scan.run (db : Database) (s : Scan) : List Item × Option Failure :=
  runScan (Scan.next db) (db.store.rows.length + 1) s

end Regenesis.Snapshot

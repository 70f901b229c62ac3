import Regenesis.Record.Schema
import Regenesis.Store.Cursor
import Regenesis.Store.Layout

/-!
# Snapshot.Blocks — the blocks of a store

A height leads to a block's id, the id to the block's header and to the ids of its transactions, and
these to the transactions. Every step must lead somewhere, and a header must state the height that
led to it. Blocks are scanned by height; the bounds of a scan are checked when its first block is
asked for.
-/

namespace Regenesis.Snapshot

open Record

-- ---------------------------------------------------------------------------
-- Headers
-- ---------------------------------------------------------------------------

/-- The header of a block, if it is stored. -/
def headerOf (db : Database) (id : Octets) : Except Failure (Option BlockHeader) := do
  match ← db.get (Layout.blockKey id) with
  | none => return none
  | some value => return some (← blockHeaderSchema.decode (Layout.blockKey id) value)

/-- The header that a row of the height index leads to. The key of the row may be longer than the
key of a height; then its height may even be too long to be written. -/
def headerOfRow (db : Database) (r : Row) : Except Failure BlockHeader := do
  match ← headerOf db r.2 with
  | none => .error (.decode r.1 (.missingBlock r.2))
  | some header =>
    let height := Layout.heightOfKey r.1
    if header.height ≠ height then
      .error (.decode r.1 (.foreignHeight (← Decimal.writeText height) header.height))
    else return header

/-- The header at a height, if the index has an entry for it. -/
def headerAt (db : Database) (height : Int) : Except Failure (Option BlockHeader) := do
  let key ← Layout.heightKey height
  match ← db.get key with
  | none => return none
  | some id => return some (← headerOfRow db (key, id))

/-- A scan of headers by height. -/
inductive HeaderScan where
  /-- From a first to a last height; nothing was asked for yet. -/
  | fresh (first last : Int)
  /-- Under way. -/
  | running (cursor : Cursor)

/-- The cursor of a scan, after a check of its bounds. The message about a range that is empty shows
both. -/
def HeaderScan.cursor : HeaderScan → Except Failure Cursor
  | .running c => .ok c
  | .fresh first last => do
    if last < first then
      Decimal.print [first, last]
      .error (.range (.emptyBlockRange first last))
    return .ofRange (← Layout.heightKey first) (← Layout.heightKey last)

/-- The next header of a scan. -/
def HeaderScan.next (db : Database) (s : HeaderScan) :
    Except Failure (Option (BlockHeader × HeaderScan)) := do
  match ← (← s.cursor).next db with
  | none => return none
  | some (r, c) => return some (← headerOfRow db r, .running c)

-- ---------------------------------------------------------------------------
-- Transactions
-- ---------------------------------------------------------------------------

/-- The length of a transaction id. -/
def idLength : Nat := 32

/-- A byte string cut into ids; a rest that is shorter than an id is left out. -/
def splitIds (b : Octets) : List Octets :=
  (List.range (b.length / idLength)).map fun i => (b.drop (i * idLength)).take idLength

/-- The transaction of an id that a block lists. -/
def transactionOf (db : Database) (id : Octets) : Except Failure Transaction := do
  let key := Layout.transactionKey id
  match ← db.get key with
  | none => .error (.decode key .missingTransaction)
  | some value => transactionSchema.decode key value

/-- The transactions of a block, in the order in which it lists them. -/
def transactionsOf (db : Database) (id : Octets) : Except Failure (List Transaction) := do
  let key := Layout.blockTransactionsKey id
  match ← db.get key with
  | none => return []
  | some ids =>
    if ids.length % idLength ≠ 0 then .error (.decode key (.brokenIdList ids.length))
    else (splitIds ids).mapM (transactionOf db)

-- ---------------------------------------------------------------------------
-- Blocks
-- ---------------------------------------------------------------------------

/-- A header with its transactions. -/
abbrev Block := BlockHeader × List Transaction

/-- The next block of a scan. -/
def nextBlock (db : Database) (s : HeaderScan) : Except Failure (Option (Block × HeaderScan)) := do
  match ← s.next db with
  | none => return none
  | some (header, s') => return some ((header, ← transactionsOf db header.id), s')

/-- What a scan of headers gives. -/
def scanHeaders (db : Database) (first last : Int) : List BlockHeader × Option Failure :=
  runScan (HeaderScan.next db) (db.store.rows.length + 1) (.fresh first last)

/-- What a scan of blocks gives. -/
def scanBlocks (db : Database) (first last : Int) : List Block × Option Failure :=
  runScan (nextBlock db) (db.store.rows.length + 1) (.fresh first last)

/-- All blocks from a first to a last height, in ascending order. -/
def readBlocks (db : Database) (first last : Int) : Except Failure (List Block) :=
  allOf (scanBlocks db first last)

end Regenesis.Snapshot

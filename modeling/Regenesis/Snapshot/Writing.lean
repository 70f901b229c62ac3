import Regenesis.Snapshot.Blocks

/-!
# Snapshot.Writing — records into a store

Records are written where the reader looks for them, each kind in one step: all rows of a call are
put, or none is.
-/

namespace Regenesis.Snapshot

open Record

/-- Puts accounts under their addresses. -/
def putAccounts (db : Database) (accounts : List Account) : Except Failure Database :=
  db.putAll (accounts.map fun a => (Layout.accountKey a.address, accountSchema.encode a))

/-- Puts the balances of unregistered addresses. -/
def putUnregistered (db : Database) (accounts : List UnregisteredAccount) :
    Except Failure Database :=
  db.put (Layout.unregisteredKey, unregisteredAddressesSchema.encode ⟨accounts⟩)

/-- Puts the top delegates. -/
def putVoteWeights (db : Database) (weights : VoteWeights) : Except Failure Database :=
  db.put (Layout.voteWeightsKey, voteWeightsSchema.encode weights)

/-- The rows of a block: its id under its height, its header under its id, and, if it has
transactions, the list of their ids and each transaction. -/
def blockRows (header : BlockHeader) (txs : List Transaction) : Except Failure (List Row) := do
  let heightKey ← Layout.heightKey header.height
  let headerRows : List Row := [
    (heightKey, header.id), (Layout.blockKey header.id, blockHeaderSchema.encode header)]
  if txs.isEmpty then return headerRows
  return headerRows ++ (Layout.blockTransactionsKey header.id, txs.flatMap Transaction.id) ::
    txs.map fun t => (Layout.transactionKey t.id, transactionSchema.encode t)

/-- Puts a block. -/
def putBlock (db : Database) (header : BlockHeader) (txs : List Transaction) :
    Except Failure Database := do
  db.putAll (← blockRows header txs)

end Regenesis.Snapshot

import Regenesis.Snapshot.Accounts
import Regenesis.Snapshot.Blocks

/-!
# Snapshot.Load — everything that the genesis block is made of

A snapshot is the state of the source chain at a height: its accounts, the balances of unregistered
addresses, the top delegates, and the header of the block at that height, if it is stored. Beside
its height it knows the height of the snapshot before it.
-/

namespace Regenesis

/-- The state of the source chain at a height. -/
structure Snapshot where
  height : Int
  previousHeight : Int
  block : Option Record.BlockHeader
  accounts : List Record.Account
  legacyAccounts : List Record.UnregisteredAccount
  voteWeights : Record.VoteWeights

namespace Snapshot

/-- Refuses heights that no key holds, and a previous height that is not below the height. What the
last message shows are heights of keys, which are never too long to be written. -/
def checkRange (height previous : Int) : Except Failure Unit := do
  Layout.checkHeight height
  Layout.checkHeight previous
  if height ≤ previous then .error (.range (.previousNotBelow previous height))

/-- Reads a snapshot from a store. -/
def load (db : Database) (height previous : Int) : Except Failure Snapshot := do
  checkRange height previous
  let accounts ← readAccounts db
  let legacyAccounts ← readUnregistered db
  let voteWeights ← readVoteWeights db
  let block ← headerAt db height
  return ⟨height, previous, block, accounts, legacyAccounts, voteWeights⟩

end Snapshot

end Regenesis

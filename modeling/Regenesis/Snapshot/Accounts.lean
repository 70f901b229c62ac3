import Regenesis.Record.Schema
import Regenesis.Store.Cursor
import Regenesis.Store.Layout

/-!
# Snapshot.Accounts — the accounts of a store

Accounts are scanned in the order of their keys. A record whose address does not have twenty bytes
is passed over; one whose address is not the one in its key is damaged. Beside the accounts, the
store has the balances of unregistered addresses and the top delegates; where these were never
recorded, there are none.
-/

namespace Regenesis.Snapshot

open Record

/-- A scan of all accounts. -/
def accountCursor : Cursor := .ofRange Layout.accountRange.1 Layout.accountRange.2

/-- The account of a row, if the row is not to be passed over. -/
def accountOfRow (r : Row) : Except Failure (Option Account) := do
  let account ← accountSchema.decode r.1 r.2
  if account.address.length ≠ Address.length then return none
  else if Layout.addressOfKey r.1 ≠ account.address then
    .error (.decode r.1 (.foreignAddress account.address))
  else return some account

/-- The next account of a scan that passes over at most `fuel` rows. -/
def nextAccountWithin (db : Database) : Nat → Cursor → Except Failure (Option (Account × Cursor))
  | 0, _ => .ok none
  | fuel + 1, c =>
    match c.next db with
    | .error e => .error e
    | .ok none => .ok none
    | .ok (some (r, c')) =>
      match accountOfRow r with
      | .error e => .error e
      | .ok none => nextAccountWithin db fuel c'
      | .ok (some account) => .ok (some (account, c'))

/-- The next account of a scan. -/
def nextAccount (db : Database) (c : Cursor) : Except Failure (Option (Account × Cursor)) :=
  nextAccountWithin db (c.bound db + 1) c

/-- What a scan of all accounts gives. -/
def scanAccounts (db : Database) : List Account × Option Failure :=
  runScan (nextAccount db) (accountCursor.bound db + 1) accountCursor

/-- All accounts, in ascending order of their addresses. -/
def readAccounts (db : Database) : Except Failure (List Account) := allOf (scanAccounts db)

/-- The balances of unregistered addresses. -/
def readUnregistered (db : Database) : Except Failure (List UnregisteredAccount) := do
  match ← db.get Layout.unregisteredKey with
  | none => return []
  | some value =>
    return (← unregisteredAddressesSchema.decode Layout.unregisteredKey value).accounts

/-- The top delegates of all recorded rounds. -/
def readVoteWeights (db : Database) : Except Failure VoteWeights := do
  match ← db.get Layout.voteWeightsKey with
  | none => return ⟨[]⟩
  | some value => voteWeightsSchema.decode Layout.voteWeightsKey value

end Regenesis.Snapshot

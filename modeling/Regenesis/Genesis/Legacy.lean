import Regenesis.Amount
import Regenesis.Failure
import Regenesis.Genesis.Asset
import Regenesis.Record.ChainState

/-!
# Genesis.Legacy — balances of old addresses

The legacy module takes over the balances of unregistered addresses as they are recorded, in their
order. The token module holds their sum in reserve.
-/

namespace Regenesis.Genesis.Legacy

open Record

/-- The balance of an old address. -/
structure Entry where
  address : Octets
  balance : String
deriving DecidableEq, Repr

/-- The entry of a recorded balance. -/
def Entry.ofRecord (u : UnregisteredAccount) : Except Failure Entry := do
  return ⟨u.address, ← Decimal.writeText u.balance⟩

/-- The members in the order of the shape `LegacyStoreEntry`. -/
def Entry.toJson (e : Entry) : Json :=
  .obj [("address", hexJson e.address), ("balance", .str e.balance)]

/-- What the token module holds in reserve. -/
def reserveAmount (accounts : List UnregisteredAccount) : Nat :=
  Amount.sum (accounts.map UnregisteredAccount.balance)

/-- The shape of the module's data. -/
def descriptor : Json.Descriptor where
  root := ⟨"GenesisLegacyStore", [
    { name := "accounts", kind := .list (.shape "LegacyStoreEntry") }]⟩
  definitions := [
    ⟨"LegacyStoreEntry", [
      { name := "address", kind := .text },
      { name := "balance", kind := .text }]⟩]

/-- The asset of the legacy module. -/
def asset (accounts : List UnregisteredAccount) : Except Failure Asset := do
  let entries ← accounts.mapM Entry.ofRecord
  return ⟨"legacy", .obj [("accounts", .arr (entries.map Entry.toJson))], descriptor.schema⟩

end Regenesis.Genesis.Legacy

import Regenesis.Genesis.Auth

/-!
# Genesis.Token — who holds the token

The token module gives every account one entry with its available balance and what it has locked in
votes. The balances of old addresses are locked in the reserve's entry, which is there even if the
reserve has no account. Amounts are written as decimal texts. The data declare the total supply, and
they are only handed on if the entries add up to it.
-/

namespace Regenesis.Genesis.Token

open Record

-- ---------------------------------------------------------------------------
-- Balances
-- ---------------------------------------------------------------------------

/-- An amount locked by a module. -/
abbrev Lock := String × Int

/-- What a user holds. -/
structure UserBalance where
  /-- The hex text of the address. -/
  address : String
  /-- The hex text of the token's id. -/
  tokenId : String
  available : Int
  locked : List Lock
deriving DecidableEq, Repr

/-- All that a user holds. -/
def UserBalance.total (u : UserBalance) : Int := u.available + Amount.sumInt (u.locked.map (·.2))

/-- The lock of an account's votes, if it has any. -/
def voteLocks (a : Account) : List Lock :=
  if 0 < a.lockedAmount then [("pos", (a.lockedAmount : Int))] else []

/-- Whether a lock comes no later than another: by module, then by amount. -/
def lockLe (a b : Lock) : Bool := decide (a.1 < b.1) || (a.1 == b.1 && decide (a.2 ≤ b.2))

/-- Locks in their order. -/
def sortLocks (locks : List Lock) : List Lock := locks.mergeSort lockLe

/-- The hex text of an account's address. -/
def addressText (a : Account) : String := Hex.encode a.address

/-- What an account holds. -/
def userBalance (n : Network) (a : Account) : UserBalance :=
  ⟨addressText a, n.tokenId, a.token.balance, voteLocks a⟩

/-- What the reserve holds: the balance and the votes of its account, if there is one, and the
legacy balances. -/
def reserveBalance (accounts : List Account) (legacyAmount : Int) (n : Network) : UserBalance :=
  let account := accounts.find? fun a => addressText a == n.reserveAddress
  { address := n.reserveAddress
    tokenId := n.tokenId
    available := (account.map fun a => (a.token.balance : Int)).getD 0
    locked := sortLocks ((account.map voteLocks).getD [] ++ [("legacy", legacyAmount)]) }

/-- The place of a balance: the bytes of its address, then those of its token. -/
def UserBalance.place (u : UserBalance) : Except Failure (Octets × Octets) := do
  return (← Hex.readText u.address, ← Hex.readText u.tokenId)

/-- Whether a place comes no later than another. -/
def placeLe (a b : Octets × Octets) : Bool := decide (a.1 < b.1) || (a.1 == b.1 && a.2.le b.2)

/-- What all users hold, in ascending order of their places. -/
def userBalances (accounts : List Account) (legacyAmount : Int) (n : Network) :
    Except Failure (List UserBalance) := do
  let others := accounts.filter fun a => addressText a != n.reserveAddress
  let users := others.map (userBalance n) ++ [reserveBalance accounts legacyAmount n]
  let places ← users.mapM UserBalance.place
  return ((places.zip users).mergeSort fun a b => placeLe a.1 b.1).map (·.2)

/-- All balances and all that is locked, the legacy balances included. -/
def totalSupply (accounts : List Account) (legacyAmount : Int) : Int :=
  Amount.sumInt (accounts.map fun a => (a.token.balance + a.lockedAmount : Int)) + legacyAmount

-- ---------------------------------------------------------------------------
-- Data of the module
-- ---------------------------------------------------------------------------

/-- An amount locked by a module, as text. -/
structure LockedBalance where
  moduleName : String
  amount : String
deriving DecidableEq, Repr

/-- The entry of a user. -/
structure UserEntry where
  address : String
  tokenId : String
  availableBalance : String
  lockedBalances : List LockedBalance
deriving DecidableEq, Repr

/-- The declared supply of a token. -/
structure SupplyEntry where
  tokenId : String
  totalSupply : String
deriving DecidableEq, Repr

/-- The data of the token module. The escrow and the supported tokens are empty at the start. -/
structure Data where
  users : List UserEntry
  supplies : List SupplyEntry
  escrow : List Json.Members
  supportedTokens : List Json.Members
deriving Repr

/-- The members in the order of the shape `LockedBalance`. -/
def LockedBalance.toJson (l : LockedBalance) : Json :=
  .obj [("module", .str l.moduleName), ("amount", .str l.amount)]

/-- The members in the order of the shape `UserSubstoreEntry`. -/
def UserEntry.toJson (u : UserEntry) : Json := .obj [
  ("address", .str u.address),
  ("tokenID", .str u.tokenId),
  ("availableBalance", .str u.availableBalance),
  ("lockedBalances", .arr (u.lockedBalances.map LockedBalance.toJson))]

/-- The members in the order of the shape `SupplySubstoreEntry`. -/
def SupplyEntry.toJson (s : SupplyEntry) : Json :=
  .obj [("tokenID", .str s.tokenId), ("totalSupply", .str s.totalSupply)]

/-- The members in the order of the shape `GenesisTokenStore`. -/
def Data.toJson (d : Data) : Json := .obj [
  ("userSubstore", .arr (d.users.map UserEntry.toJson)),
  ("supplySubstore", .arr (d.supplies.map SupplyEntry.toJson)),
  ("escrowSubstore", .arr (d.escrow.map Json.obj)),
  ("supportedTokensSubstore", .arr (d.supportedTokens.map Json.obj))]

/-- Reads a locked balance; both members must be there. -/
def LockedBalance.ofJson : Json → Checked LockedBalance :=
  readRecord fun m => mk <$> required "module" text m <*> required "amount" text m

/-- Reads the entry of a user; all members must be there. -/
def UserEntry.ofJson : Json → Checked UserEntry :=
  readRecord fun m => mk
    <$> required "address" text m
    <*> requiredEither "tokenID" "token_id" text m
    <*> requiredEither "availableBalance" "available_balance" text m
    <*> requiredEither "lockedBalances" "locked_balances" (list LockedBalance.ofJson) m

/-- Reads a declared supply; both members must be there. -/
def SupplyEntry.ofJson : Json → Checked SupplyEntry :=
  readRecord fun m => mk
    <$> requiredEither "tokenID" "token_id" text m
    <*> requiredEither "totalSupply" "total_supply" text m

/-- Reads the data of the module. Members may be named in either style, and unknown members are
passed over. -/
def Data.ofJson : Json → Checked Data :=
  readRecord fun m => mk
    <$> requiredEither "userSubstore" "user_substore" (list UserEntry.ofJson) m
    <*> requiredEither "supplySubstore" "supply_substore" (list SupplyEntry.ofJson) m
    <*> optionalEither "escrowSubstore" "escrow_substore" (list object) [] m
    <*> optionalEither "supportedTokensSubstore" "supported_tokens_substore" (list object) [] m

/-- The shape of the module's data. -/
def descriptor : Json.Descriptor where
  root := ⟨"GenesisTokenStore", [
    { name := "userSubstore", kind := .list (.shape "UserSubstoreEntry") },
    { name := "supplySubstore", kind := .list (.shape "SupplySubstoreEntry") },
    { name := "escrowSubstore", kind := .list .openObject, required := false },
    { name := "supportedTokensSubstore", kind := .list .openObject, required := false }]⟩
  definitions := [
    ⟨"LockedBalance", [
      { name := "module", kind := .text },
      { name := "amount", kind := .text }]⟩,
    ⟨"SupplySubstoreEntry", [
      { name := "tokenID", kind := .text },
      { name := "totalSupply", kind := .text }]⟩,
    ⟨"UserSubstoreEntry", [
      { name := "address", kind := .text },
      { name := "tokenID", kind := .text },
      { name := "availableBalance", kind := .text },
      { name := "lockedBalances", kind := .list (.shape "LockedBalance") }]⟩]

/-- The entry of a balance. -/
def UserBalance.entry (label : String) (u : UserBalance) : Except Failure UserEntry := do
  let address ← Address.hexToText label u.address
  let available ← Decimal.writeText u.available
  let locked ← (sortLocks u.locked).mapM fun l => do
    return (⟨l.1, ← Decimal.writeText l.2⟩ : LockedBalance)
  return ⟨address, u.tokenId, available, locked⟩

-- ---------------------------------------------------------------------------
-- Supply
-- ---------------------------------------------------------------------------

/-- The sum of amounts that are written as texts. -/
def sumTexts (amounts : List String) : Except Failure Int := do
  return Amount.sumInt (← amounts.mapM Decimal.readText)

/-- The amounts of an entry. -/
def UserEntry.amounts (u : UserEntry) : List String :=
  u.availableBalance :: u.lockedBalances.map LockedBalance.amount

/-- What the users hold of a token. -/
def Data.held (d : Data) (tokenId : String) : Except Failure Int :=
  sumTexts ((d.users.filter fun u => u.tokenId == tokenId).flatMap UserEntry.amounts)

/-- The supplies that are declared for a token. -/
def Data.declared (d : Data) (tokenId : String) : Except Failure (List Int) :=
  ((d.supplies.filter fun s => s.tokenId == tokenId).map SupplyEntry.totalSupply).mapM
    Decimal.readText

/-- Refuses data that do not declare one supply of a token, or not the one that the users hold. -/
def verifySupply (d : Data) (tokenId : String) : Except Failure Unit := do
  let held ← d.held tokenId
  let declared ← d.declared tokenId
  if declared ≠ [held] then
    let heldText ← Decimal.writeText held
    let declaredTexts ← declared.mapM Decimal.writeText
    .error (.supply tokenId heldText ("[" ++ ", ".intercalate declaredTexts ++ "]"))

/-- The data of the module. -/
def data (accounts : List Account) (legacyAmount : Int) (n : Network) : Except Failure Data := do
  let balances ← userBalances accounts legacyAmount n
  let users ← balances.mapM (UserBalance.entry n.addressLabel)
  let supply ← Decimal.writeText (totalSupply accounts legacyAmount)
  let data : Data := ⟨users, [⟨n.tokenId, supply⟩], [], []⟩
  verifySupply data n.tokenId
  return data

/-- The asset of the token module. -/
def asset (accounts : List Account) (legacyAmount : Int) (n : Network) : Except Failure Asset := do
  return ⟨"token", (← data accounts legacyAmount n).toJson, descriptor.schema⟩

end Regenesis.Genesis.Token

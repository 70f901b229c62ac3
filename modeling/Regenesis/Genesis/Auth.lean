import Regenesis.Genesis.Asset
import Regenesis.Network
import Regenesis.Record.Account

/-!
# Genesis.Auth — who may sign for an account

The auth module takes over every account's nonce and the keys of its multisignature group. Entries
are in ascending order of the accounts' addresses, and keys in ascending order of their bytes.
-/

namespace Regenesis.Genesis

open Record

/-- Accounts in ascending order of their addresses; accounts of one address keep their order. -/
def byAddress (accounts : List Account) : List Account :=
  accounts.mergeSort fun a b => a.address.le b.address

namespace Auth

/-- Byte strings in ascending order. -/
def sortKeys (keys : List Octets) : List Octets := keys.mergeSort Octets.le

/-- Hex texts in ascending order of the bytes they stand for, each as it is written. -/
def sortHexTexts (keys : List String) : Except Failure (List String) := do
  let bytes ← keys.mapM Hex.readText
  return ((bytes.zip keys).mergeSort fun a b => a.1.le b.1).map (·.2)

/-- The authentication of an account. -/
structure AuthAccount where
  numberOfSignatures : Nat
  mandatoryKeys : List Octets
  optionalKeys : List Octets
  nonce : String
deriving DecidableEq, Repr

/-- The authentication that an account brings along. -/
def AuthAccount.ofAccount (a : Account) : Except Failure AuthAccount := do
  return {
    numberOfSignatures := a.keys.numberOfSignatures
    mandatoryKeys := sortKeys a.keys.mandatoryKeys
    optionalKeys := sortKeys a.keys.optionalKeys
    nonce := ← Decimal.writeText a.sequence.nonce }

/-- The members in the order of the shape `AuthAccount`. -/
def AuthAccount.toJson (a : AuthAccount) : Json := .obj [
  ("numberOfSignatures", natJson a.numberOfSignatures),
  ("mandatoryKeys", .arr (a.mandatoryKeys.map hexJson)),
  ("optionalKeys", .arr (a.optionalKeys.map hexJson)),
  ("nonce", .str a.nonce)]

/-- The authentication of an account under its Bech32 address. -/
structure Entry where
  storeKey : String
  storeValue : AuthAccount
deriving DecidableEq, Repr

/-- The members in the order of the shape `AuthStoreEntry`. -/
def Entry.toJson (e : Entry) : Json :=
  .obj [("storeKey", .str e.storeKey), ("storeValue", e.storeValue.toJson)]

/-- The entry of an account. -/
def entry (n : Network) (a : Account) : Except Failure Entry := do
  return ⟨← Address.toText n.addressLabel a.address, ← AuthAccount.ofAccount a⟩

/-- The entries of all accounts. -/
def entries (accounts : List Account) (n : Network) : Except Failure (List Entry) :=
  (byAddress accounts).mapM (entry n)

/-- The shape of the module's data. -/
def descriptor : Json.Descriptor where
  root := ⟨"GenesisAuthStore", [
    { name := "authDataSubstore", kind := .list (.shape "AuthStoreEntry") }]⟩
  definitions := [
    ⟨"AuthAccount", [
      { name := "numberOfSignatures", kind := .integer },
      { name := "mandatoryKeys", kind := .list .text },
      { name := "optionalKeys", kind := .list .text },
      { name := "nonce", kind := .text }]⟩,
    ⟨"AuthStoreEntry", [
      { name := "storeKey", kind := .text },
      { name := "storeValue", kind := .shape "AuthAccount" }]⟩]

/-- The asset of the auth module. -/
def asset (accounts : List Account) (n : Network) : Except Failure Asset := do
  let entries ← entries accounts n
  return ⟨"auth", .obj [("authDataSubstore", .arr (entries.map Entry.toJson))], descriptor.schema⟩

end Auth

end Regenesis.Genesis

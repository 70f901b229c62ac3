import Regenesis.Address

/-!
# Store.Layout — which key holds what

Every kind of record has keys of its own beginning. Accounts lie under their addresses, block ids
under heights, headers, transaction lists and transactions under ids, and the two records about the
chain under their names. A height takes four bytes, the highest first, so that blocks lie in the
order of their heights.
-/

namespace Regenesis.Layout

/-- The beginning of the keys of accounts. -/
def accountTag : Octets := Octets.ofText "accounts:address:"

/-- The beginning of the keys of heights. -/
def heightTag : Octets := Octets.ofText "blocks:height:"

/-- The beginning of the keys of headers. -/
def blockTag : Octets := Octets.ofText "blocks:id:"

/-- The beginning of the keys of lists of transaction ids. -/
def blockTransactionsTag : Octets := Octets.ofText "transactions:blockID:"

/-- The beginning of the keys of transactions. -/
def transactionTag : Octets := Octets.ofText "transactions:id:"

/-- The beginning of the keys of records about the chain. -/
def chainTag : Octets := Octets.ofText "chain:"

/-- The number of bytes of a height. -/
def heightWidth : Nat := 4

/-- The greatest height that a key holds. -/
def maxHeight : Int := Nat.pow 256 heightWidth - 1

/-- The key of an account. -/
def accountKey (address : Octets) : Octets := accountTag ++ address

/-- What follows the beginning of an account's key. -/
def addressOfKey (key : Octets) : Octets := key.drop accountTag.length

/-- The least and the greatest key of an account with an address of twenty bytes. -/
def accountRange : Octets × Octets :=
  (accountKey (List.replicate Address.length 0x00),
    accountKey (List.replicate Address.length 0xff))

/-- Refuses a height that no key holds. The message shows the height. -/
def checkHeight (height : Int) : Except Failure Unit :=
  if 0 ≤ height ∧ height ≤ maxHeight then .ok ()
  else do
    Decimal.print [height]
    .error (.range (.heightOutside height maxHeight))

/-- The key of a height. -/
def heightKey (height : Int) : Except Failure Octets := do
  checkHeight height
  return heightTag ++ Octets.bigEndian heightWidth height.toNat

/-- The height of a key, whatever the number of its bytes. -/
def heightOfKey (key : Octets) : Nat := Octets.toNat (key.drop heightTag.length)

/-- The key of a block's header. -/
def blockKey (id : Octets) : Octets := blockTag ++ id

/-- The key of a block's list of transaction ids. -/
def blockTransactionsKey (id : Octets) : Octets := blockTransactionsTag ++ id

/-- The key of a transaction. -/
def transactionKey (id : Octets) : Octets := transactionTag ++ id

/-- The key of a record about the chain. -/
def chainKey (name : Octets) : Octets := chainTag ++ name

/-- The key of the balances of unregistered addresses. -/
def unregisteredKey : Octets := chainKey (Octets.ofText "unregisteredAddresses")

/-- The key of the top delegates. -/
def voteWeightsKey : Octets := chainKey (Octets.ofText "delegateVoteWeights")

end Regenesis.Layout

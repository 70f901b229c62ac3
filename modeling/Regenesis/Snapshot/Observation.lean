import Regenesis.Snapshot.Load

/-!
# Snapshot.Observation — which key an address was last seen with

A public key is observed with its address when a block is generated with it, and when a delegate
sends a transaction with it. Of all observations between two snapshots the last one counts.
-/

namespace Regenesis.Snapshot

open Record

/-- An address with a public key that was used for it. -/
structure Observation where
  address : Octets
  key : Octets
deriving DecidableEq, Repr

/-- The observation of a public key. -/
def Observation.ofKey (key : Octets) : Observation := ⟨Address.ofPublicKey key, key⟩

/-- The observations that a block gives: its generator, and in order the senders that are
delegates. -/
def observations (delegates : List Octets) (block : Block) : List Observation :=
  .ofKey block.1.generatorPublicKey ::
    (block.2.map fun t => Observation.ofKey t.senderPublicKey).filter
      fun o => delegates.contains o.address

/-- Keys by address, in the order in which the addresses were first observed. -/
abbrev ValidatorKeys := Table Octets Octets

/-- The last observed keys. -/
def lastKeys (observed : List Observation) : ValidatorKeys :=
  Table.ofEntries (observed.map fun o => (o.address, o.key))

/-- The last observed keys of blocks in ascending order. -/
def validatorKeys (blocks : List Block) (accounts : List Account) : ValidatorKeys :=
  let delegates := (accounts.filter Account.isDelegate).map Account.address
  lastKeys (blocks.flatMap (observations delegates))

/-- The last observed keys of the blocks after the previous snapshot, up to the snapshot. -/
def resolveValidatorKeys (db : Database) (accounts : List Account) (height previous : Int) :
    Except Failure ValidatorKeys := do
  checkRange height previous
  return validatorKeys (← readBlocks db (previous + 1) height) accounts

end Regenesis.Snapshot

import Regenesis.Failure
import Regenesis.Json.Reader
import Regenesis.Json.Writer
import Regenesis.Record.Block
import Regenesis.Record.ChainState

/-!
# Record.Schema — records as stored values

A schema joins the name of a kind of record with its reader and its writer. A stored value is the
compact JSON text of a record. Decoding a value that is no such text, or does not fit the schema,
is a failure that names the key under which the value is stored.
-/

namespace Regenesis.Record

/-- A kind of record. -/
structure Schema (α : Type) where
  name : String
  ofJson : Json → Checked α
  toJson : α → Json

namespace Schema

variable {α : Type}

/-- The record of a stored value. -/
def check (s : Schema α) (value : Octets) : Checked α :=
  match Json.ofOctets? .stored value with
  | none => .fail .notJson
  | some v => s.ofJson v

/-- The record of the value stored under a key. -/
def decode (s : Schema α) (key value : Octets) : Except Failure α :=
  match s.check value with
  | .ok a => .ok a
  | .issues list => .error (.decode key (.schema s.name list))

/-- The stored value of a record. -/
def encode (s : Schema α) (a : α) : Octets := Octets.ofText (Json.stored (s.toJson a))

end Schema

-- ---------------------------------------------------------------------------
-- The kinds of records
-- ---------------------------------------------------------------------------

/-- Balances of accounts. -/
def tokenAccountSchema : Schema TokenAccount :=
  ⟨"TokenAccount", TokenAccount.ofJson, TokenAccount.toJson⟩

/-- Nonces of accounts. -/
def sequenceAccountSchema : Schema SequenceAccount :=
  ⟨"SequenceAccount", SequenceAccount.ofJson, SequenceAccount.toJson⟩

/-- Keys of multisignature groups. -/
def keysAccountSchema : Schema KeysAccount :=
  ⟨"KeysAccount", KeysAccount.ofJson, KeysAccount.toJson⟩

/-- Standings of delegates. -/
def delegateAccountSchema : Schema DelegateAccount :=
  ⟨"DelegateAccount", DelegateAccount.ofJson, DelegateAccount.toJson⟩

/-- Votes. -/
def sentVoteSchema : Schema SentVote := ⟨"SentVote", SentVote.ofJson, SentVote.toJson⟩

/-- Votes that are being unlocked. -/
def unlockingEntrySchema : Schema UnlockingEntry :=
  ⟨"UnlockingEntry", UnlockingEntry.ofJson, UnlockingEntry.toJson⟩

/-- Parts in delegated proof of stake. -/
def dposAccountSchema : Schema DposAccount :=
  ⟨"DposAccount", DposAccount.ofJson, DposAccount.toJson⟩

/-- Accounts. -/
def accountSchema : Schema Account := ⟨"Account", Account.ofJson, Account.toJson⟩

/-- Headers of blocks. -/
def blockHeaderSchema : Schema BlockHeader :=
  ⟨"BlockHeader", BlockHeader.ofJson, BlockHeader.toJson⟩

/-- Transactions. -/
def transactionSchema : Schema Transaction :=
  ⟨"Transaction", Transaction.ofJson, Transaction.toJson⟩

/-- Balances of old addresses. -/
def unregisteredAccountSchema : Schema UnregisteredAccount :=
  ⟨"UnregisteredAccount", UnregisteredAccount.ofJson, UnregisteredAccount.toJson⟩

/-- Lists of the balances of old addresses. -/
def unregisteredAddressesSchema : Schema UnregisteredAddresses :=
  ⟨"UnregisteredAddresses", UnregisteredAddresses.ofJson, UnregisteredAddresses.toJson⟩

/-- Votes of top delegates. -/
def delegateWeightSchema : Schema DelegateWeight :=
  ⟨"DelegateWeight", DelegateWeight.ofJson, DelegateWeight.toJson⟩

/-- Top delegates of a round. -/
def voteWeightSchema : Schema VoteWeight := ⟨"VoteWeight", VoteWeight.ofJson, VoteWeight.toJson⟩

/-- Top delegates of all rounds. -/
def voteWeightsSchema : Schema VoteWeights :=
  ⟨"VoteWeights", VoteWeights.ofJson, VoteWeights.toJson⟩

/-- Reads a value by a schema and writes the record again: defaults are filled in and texts tidied.
-/
def Schema.tidy {α : Type} (s : Schema α) (key value : Octets) : Except Failure Json :=
  (s.decode key value).map s.toJson

/-- Tidying for all kinds of records, by name. -/
def tidyByName : List (String × (Octets → Octets → Except Failure Json)) := [
  (tokenAccountSchema.name, tokenAccountSchema.tidy),
  (sequenceAccountSchema.name, sequenceAccountSchema.tidy),
  (keysAccountSchema.name, keysAccountSchema.tidy),
  (delegateAccountSchema.name, delegateAccountSchema.tidy),
  (sentVoteSchema.name, sentVoteSchema.tidy),
  (unlockingEntrySchema.name, unlockingEntrySchema.tidy),
  (dposAccountSchema.name, dposAccountSchema.tidy),
  (accountSchema.name, accountSchema.tidy),
  (blockHeaderSchema.name, blockHeaderSchema.tidy),
  (transactionSchema.name, transactionSchema.tidy),
  (unregisteredAccountSchema.name, unregisteredAccountSchema.tidy),
  (unregisteredAddressesSchema.name, unregisteredAddressesSchema.tidy),
  (delegateWeightSchema.name, delegateWeightSchema.tidy),
  (voteWeightSchema.name, voteWeightSchema.tidy),
  (voteWeightsSchema.name, voteWeightsSchema.tidy)]

end Regenesis.Record

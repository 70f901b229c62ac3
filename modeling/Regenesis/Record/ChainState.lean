import Regenesis.Record.Account

/-!
# Record.ChainState — what the source chain keeps about itself

Two records lie beside accounts and blocks: the balances of old short addresses that were never
registered under the new scheme, and, round by round, the delegates that had the most votes.
-/

namespace Regenesis.Record

/-- The balance of an old address. -/
structure UnregisteredAccount where
  address : Octets
  balance : Nat
deriving DecidableEq, Repr

/-- Reads the balance of an old address; both members must be there. -/
def UnregisteredAccount.ofJson : Json → Checked UnregisteredAccount :=
  readRecord fun m => closed ["address", "balance"] m
    (mk <$> required "address" hex m <*> required "balance" natural m)

/-- Writes the balance of an old address. -/
def UnregisteredAccount.toJson (u : UnregisteredAccount) : Json := .obj [
  ("address", hexJson u.address), ("balance", natJson u.balance)]

/-- The balances of all old addresses. -/
structure UnregisteredAddresses where
  accounts : List UnregisteredAccount
deriving DecidableEq, Repr

/-- Reads the balances of all old addresses. By default there are none. -/
def UnregisteredAddresses.ofJson : Json → Checked UnregisteredAddresses :=
  readRecord fun m => closed ["unregistered_addresses"] m
    (mk <$> optional "unregistered_addresses" (list UnregisteredAccount.ofJson) [] m)

/-- Writes the balances of all old addresses. -/
def UnregisteredAddresses.toJson (u : UnregisteredAddresses) : Json :=
  .obj [("unregistered_addresses", .arr (u.accounts.map UnregisteredAccount.toJson))]

/-- The votes of a delegate. -/
structure DelegateWeight where
  address : Octets
  voteWeight : Nat
deriving DecidableEq, Repr

/-- Reads the votes of a delegate; both members must be there. -/
def DelegateWeight.ofJson : Json → Checked DelegateWeight :=
  readRecord fun m => closed ["address", "vote_weight"] m
    (mk <$> required "address" hex m <*> required "vote_weight" natural m)

/-- Writes the votes of a delegate. -/
def DelegateWeight.toJson (d : DelegateWeight) : Json := .obj [
  ("address", hexJson d.address), ("vote_weight", natJson d.voteWeight)]

/-- The top delegates of a round. -/
structure VoteWeight where
  round : Int
  delegates : List DelegateWeight
deriving DecidableEq, Repr

/-- Reads the top delegates of a round. By default there are none. -/
def VoteWeight.ofJson : Json → Checked VoteWeight :=
  readRecord fun m => closed ["round", "delegates"] m
    (mk <$> required "round" integer m <*> optional "delegates" (list DelegateWeight.ofJson) [] m)

/-- Writes the top delegates of a round. -/
def VoteWeight.toJson (w : VoteWeight) : Json := .obj [
  ("round", .int w.round), ("delegates", .arr (w.delegates.map DelegateWeight.toJson))]

/-- The top delegates of all recorded rounds. -/
structure VoteWeights where
  rounds : List VoteWeight
deriving DecidableEq, Repr

/-- Reads the top delegates of all rounds. By default no round is recorded. -/
def VoteWeights.ofJson : Json → Checked VoteWeights :=
  readRecord fun m => closed ["vote_weights"] m
    (mk <$> optional "vote_weights" (list VoteWeight.ofJson) [] m)

/-- Writes the top delegates of all rounds. -/
def VoteWeights.toJson (w : VoteWeights) : Json :=
  .obj [("vote_weights", .arr (w.rounds.map VoteWeight.toJson))]

/-- The first record of a round. -/
def VoteWeights.forRound (w : VoteWeights) (round : Int) : Option VoteWeight :=
  w.rounds.find? (·.round == round)

end Regenesis.Record

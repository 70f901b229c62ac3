import Regenesis.Amount
import Regenesis.Record.Field

/-!
# Record.Account — the accounts of the source chain

An account holds a balance, a nonce, the keys of a multisignature group, and its part in delegated
proof of stake: its standing as a delegate, the votes it has sent, and the votes that are being
unlocked. An account is a delegate if it has a user name. Each record has a reader, which fills in
defaults and refuses unknown members, and a writer, which writes all members in their fixed order.
-/

namespace Regenesis.Record

/-- A hex text as a JSON value. -/
def hexJson (b : Octets) : Json := .str (Hex.encode b)

/-- A natural number as a JSON value. -/
def natJson (n : Nat) : Json := .int n

-- ---------------------------------------------------------------------------
-- Parts
-- ---------------------------------------------------------------------------

/-- The balance of an account. -/
structure TokenAccount where
  balance : Nat
deriving DecidableEq, Repr

/-- Reads a balance, which is zero by default. -/
def TokenAccount.ofJson : Json → Checked TokenAccount :=
  readRecord fun m => closed ["balance"] m (mk <$> optional "balance" natural 0 m)

/-- Writes a balance. -/
def TokenAccount.toJson (t : TokenAccount) : Json := .obj [("balance", natJson t.balance)]

/-- The number of transactions an account has sent. -/
structure SequenceAccount where
  nonce : Nat
deriving DecidableEq, Repr

/-- Reads a nonce, which is zero by default. -/
def SequenceAccount.ofJson : Json → Checked SequenceAccount :=
  readRecord fun m => closed ["nonce"] m (mk <$> optional "nonce" natural 0 m)

/-- Writes a nonce. -/
def SequenceAccount.toJson (s : SequenceAccount) : Json := .obj [("nonce", natJson s.nonce)]

/-- The keys of a multisignature group. -/
structure KeysAccount where
  mandatoryKeys : List Octets
  optionalKeys : List Octets
  numberOfSignatures : Nat
deriving DecidableEq, Repr

/-- Reads the keys of a group. By default there are none. -/
def KeysAccount.ofJson : Json → Checked KeysAccount :=
  readRecord fun m => closed ["mandatory_keys", "optional_keys", "number_of_signatures"] m
    (mk <$> optional "mandatory_keys" hexList [] m
      <*> optional "optional_keys" hexList [] m
      <*> optional "number_of_signatures" natural 0 m)

/-- Writes the keys of a group. -/
def KeysAccount.toJson (k : KeysAccount) : Json := .obj [
  ("mandatory_keys", .arr (k.mandatoryKeys.map hexJson)),
  ("optional_keys", .arr (k.optionalKeys.map hexJson)),
  ("number_of_signatures", natJson k.numberOfSignatures)]

/-- The standing of an account as a delegate. -/
structure DelegateAccount where
  username : String
  /-- The heights at which misbehaviour was reported. -/
  pomHeights : List Int
  consecutiveMissedBlocks : Int
  lastForgedHeight : Int
  isBanned : Bool
  totalVotesReceived : Nat
deriving DecidableEq, Repr

/-- The standing of an account that is no delegate. -/
def DelegateAccount.none : DelegateAccount := ⟨"", [], 0, 0, false, 0⟩

/-- Reads the standing of a delegate. By default the account is none. -/
def DelegateAccount.ofJson : Json → Checked DelegateAccount :=
  readRecord fun m => closed ["username", "pom_heights", "consecutive_missed_blocks",
      "last_forged_height", "is_banned", "total_votes_received"] m
    (mk <$> optional "username" text "" m
      <*> optional "pom_heights" (list integer) [] m
      <*> optional "consecutive_missed_blocks" integer 0 m
      <*> optional "last_forged_height" integer 0 m
      <*> optional "is_banned" boolean false m
      <*> optional "total_votes_received" natural 0 m)

/-- Writes the standing of a delegate. -/
def DelegateAccount.toJson (d : DelegateAccount) : Json := .obj [
  ("username", .str d.username),
  ("pom_heights", .arr (d.pomHeights.map Json.int)),
  ("consecutive_missed_blocks", .int d.consecutiveMissedBlocks),
  ("last_forged_height", .int d.lastForgedHeight),
  ("is_banned", .bool d.isBanned),
  ("total_votes_received", natJson d.totalVotesReceived)]

/-- A vote for a delegate. -/
structure SentVote where
  delegateAddress : Octets
  amount : Nat
deriving DecidableEq, Repr

/-- Reads a vote; both members must be there. -/
def SentVote.ofJson : Json → Checked SentVote :=
  readRecord fun m => closed ["delegate_address", "amount"] m
    (mk <$> required "delegate_address" hex m <*> required "amount" natural m)

/-- Writes a vote. -/
def SentVote.toJson (v : SentVote) : Json := .obj [
  ("delegate_address", hexJson v.delegateAddress), ("amount", natJson v.amount)]

/-- A vote that was taken back and stays locked for some time. -/
structure UnlockingEntry where
  delegateAddress : Octets
  amount : Nat
  unvoteHeight : Nat
deriving DecidableEq, Repr

/-- Reads a vote that is being unlocked; all members must be there. -/
def UnlockingEntry.ofJson : Json → Checked UnlockingEntry :=
  readRecord fun m => closed ["delegate_address", "amount", "unvote_height"] m
    (mk <$> required "delegate_address" hex m
      <*> required "amount" natural m
      <*> required "unvote_height" natural m)

/-- Writes a vote that is being unlocked. -/
def UnlockingEntry.toJson (u : UnlockingEntry) : Json := .obj [
  ("delegate_address", hexJson u.delegateAddress),
  ("amount", natJson u.amount),
  ("unvote_height", natJson u.unvoteHeight)]

/-- The part of an account in delegated proof of stake. -/
structure DposAccount where
  delegate : DelegateAccount
  sentVotes : List SentVote
  unlocking : List UnlockingEntry
deriving DecidableEq, Repr

/-- Reads the part in delegated proof of stake. By default it is empty. -/
def DposAccount.ofJson : Json → Checked DposAccount :=
  readRecord fun m => closed ["delegate", "sent_votes", "unlocking"] m
    (mk <$> optional "delegate" DelegateAccount.ofJson .none m
      <*> optional "sent_votes" (list SentVote.ofJson) [] m
      <*> optional "unlocking" (list UnlockingEntry.ofJson) [] m)

/-- Writes the part in delegated proof of stake. -/
def DposAccount.toJson (d : DposAccount) : Json := .obj [
  ("delegate", d.delegate.toJson),
  ("sent_votes", .arr (d.sentVotes.map SentVote.toJson)),
  ("unlocking", .arr (d.unlocking.map UnlockingEntry.toJson))]

-- ---------------------------------------------------------------------------
-- Accounts
-- ---------------------------------------------------------------------------

/-- An account. Its address normally has twenty bytes, but a record may state any. -/
structure Account where
  address : Octets
  token : TokenAccount
  sequence : SequenceAccount
  keys : KeysAccount
  dpos : DposAccount
deriving DecidableEq, Repr

namespace Account

/-- Reads an account; only its address must be there. -/
def ofJson : Json → Checked Account :=
  readRecord fun m => closed ["address", "token", "sequence", "keys", "dpos"] m
    (mk <$> required "address" hex m
      <*> optional "token" TokenAccount.ofJson ⟨0⟩ m
      <*> optional "sequence" SequenceAccount.ofJson ⟨0⟩ m
      <*> optional "keys" KeysAccount.ofJson ⟨[], [], 0⟩ m
      <*> optional "dpos" DposAccount.ofJson ⟨.none, [], []⟩ m)

/-- Writes an account. -/
def toJson (a : Account) : Json := .obj [
  ("address", hexJson a.address),
  ("token", a.token.toJson),
  ("sequence", a.sequence.toJson),
  ("keys", a.keys.toJson),
  ("dpos", a.dpos.toJson)]

/-- Whether the account is a delegate. -/
def isDelegate (a : Account) : Bool := a.dpos.delegate.username != ""

/-- Whether the account has votes that are sent or being unlocked. -/
def isStaker (a : Account) : Bool := !a.dpos.sentVotes.isEmpty || !a.dpos.unlocking.isEmpty

/-- What the account has locked in votes. -/
def lockedAmount (a : Account) : Nat :=
  Amount.sum (a.dpos.sentVotes.map SentVote.amount) +
    Amount.sum (a.dpos.unlocking.map UnlockingEntry.amount)

end Account

end Regenesis.Record

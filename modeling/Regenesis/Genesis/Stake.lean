import Regenesis.Genesis.Auth
import Regenesis.Record.ChainState

/-!
# Genesis.Stake — validators, stakers and the first round

The proof-of-stake module turns delegates into validators and voters into stakers. Validators get
placeholders for the keys that they can only register on the new chain. The initial validators are
the top delegates that were recorded two rounds before the round of the snapshot, without the banned
ones, in ascending order of their addresses and as many as the network allows.
-/

namespace Regenesis.Genesis.Stake

open Record

-- ---------------------------------------------------------------------------
-- Placeholders
-- ---------------------------------------------------------------------------

/-- The BLS key of a validator that has none. -/
def invalidBlsKey : String := Hex.encode (List.replicate 48 0x00)

/-- The proof of possession of a BLS key that is none. -/
def dummyProofOfPossession : String := Hex.encode (List.replicate 96 0x00)

/-- The generator key of a validator that was not observed. -/
def invalidGeneratorKey : String := Hex.encode (List.replicate 32 0xff)

/-- A commission of one hundred percent. -/
def maxCommission : Int := 10000

/-- Zero as a fixed-point number, which is written without digits. -/
def zeroFixedPoint : String := ""

/-- The sharing coefficients with which everybody starts: zero for the network's token. -/
def sharingCoefficients (tokenId : String) : Json :=
  .arr [.obj [("tokenID", .str tokenId), ("coefficient", .str zeroFixedPoint)]]

-- ---------------------------------------------------------------------------
-- Validators
-- ---------------------------------------------------------------------------

/-- A validator. -/
structure Validator where
  address : String
  name : String
  generatorKey : String
  lastGeneratedHeight : Int
  isBanned : Bool
  reportMisbehaviorHeights : List Int
  consecutiveMissedBlocks : Int
  lastCommissionIncreaseHeight : Int
  tokenId : String
deriving DecidableEq, Repr

/-- The members in the order of the shape `ValidatorEntry`, with the placeholders filled in. -/
def Validator.toJson (v : Validator) : Json := .obj [
  ("address", .str v.address),
  ("name", .str v.name),
  ("blsKey", .str invalidBlsKey),
  ("proofOfPossession", .str dummyProofOfPossession),
  ("generatorKey", .str v.generatorKey),
  ("lastGeneratedHeight", .int v.lastGeneratedHeight),
  ("isBanned", .bool v.isBanned),
  ("reportMisbehaviorHeights", .arr (v.reportMisbehaviorHeights.map Json.int)),
  ("consecutiveMissedBlocks", .int v.consecutiveMissedBlocks),
  ("lastCommissionIncreaseHeight", .int v.lastCommissionIncreaseHeight),
  ("commission", .int maxCommission),
  ("sharingCoefficients", sharingCoefficients v.tokenId)]

/-- Hex texts of generator keys by hex texts of addresses. -/
abbrev KeyTexts := Table String String

/-- The hex texts of keys by address. -/
def keyTexts (keys : Table Octets Octets) : KeyTexts :=
  keys.map fun (address, key) => (Hex.encode address, Hex.encode key)

/-- The generator key of an address. -/
def generatorKey (keys : KeyTexts) (address : Octets) : String :=
  (keys.get? (Hex.encode address)).getD invalidGeneratorKey

/-- The validator that a delegate becomes. -/
def validator (keys : KeyTexts) (height : Int) (n : Network) (a : Account) :
    Except Failure Validator := do
  let d := a.dpos.delegate
  return {
    address := ← Address.toText n.addressLabel a.address
    name := d.username
    generatorKey := generatorKey keys a.address
    lastGeneratedHeight := d.lastForgedHeight
    isBanned := d.isBanned
    reportMisbehaviorHeights := d.pomHeights
    consecutiveMissedBlocks := d.consecutiveMissedBlocks
    lastCommissionIncreaseHeight := height
    tokenId := n.tokenId }

/-- The validators, in ascending order of their addresses. -/
def validators (accounts : List Account) (keys : KeyTexts) (height : Int) (n : Network) :
    Except Failure (List Validator) :=
  (byAddress (accounts.filter Account.isDelegate)).mapM (validator keys height n)

-- ---------------------------------------------------------------------------
-- Stakers
-- ---------------------------------------------------------------------------

/-- A stake on a validator. -/
structure StakeEntry where
  validatorAddress : String
  amount : String
  tokenId : String
deriving DecidableEq, Repr

/-- A stake that was taken back and stays locked for some time. -/
structure PendingUnlock where
  validatorAddress : String
  amount : String
  unstakeHeight : Nat
deriving DecidableEq, Repr

/-- A staker. -/
structure Staker where
  address : String
  stakes : List StakeEntry
  pendingUnlocks : List PendingUnlock
deriving DecidableEq, Repr

/-- The members in the order of the shape `Stake`. -/
def StakeEntry.toJson (s : StakeEntry) : Json := .obj [
  ("validatorAddress", .str s.validatorAddress),
  ("amount", .str s.amount),
  ("sharingCoefficients", sharingCoefficients s.tokenId)]

/-- The members in the order of the shape `PendingUnlock`. -/
def PendingUnlock.toJson (u : PendingUnlock) : Json := .obj [
  ("validatorAddress", .str u.validatorAddress),
  ("amount", .str u.amount),
  ("unstakeHeight", natJson u.unstakeHeight)]

/-- The members in the order of the shape `StakerEntry`. -/
def Staker.toJson (s : Staker) : Json := .obj [
  ("address", .str s.address),
  ("stakes", .arr (s.stakes.map StakeEntry.toJson)),
  ("pendingUnlocks", .arr (s.pendingUnlocks.map PendingUnlock.toJson))]

/-- Votes in ascending order of their delegates' addresses. -/
def sortVotes (votes : List SentVote) : List SentVote :=
  votes.mergeSort fun a b => a.delegateAddress.le b.delegateAddress

/-- The stake that a vote becomes. -/
def stake (n : Network) (v : SentVote) : Except Failure StakeEntry := do
  return ⟨← Address.toText n.addressLabel v.delegateAddress, ← Decimal.writeText v.amount,
    n.tokenId⟩

/-- The stake that a vote which is being unlocked becomes. -/
def pendingUnlock (n : Network) (u : UnlockingEntry) : Except Failure PendingUnlock := do
  return ⟨← Address.toText n.addressLabel u.delegateAddress, ← Decimal.writeText u.amount,
    u.unvoteHeight⟩

/-- The staker that a voter becomes. -/
def staker (n : Network) (a : Account) : Except Failure Staker := do
  let address ← Address.toText n.addressLabel a.address
  let stakes ← (sortVotes a.dpos.sentVotes).mapM (stake n)
  let unlocks ← a.dpos.unlocking.mapM (pendingUnlock n)
  return ⟨address, stakes, unlocks⟩

/-- The stakers, in ascending order of their addresses. -/
def stakers (accounts : List Account) (n : Network) : Except Failure (List Staker) :=
  (byAddress (accounts.filter Account.isStaker)).mapM (staker n)

-- ---------------------------------------------------------------------------
-- The first round
-- ---------------------------------------------------------------------------

/-- The round of a height: the height divided by the length of a round, rounded up. -/
def roundOf (height length : Int) : Except Failure Int :=
  if length ≤ 0 then do
    Decimal.print [length]
    .error (.range (.roundLength length))
  else .ok (-(-height / length))

/-- The first elements of a list: as many as a number says, or, if it is negative, all but as many
at the end. -/
def takeFirst {α : Type} (count : Int) (xs : List α) : List α :=
  if 0 ≤ count then xs.take count.toNat else xs.take (xs.length - count.natAbs)

/-- The delegates that are recorded for a round. -/
def topDelegates (weights : VoteWeights) (round : Int) : Except Failure (List DelegateWeight) := do
  match weights.forRound round with
  | some ⟨_, d :: rest⟩ => return d :: rest
  | _ => .error (.history (.topDelegates (← Decimal.writeText round)))

/-- The addresses of the initial validators. -/
def initialValidators (accounts : List Account) (top : List DelegateWeight) (max : Int) :
    List Octets :=
  let banned := (accounts.filter fun a => a.dpos.delegate.isBanned).map Account.address
  let eligible := (top.map DelegateWeight.address).filter fun a => !banned.contains a
  takeFirst max (eligible.mergeSort Octets.le)

/-- How the new chain starts. -/
structure GenesisData where
  initRounds : Int
  initValidators : List String
deriving DecidableEq, Repr

/-- The members in the order of the shape `GenesisData`. -/
def GenesisData.toJson (g : GenesisData) : Json :=
  .obj [("initRounds", .int g.initRounds), ("initValidators", textsJson g.initValidators)]

/-- How the new chain starts after a snapshot: with delegates of two rounds before. The log tells
that round. -/
def genesisData (accounts : List Account) (weights : VoteWeights) (height : Int) (n : Network) :
    Except Failure GenesisData := do
  let round := (← roundOf height n.roundLength) - 2
  let top ← topDelegates weights round
  let initial := initialValidators accounts top n.maxInitValidators
  Decimal.print [round]
  return ⟨n.initRounds, ← initial.mapM (Address.toText n.addressLabel)⟩

-- ---------------------------------------------------------------------------
-- Data of the module
-- ---------------------------------------------------------------------------

/-- The shape of the module's data. -/
def descriptor : Json.Descriptor where
  root := ⟨"GenesisPoSStore", [
    { name := "validators", kind := .list (.shape "ValidatorEntry") },
    { name := "stakers", kind := .list (.shape "StakerEntry") },
    { name := "genesisData", kind := .shape "GenesisData" }]⟩
  definitions := [
    ⟨"GenesisData", [
      { name := "initRounds", kind := .integer },
      { name := "initValidators", kind := .list .text }]⟩,
    ⟨"PendingUnlock", [
      { name := "validatorAddress", kind := .text },
      { name := "amount", kind := .text },
      { name := "unstakeHeight", kind := .integer }]⟩,
    ⟨"SharingCoefficient", [
      { name := "tokenID", kind := .text },
      { name := "coefficient", kind := .text }]⟩,
    ⟨"Stake", [
      { name := "validatorAddress", kind := .text },
      { name := "amount", kind := .text },
      { name := "sharingCoefficients", kind := .list (.shape "SharingCoefficient") }]⟩,
    ⟨"StakerEntry", [
      { name := "address", kind := .text },
      { name := "stakes", kind := .list (.shape "Stake") },
      { name := "pendingUnlocks", kind := .list (.shape "PendingUnlock") }]⟩,
    ⟨"ValidatorEntry", [
      { name := "address", kind := .text },
      { name := "name", kind := .text },
      { name := "blsKey", kind := .text },
      { name := "proofOfPossession", kind := .text },
      { name := "generatorKey", kind := .text },
      { name := "lastGeneratedHeight", kind := .integer },
      { name := "isBanned", kind := .boolean },
      { name := "reportMisbehaviorHeights", kind := .list .integer },
      { name := "consecutiveMissedBlocks", kind := .integer },
      { name := "lastCommissionIncreaseHeight", kind := .integer },
      { name := "commission", kind := .integer },
      { name := "sharingCoefficients", kind := .list (.shape "SharingCoefficient") }]⟩]

/-- The asset of the proof-of-stake module. -/
def asset (accounts : List Account) (keys : KeyTexts) (weights : VoteWeights) (height : Int)
    (n : Network) : Except Failure Asset := do
  let validators ← validators accounts keys height n
  let stakers ← stakers accounts n
  let start ← genesisData accounts weights height n
  let data : Json := .obj [
    ("validators", .arr (validators.map Validator.toJson)),
    ("stakers", .arr (stakers.map Staker.toJson)),
    ("genesisData", start.toJson)]
  return ⟨"pos", data, descriptor.schema⟩

end Regenesis.Genesis.Stake

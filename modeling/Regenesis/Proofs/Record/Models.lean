import Mathlib
import Regenesis.Proofs.Record.Lawful

/-!
# Proofs.Record.Models — each kind of record is lawful

A record is read and written member by member, so each of the theorems names the members, with the
default of each that has one and the value that this default is read from.
-/

namespace Regenesis.Record

-- ---------------------------------------------------------------------------
-- Values that defaults are read from
-- ---------------------------------------------------------------------------

section
open Json (Storable)

theorem storable_zero (room : Nat) : Storable (room + 1) (.int 0) := .int (by decide)

theorem storable_two (room : Nat) : Storable (room + 1) (.int 2) := .int (by decide)

/-- An empty list can be stored. -/
theorem storable_noItems (room : Nat) : Storable (room + 1) (.arr []) :=
  .arr (List.forall_mem_nil _)

theorem storable_noMembers (room : Nat) : Storable (room + 1) (.obj []) :=
  .obj List.nodup_nil (List.forall_mem_nil _)

end

-- ---------------------------------------------------------------------------
-- Accounts
-- ---------------------------------------------------------------------------

/-- Balances are decoded as they are encoded. -/
theorem TokenAccount.lawful : Lawful TokenAccount.kind TokenAccount.ofJson TokenAccount.toJson := by
  refine Lawful.record [
    Lawful.natural.optional "balance" 0 rfl storable_zero balance]
    (by decide) ?_ fun _ => rfl
  intro ms a
  cases a
  simp [map_eq_ok, Lawful.optional]

theorem SequenceAccount.lawful :
    Lawful SequenceAccount.kind SequenceAccount.ofJson SequenceAccount.toJson := by
  refine Lawful.record [
    Lawful.natural.optional "nonce" 0 rfl storable_zero nonce]
    (by decide) ?_ fun _ => rfl
  intro ms a
  cases a
  simp [map_eq_ok, Lawful.optional]

theorem KeysAccount.lawful : Lawful KeysAccount.kind KeysAccount.ofJson KeysAccount.toJson := by
  refine Lawful.record [
    Lawful.hexList.optional "mandatory_keys" [] rfl storable_noItems mandatoryKeys,
    Lawful.hexList.optional "optional_keys" [] rfl storable_noItems optionalKeys,
    Lawful.natural.optional "number_of_signatures" 0 rfl storable_zero numberOfSignatures]
    (by decide) ?_ fun _ => rfl
  intro ms a
  cases a
  simp [map_eq_ok, seq_eq_ok, Lawful.optional]

theorem DelegateAccount.lawful :
    Lawful DelegateAccount.kind DelegateAccount.ofJson DelegateAccount.toJson := by
  refine Lawful.record [
    Lawful.text.optional "username" "" rfl (fun _ => .str "") username,
    Lawful.integer.list.optional "pom_heights" [] rfl storable_noItems pomHeights,
    Lawful.integer.optional "consecutive_missed_blocks" 0 rfl storable_zero consecutiveMissedBlocks,
    Lawful.integer.optional "last_forged_height" 0 rfl storable_zero lastForgedHeight,
    Lawful.boolean.optional "is_banned" false rfl (fun _ => .bool false) isBanned,
    Lawful.natural.optional "total_votes_received" 0 rfl storable_zero totalVotesReceived]
    (by decide) ?_ fun _ => rfl
  intro ms a
  cases a
  simp [-Bool.exists_bool, map_eq_ok, seq_eq_ok, and_assoc, Lawful.optional]

theorem SentVote.lawful : Lawful SentVote.kind SentVote.ofJson SentVote.toJson := by
  refine Lawful.record [
    Lawful.hex.required "delegate_address" delegateAddress,
    Lawful.natural.required "amount" amount]
    (by decide) ?_ fun _ => rfl
  intro ms a
  cases a
  simp [map_eq_ok, seq_eq_ok, Lawful.required]

theorem UnlockingEntry.lawful :
    Lawful UnlockingEntry.kind UnlockingEntry.ofJson UnlockingEntry.toJson := by
  refine Lawful.record [
    Lawful.hex.required "delegate_address" delegateAddress,
    Lawful.natural.required "amount" amount,
    Lawful.natural.required "unvote_height" unvoteHeight]
    (by decide) ?_ fun _ => rfl
  intro ms a
  cases a
  simp [map_eq_ok, seq_eq_ok, Lawful.required]

/-- Votes and unlocks are decoded as they are encoded, in their order. -/
theorem DposAccount.lawful : Lawful DposAccount.kind DposAccount.ofJson DposAccount.toJson := by
  refine Lawful.record [
    DelegateAccount.lawful.optional "delegate" .none rfl storable_noMembers delegate,
    SentVote.lawful.list.optional "sent_votes" [] rfl storable_noItems sentVotes,
    UnlockingEntry.lawful.list.optional "unlocking" [] rfl storable_noItems unlocking]
    (by decide) ?_ fun _ => rfl
  intro ms a
  cases a
  simp [map_eq_ok, seq_eq_ok, Lawful.optional]

/-- An account is decoded as it is encoded, with all its parts. -/
theorem Account.lawful : Lawful Account.kind Account.ofJson Account.toJson := by
  refine Lawful.record [
    Lawful.hex.required "address" address,
    TokenAccount.lawful.optional "token" ⟨0⟩ rfl storable_noMembers token,
    SequenceAccount.lawful.optional "sequence" ⟨0⟩ rfl storable_noMembers sequence,
    KeysAccount.lawful.optional "keys" ⟨[], [], 0⟩ rfl storable_noMembers keys,
    DposAccount.lawful.optional "dpos" ⟨.none, [], []⟩ rfl storable_noMembers dpos]
    (by decide) ?_ fun _ => rfl
  intro ms a
  cases a
  simp [map_eq_ok, seq_eq_ok, and_assoc, Lawful.required, Lawful.optional]

-- ---------------------------------------------------------------------------
-- Blocks
-- ---------------------------------------------------------------------------

/-- A header is decoded as it is encoded. -/
theorem BlockHeader.lawful : Lawful BlockHeader.kind BlockHeader.ofJson BlockHeader.toJson := by
  refine Lawful.record [
    Lawful.hex.required "id" id,
    Lawful.natural.required "height" height,
    Lawful.natural.required "timestamp" timestamp,
    Lawful.hex.optional "previous_block_id" [] rfl (fun _ => .str "") previousBlockId,
    Lawful.integer.optional "version" 2 rfl storable_two version,
    Lawful.hex.required "generator_public_key" generatorPublicKey]
    (by decide) ?_ fun _ => rfl
  intro ms a
  cases a
  simp [map_eq_ok, seq_eq_ok, and_assoc, Lawful.required, Lawful.optional]

/-- A transaction is decoded as it is encoded, with its open parameters. -/
theorem Transaction.lawful : Lawful Transaction.kind Transaction.ofJson Transaction.toJson := by
  refine Lawful.record [
    Lawful.hex.required "id" id,
    Lawful.text.required "module" moduleName,
    Lawful.text.required "command" command,
    Lawful.natural.optional "nonce" 0 rfl storable_zero nonce,
    Lawful.natural.optional "fee" 0 rfl storable_zero fee,
    Lawful.hex.required "sender_public_key" senderPublicKey,
    Lawful.object.optional "params" [] rfl storable_noMembers params]
    (by decide) ?_ fun _ => rfl
  intro ms a
  cases a
  simp [map_eq_ok, seq_eq_ok, and_assoc, Lawful.required, Lawful.optional]

-- ---------------------------------------------------------------------------
-- The state of the chain
-- ---------------------------------------------------------------------------

theorem UnregisteredAccount.lawful :
    Lawful UnregisteredAccount.kind UnregisteredAccount.ofJson UnregisteredAccount.toJson := by
  refine Lawful.record [
    Lawful.hex.required "address" address,
    Lawful.natural.required "balance" balance]
    (by decide) ?_ fun _ => rfl
  intro ms a
  cases a
  simp [map_eq_ok, seq_eq_ok, Lawful.required]

theorem UnregisteredAddresses.lawful :
    Lawful UnregisteredAddresses.kind UnregisteredAddresses.ofJson
      UnregisteredAddresses.toJson := by
  refine Lawful.record [
    UnregisteredAccount.lawful.list.optional "unregistered_addresses" [] rfl storable_noItems
      accounts]
    (by decide) ?_ fun _ => rfl
  intro ms a
  cases a
  simp [map_eq_ok, Lawful.optional]

theorem DelegateWeight.lawful :
    Lawful DelegateWeight.kind DelegateWeight.ofJson DelegateWeight.toJson := by
  refine Lawful.record [
    Lawful.hex.required "address" address,
    Lawful.natural.required "vote_weight" voteWeight]
    (by decide) ?_ fun _ => rfl
  intro ms a
  cases a
  simp [map_eq_ok, seq_eq_ok, Lawful.required]

theorem VoteWeight.lawful : Lawful VoteWeight.kind VoteWeight.ofJson VoteWeight.toJson := by
  refine Lawful.record [
    Lawful.integer.required "round" round,
    DelegateWeight.lawful.list.optional "delegates" [] rfl storable_noItems delegates]
    (by decide) ?_ fun _ => rfl
  intro ms a
  cases a
  simp [map_eq_ok, seq_eq_ok, Lawful.required, Lawful.optional]

/-- Vote weights are decoded as they are encoded, round by round. -/
theorem VoteWeights.lawful : Lawful VoteWeights.kind VoteWeights.ofJson VoteWeights.toJson := by
  refine Lawful.record [
    VoteWeight.lawful.list.optional "vote_weights" [] rfl storable_noItems rounds]
    (by decide) ?_ fun _ => rfl
  intro ms a
  cases a
  simp [map_eq_ok, Lawful.optional]

-- ---------------------------------------------------------------------------
-- All kinds
-- ---------------------------------------------------------------------------

/-- Every kind of record that is stored is lawful. -/
theorem lawful_of_mem_models {m : Model} (h : m ∈ models) :
    Lawful m.kind m.schema.ofJson m.schema.toJson := by
  simp only [models, List.mem_cons, List.not_mem_nil, or_false] at h
  rcases h with rfl | rfl | rfl | rfl | rfl | rfl | rfl | rfl | rfl | rfl | rfl | rfl | rfl | rfl |
    rfl
  · exact TokenAccount.lawful
  · exact SequenceAccount.lawful
  · exact KeysAccount.lawful
  · exact DelegateAccount.lawful
  · exact SentVote.lawful
  · exact UnlockingEntry.lawful
  · exact DposAccount.lawful
  · exact Account.lawful
  · exact BlockHeader.lawful
  · exact Transaction.lawful
  · exact UnregisteredAccount.lawful
  · exact UnregisteredAddresses.lawful
  · exact DelegateWeight.lawful
  · exact VoteWeight.lawful
  · exact VoteWeights.lawful

/-- No value of any kind is deeper than there is room for in a stored value. -/
theorem depth_le_of_mem_models {m : Model} (h : m ∈ models) : m.kind.depth ≤ 201 := by
  simp only [models, List.mem_cons, List.not_mem_nil, or_false] at h
  rcases h with rfl | rfl | rfl | rfl | rfl | rfl | rfl | rfl | rfl | rfl | rfl | rfl | rfl | rfl |
    rfl
  all_goals decide

end Regenesis.Record

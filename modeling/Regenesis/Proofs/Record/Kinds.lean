import Mathlib
import Regenesis.Record.Schema
import Regenesis.Proofs.Hex
import Regenesis.Proofs.Json.Canonical

/-!
# Proofs.Record.Kinds — what the members of records are declared to hold

A kind says what a member holds: hex bytes, a number, a list of values of a kind, or a record with
members of its own. Three relations follow a kind through a value:

* `Normal` — the value has every declared member, and each is in its normal form; hex, for one, is
  pairs of small digits;
* `Closed` — the value has no member that is not declared, in any record inside it;
* `Part` — a value stands in another one at a place of a given kind.

Hex texts in normal form are the same exactly if they stand for the same bytes
(`IsCanonicalHex.eq_iff`), and a value in normal form has no doubles but those of its open objects
(`floatFree_of_normal`).
-/

namespace Regenesis

namespace Record

-- ---------------------------------------------------------------------------
-- Kinds
-- ---------------------------------------------------------------------------

/-- What a value is declared to hold. -/
inductive Kind where
  | hex
  /-- An integer that is not negative. -/
  | natural
  | integer
  | boolean
  | text
  /-- An object with any members. -/
  | openObject
  | list (items : Kind)
  | record (fields : List (String × Kind))

mutual

/-- How many values of a kind with its declared parts are inside one another. -/
def Kind.depth : Kind → Nat
  | .list items => items.depth + 1
  | .record fields => Kind.depthOfFields fields + 1
  | .hex | .natural | .integer | .boolean | .text | .openObject => 1

/-- The greatest depth of some fields. -/
def Kind.depthOfFields : List (String × Kind) → Nat
  | [] => 0
  | (_, k) :: rest => max k.depth (Kind.depthOfFields rest)

end

mutual

/-- Whether there is no open object in the values of a kind. -/
def Kind.isDefinite : Kind → Bool
  | .openObject => false
  | .list items => items.isDefinite
  | .record fields => Kind.areDefinite fields
  | .hex | .natural | .integer | .boolean | .text => true

/-- Whether there is no open object in the values of some fields. -/
def Kind.areDefinite : List (String × Kind) → Bool
  | [] => true
  | (_, k) :: rest => k.isDefinite && Kind.areDefinite rest

end

/-- Whether a value is in the normal form of its kind. -/
inductive Normal : Kind → Json → Prop where
  | hex {s : String} : IsCanonicalHex s → Normal .hex (.str s)
  | natural {n : Int} : 0 ≤ n → Normal .natural (.int n)
  | integer (n : Int) : Normal .integer (.int n)
  | boolean (b : Bool) : Normal .boolean (.bool b)
  | text (s : String) : Normal .text (.str s)
  | openObject (members : Json.Members) : Normal .openObject (.obj members)
  | list {k : Kind} {items : List Json} :
      (∀ v ∈ items, Normal k v) → Normal (.list k) (.arr items)
  | record {fields : List (String × Kind)} {members : List (String × Json)} :
      members.map Prod.fst = fields.map Prod.fst →
      (∀ m ∈ members, ∀ k, (m.1, k) ∈ fields → Normal k m.2) →
      Normal (.record fields) (.obj members)

/-- Whether the records in a value have declared members only. -/
inductive Closed : Kind → Json → Prop where
  | leaf {k : Kind} {v : Json} :
      (∀ items, k ≠ .list items) → (∀ fields, k ≠ .record fields) → Closed k v
  | list {k : Kind} {items : List Json} :
      (∀ v ∈ items, Closed k v) → Closed (.list k) (.arr items)
  | record {fields : List (String × Kind)} {members : List (String × Json)} :
      (∀ m ∈ members, m.1 ∈ fields.map Prod.fst) →
      (∀ m ∈ members, ∀ k, (m.1, k) ∈ fields → Closed k m.2) →
      Closed (.record fields) (.obj members)

/-- Whether the last value stands in the one before it, of the kind before that, at a place that is
declared to hold the first kind. -/
inductive Part (place : Kind) : Kind → Json → Json → Prop where
  | here (v : Json) : Part place place v v
  | item {k : Kind} {items : List Json} {v w : Json} :
      v ∈ items → Part place k v w → Part place (.list k) (.arr items) w
  | member {name : String} {k : Kind} {fields : List (String × Kind)}
      {members : List (String × Json)} {v w : Json} :
      (name, v) ∈ members → (name, k) ∈ fields → Part place k v w →
      Part place (.record fields) (.obj members) w

section
variable {k : Kind} {v : Json}

theorem Kind.depth_pos (k : Kind) : 0 < k.depth := by
  cases k with
  | list | record => exact Nat.succ_pos _
  | _ => exact Nat.one_pos

theorem Kind.depth_le_depthOfFields {name : String} {fields : List (String × Kind)}
    (h : (name, k) ∈ fields) : k.depth ≤ Kind.depthOfFields fields := by
  induction fields with
  | nil => exact nomatch h
  | cons field rest ih =>
    obtain ⟨name', k'⟩ := field
    rw [Kind.depthOfFields]
    rcases List.mem_cons.1 h with heq | h
    · rw [(Prod.mk.inj heq).2]
      exact le_max_left _ _
    · exact (ih h).trans (le_max_right _ _)

theorem Kind.isDefinite_of_areDefinite {name : String} {fields : List (String × Kind)}
    (hfields : Kind.areDefinite fields = true) (h : (name, k) ∈ fields) : k.isDefinite = true := by
  induction fields with
  | nil => exact nomatch h
  | cons field rest ih =>
    obtain ⟨name', k'⟩ := field
    rw [Kind.areDefinite, Bool.and_eq_true] at hfields
    rcases List.mem_cons.1 h with heq | h
    · rw [(Prod.mk.inj heq).2]
      exact hfields.1
    · exact ih hfields.2 h

/-- A kind without open objects has none inside. -/
theorem not_part_of_isDefinite {w : Json} (hk : k.isDefinite = true) :
    ¬ Part .openObject k v w := by
  intro hpart
  induction hpart with
  | here => exact nomatch hk
  | item _ _ ih => exact ih hk
  | member _ hfield _ ih => exact ih (Kind.isDefinite_of_areDefinite hk hfield)

/-- In a normal form, all that stands at a place for a kind is in the normal form of that kind. -/
theorem normal_of_part {place : Kind} {w : Json} (h : Normal k v) (hpart : Part place k v w) :
    Normal place w := by
  induction hpart with
  | here v => exact h
  | item hmem _ ih =>
    cases h with
    | list hitems => exact ih (hitems _ hmem)
  | member hmem hfield _ ih =>
    cases h with
    | record _ hmembers => exact ih (hmembers _ hmem _ hfield)

/-- A part of what has no floats has none. -/
theorem floatFree_of_part {place : Kind} {w : Json} (h : v.floatFree = true)
    (hpart : Part place k v w) : w.floatFree = true := by
  induction hpart with
  | here => exact h
  | item hmem _ ih =>
    rw [Json.floatFree, Json.allNumbers, Json.allNumbersInItems_eq_all, List.all_eq_true] at h
    exact ih (h _ hmem)
  | member hmem _ _ ih =>
    rw [Json.floatFree, Json.allNumbers, Json.allNumbersInMembers_eq_all, List.all_eq_true] at h
    exact ih (h _ hmem)

/-- Doubles stand in open objects only. -/
theorem floatFree_of_normal (h : Normal k v)
    (hopen : ∀ w, Part .openObject k v w → w.floatFree = true) : v.floatFree = true := by
  induction h with
  | hex | natural | integer | boolean | text => rfl
  | openObject members => exact hopen _ (.here _)
  | list _ ih =>
    rw [Json.floatFree, Json.allNumbers, Json.allNumbersInItems_eq_all, List.all_eq_true]
    exact fun v hv => ih v hv fun w hw => hopen w (.item hv hw)
  | @record fields members hnames _ ih =>
    rw [Json.floatFree, Json.allNumbers, Json.allNumbersInMembers_eq_all, List.all_eq_true]
    intro m hm
    have hname : m.1 ∈ fields.map Prod.fst := hnames ▸ List.mem_map_of_mem hm
    obtain ⟨⟨name, k⟩, hfield, rfl⟩ := List.mem_map.1 hname
    exact ih m hm k hfield fun w hw => hopen w (.member hm hfield hw)

/-- Only open objects have room for floats. -/
theorem floatFree_of_isDefinite (h : Normal k v) (hk : k.isDefinite = true) :
    v.floatFree = true :=
  floatFree_of_normal h fun _ hw => absurd hw (not_part_of_isDefinite hk)

end

-- ---------------------------------------------------------------------------
-- The kinds of records
-- ---------------------------------------------------------------------------

def TokenAccount.kind : Kind := .record [("balance", .natural)]

def SequenceAccount.kind : Kind := .record [("nonce", .natural)]

def KeysAccount.kind : Kind := .record [
  ("mandatory_keys", .list .hex),
  ("optional_keys", .list .hex),
  ("number_of_signatures", .natural)]

def DelegateAccount.kind : Kind := .record [
  ("username", .text),
  ("pom_heights", .list .integer),
  ("consecutive_missed_blocks", .integer),
  ("last_forged_height", .integer),
  ("is_banned", .boolean),
  ("total_votes_received", .natural)]

def SentVote.kind : Kind := .record [("delegate_address", .hex), ("amount", .natural)]

def UnlockingEntry.kind : Kind := .record [
  ("delegate_address", .hex), ("amount", .natural), ("unvote_height", .natural)]

def DposAccount.kind : Kind := .record [
  ("delegate", DelegateAccount.kind),
  ("sent_votes", .list SentVote.kind),
  ("unlocking", .list UnlockingEntry.kind)]

def Account.kind : Kind := .record [
  ("address", .hex),
  ("token", TokenAccount.kind),
  ("sequence", SequenceAccount.kind),
  ("keys", KeysAccount.kind),
  ("dpos", DposAccount.kind)]

def BlockHeader.kind : Kind := .record [
  ("id", .hex),
  ("height", .natural),
  ("timestamp", .natural),
  ("previous_block_id", .hex),
  ("version", .integer),
  ("generator_public_key", .hex)]

def Transaction.kind : Kind := .record [
  ("id", .hex),
  ("module", .text),
  ("command", .text),
  ("nonce", .natural),
  ("fee", .natural),
  ("sender_public_key", .hex),
  ("params", .openObject)]

def UnregisteredAccount.kind : Kind := .record [("address", .hex), ("balance", .natural)]

def UnregisteredAddresses.kind : Kind :=
  .record [("unregistered_addresses", .list UnregisteredAccount.kind)]

def DelegateWeight.kind : Kind := .record [("address", .hex), ("vote_weight", .natural)]

def VoteWeight.kind : Kind := .record [
  ("round", .integer), ("delegates", .list DelegateWeight.kind)]

def VoteWeights.kind : Kind := .record [("vote_weights", .list VoteWeight.kind)]

/-- A kind of record with its schema. -/
structure Model where
  /-- The records. -/
  Carrier : Type
  schema : Schema Carrier
  kind : Kind

/-- All kinds of records that are stored, and those that they are made of. -/
def models : List Model := [
  ⟨_, tokenAccountSchema, TokenAccount.kind⟩,
  ⟨_, sequenceAccountSchema, SequenceAccount.kind⟩,
  ⟨_, keysAccountSchema, KeysAccount.kind⟩,
  ⟨_, delegateAccountSchema, DelegateAccount.kind⟩,
  ⟨_, sentVoteSchema, SentVote.kind⟩,
  ⟨_, unlockingEntrySchema, UnlockingEntry.kind⟩,
  ⟨_, dposAccountSchema, DposAccount.kind⟩,
  ⟨_, accountSchema, Account.kind⟩,
  ⟨_, blockHeaderSchema, BlockHeader.kind⟩,
  ⟨_, transactionSchema, Transaction.kind⟩,
  ⟨_, unregisteredAccountSchema, UnregisteredAccount.kind⟩,
  ⟨_, unregisteredAddressesSchema, UnregisteredAddresses.kind⟩,
  ⟨_, delegateWeightSchema, DelegateWeight.kind⟩,
  ⟨_, voteWeightSchema, VoteWeight.kind⟩,
  ⟨_, voteWeightsSchema, VoteWeights.kind⟩]

end Record

end Regenesis

import Mathlib
import Regenesis.Genesis.Stake
import Regenesis.Proofs.Order
import Regenesis.Proofs.Outcome
import Regenesis.Proofs.Stake.Stakers

/-!
# Proofs.Record.Reordering — accounts that differ in order only

Keys of a group and votes have no order of their own, and neither have accounts. `ordered` brings an
account into a form in which they have one. Accounts that differ in order only have one form, and
what the modules take from an account they can take from its form. So a pass over accounts in the
order of their addresses has the same outcome for lists with the same forms.
-/

namespace Regenesis.Genesis

open Record

-- ---------------------------------------------------------------------------
-- Accounts
-- ---------------------------------------------------------------------------

/-- Whether accounts are the same up to the order of keys and votes, where no delegate is voted for
twice. -/
structure SameAccount (a b : Account) : Prop where
  address : a.address = b.address
  token : a.token = b.token
  sequence : a.sequence = b.sequence
  mandatoryKeys : a.keys.mandatoryKeys.Perm b.keys.mandatoryKeys
  optionalKeys : a.keys.optionalKeys.Perm b.keys.optionalKeys
  numberOfSignatures : a.keys.numberOfSignatures = b.keys.numberOfSignatures
  delegate : a.dpos.delegate = b.dpos.delegate
  sentVotes : a.dpos.sentVotes.Perm b.dpos.sentVotes
  distinctVotes : (a.dpos.sentVotes.map SentVote.delegateAddress).Nodup
  unlocking : a.dpos.unlocking = b.dpos.unlocking

/-- The account with its keys and votes in ascending order. -/
def ordered (a : Account) : Account where
  address := a.address
  token := a.token
  sequence := a.sequence
  keys := ⟨Auth.sortKeys a.keys.mandatoryKeys, Auth.sortKeys a.keys.optionalKeys,
    a.keys.numberOfSignatures⟩
  dpos := ⟨a.dpos.delegate, Stake.sortVotes a.dpos.sentVotes, a.dpos.unlocking⟩

/-- Keys are sorted, so their order does not matter. -/
theorem sortKeys_eq_of_perm {keys keys' : List Octets} (h : keys.Perm keys') :
    Auth.sortKeys keys = Auth.sortKeys keys' :=
  Order.mergeSort_eq_of_perm Octets.le_trans Octets.le_total h
    fun _ _ _ _ hab hba => Octets.le_antisymm hab hba

/-- Votes for distinct delegates are sorted, so their order does not matter. -/
theorem sortVotes_eq_of_perm {votes votes' : List SentVote} (h : votes.Perm votes')
    (hnodup : (votes.map SentVote.delegateAddress).Nodup) :
    Stake.sortVotes votes = Stake.sortVotes votes' :=
  Order.mergeSort_key_eq_of_perm SentVote.delegateAddress h
    (Order.eq_of_key_eq SentVote.delegateAddress hnodup)

/-- Accounts that differ in order only have one ordered form. -/
theorem ordered_eq_of_same {a b : Account} (h : SameAccount a b) : ordered a = ordered b := by
  rw [ordered, ordered, h.address, h.token, h.sequence, h.numberOfSignatures, h.delegate,
    h.unlocking, sortKeys_eq_of_perm h.mandatoryKeys, sortKeys_eq_of_perm h.optionalKeys,
    sortVotes_eq_of_perm h.sentVotes h.distinctVotes]

-- ---------------------------------------------------------------------------
-- What modules take from an account
-- ---------------------------------------------------------------------------

theorem sortKeys_sortKeys (keys : List Octets) :
    Auth.sortKeys (Auth.sortKeys keys) = Auth.sortKeys keys :=
  sortKeys_eq_of_perm (List.mergeSort_perm keys Octets.le)

theorem sortVotes_sortVotes (votes : List SentVote) :
    Stake.sortVotes (Stake.sortVotes votes) = Stake.sortVotes votes :=
  Order.mergeSort_key_idem SentVote.delegateAddress votes

/-- The order of votes and unlocks does not change what an account has locked. -/
theorem lockedAmount_ordered (a : Account) : (ordered a).lockedAmount = a.lockedAmount := by
  have hvotes : Amount.sum ((Stake.sortVotes a.dpos.sentVotes).map SentVote.amount) =
      Amount.sum (a.dpos.sentVotes.map SentVote.amount) :=
    Amount.sum_eq_of_perm ((Stake.sortVotes_perm _).map _)
  rw [Account.lockedAmount, Account.lockedAmount, ← hvotes]
  rfl

theorem isStaker_ordered (a : Account) : (ordered a).isStaker = a.isStaker := by
  have hvotes : (Stake.sortVotes a.dpos.sentVotes).isEmpty = a.dpos.sentVotes.isEmpty :=
    (Stake.sortVotes_perm _).isEmpty_eq
  rw [Account.isStaker, Account.isStaker, ← hvotes]
  rfl

/-- The order within an account does not change its entry of keys. -/
theorem authEntry_ordered (n : Network) (a : Account) :
    Auth.entry n (ordered a) = Auth.entry n a := by
  have hform : Auth.AuthAccount.ofAccount (ordered a) = Auth.AuthAccount.ofAccount a := by
    have hmandatory : Auth.sortKeys (ordered a).keys.mandatoryKeys =
        Auth.sortKeys a.keys.mandatoryKeys := sortKeys_sortKeys _
    have hoptional : Auth.sortKeys (ordered a).keys.optionalKeys =
        Auth.sortKeys a.keys.optionalKeys := sortKeys_sortKeys _
    rw [Auth.AuthAccount.ofAccount, Auth.AuthAccount.ofAccount, hmandatory, hoptional]
    rfl
  rw [Auth.entry, hform]
  rfl

/-- The order within an account does not change its staker. -/
theorem staker_ordered (n : Network) (a : Account) :
    Stake.staker n (ordered a) = Stake.staker n a := by
  have hvotes : Stake.sortVotes (ordered a).dpos.sentVotes = Stake.sortVotes a.dpos.sentVotes :=
    sortVotes_sortVotes a.dpos.sentVotes
  rw [Stake.staker, Stake.staker, hvotes]
  rfl

-- ---------------------------------------------------------------------------
-- Lists of accounts
-- ---------------------------------------------------------------------------

/-- Whether lists of accounts are the same up to the order of accounts, keys and votes, where no two
accounts share an address. -/
structure SameAccounts (xs ys : List Account) : Prop where
  same : ∃ zs, xs.Perm zs ∧ List.Forall₂ SameAccount zs ys
  distinct : (xs.map Account.address).Nodup

variable {xs ys : List Account}

/-- The same accounts, each of them put in order, are the same up to their order. -/
theorem perm_map_ordered (h : SameAccounts xs ys) : (xs.map ordered).Perm (ys.map ordered) := by
  obtain ⟨zs, hperm, hsame⟩ := h.same
  have hform : zs.map ordered = ys.map ordered := by
    rw [← List.forall₂_eq_eq_eq, List.forall₂_map_left_iff, List.forall₂_map_right_iff]
    exact hsame.imp fun _ _ hab => ordered_eq_of_same hab
  exact hform ▸ hperm.map ordered

theorem distinct_map_ordered (h : SameAccounts xs ys) :
    ((xs.map ordered).map Account.address).Nodup := by
  rw [List.map_map]
  exact h.distinct

/-- A pass over the accounts that pass a test, in the order of their addresses. -/
theorem mapM_byAddress_eq {β : Type} {f : Account → Except Failure β} {p : Account → Bool}
    (hf : ∀ a, f (ordered a) = f a) (hp : ∀ a, p (ordered a) = p a) (h : SameAccounts xs ys) :
    (byAddress (xs.filter p)).mapM f = (byAddress (ys.filter p)).mapM f := by
  have hform : ∀ zs : List Account,
      (byAddress (zs.filter p)).mapM f = (byAddress ((zs.map ordered).filter p)).mapM f := by
    intro zs
    have hsort : (byAddress (zs.filter p)).map ordered = byAddress ((zs.filter p).map ordered) := by
      unfold byAddress
      exact List.map_mergeSort fun _ _ _ _ => rfl
    rw [List.filter_map, show p ∘ ordered = p from funext hp, ← hsort, List.mapM_map,
      show f ∘ ordered = f from funext hf]
  have hsorted : byAddress ((xs.map ordered).filter p) = byAddress ((ys.map ordered).filter p) := by
    refine Order.mergeSort_key_eq_of_perm Account.address ((perm_map_ordered h).filter p) ?_
    intro a ha b hb
    exact Order.eq_of_key_eq Account.address (distinct_map_ordered h) a (List.mem_of_mem_filter ha)
      b (List.mem_of_mem_filter hb)
  rw [hform xs, hform ys, hsorted]

/-- The auth asset depends on the forms of the accounts only. -/
theorem authAsset_eq (n : Network) (h : SameAccounts xs ys) :
    Auth.asset xs n = Auth.asset ys n := by
  have hentries : Auth.entries xs n = Auth.entries ys n := by
    have hpass := mapM_byAddress_eq (p := fun _ => true) (authEntry_ordered n) (fun _ => rfl) h
    rwa [List.filter_true, List.filter_true] at hpass
  rw [Auth.asset, Auth.asset, hentries]

end Regenesis.Genesis

import Mathlib
import Regenesis.Proofs.Pairing
import Regenesis.Proofs.Record.Reordering

/-!
# Proofs.Stake.Reordering — the proof-of-stake asset does not depend on the order

Validators and stakers are passes over the accounts in the order of their addresses. The initial
validators are those of one recorded round, which is found by its number, and they are sorted, so
that neither the order of the rounds nor that of the delegates in them counts.
-/

namespace Regenesis.Genesis.Stake

open Record

-- ---------------------------------------------------------------------------
-- Recorded rounds
-- ---------------------------------------------------------------------------

/-- Whether recorded rounds are the same up to the order of their delegates. -/
def SameRound (v w : VoteWeight) : Prop := v.round = w.round ∧ v.delegates.Perm w.delegates

/-- Whether records of rounds are the same up to the order of rounds and delegates, where no round
is recorded twice. -/
structure SameRounds (v w : VoteWeights) : Prop where
  same : ∃ us, v.rounds.Perm us ∧ List.Forall₂ SameRound us w.rounds
  distinct : (v.rounds.map VoteWeight.round).Nodup

variable {v w : VoteWeights} {xs ys : List Account} {n : Network}

/-- A round is recorded in both, or in neither. -/
theorem forRound_same (h : SameRounds v w) (round : Int) :
    (v.forRound round = none ∧ w.forRound round = none) ∨
      ∃ a b, v.forRound round = some a ∧ w.forRound round = some b ∧ SameRound a b := by
  obtain ⟨us, hperm, hsame⟩ := h.same
  -- distinct rounds: the order in which they are listed does not decide which one is found
  have hfind : v.forRound round = us.find? fun u => u.round == round :=
    Pairing.find?_key_eq_of_perm hperm h.distinct round
  have hrel := Pairing.find?_rel (p := fun u => u.round == round) (q := fun u => u.round == round)
    (fun a b hab => by rw [hab.1]) hsame
  rw [← hfind] at hrel
  change Option.Rel SameRound (v.forRound round) (w.forRound round) at hrel
  cases hv : v.forRound round with
  | none =>
    cases hw : w.forRound round with
    | none => exact Or.inl ⟨rfl, rfl⟩
    | some b =>
      rw [hv, hw] at hrel
      exact absurd hrel Option.not_rel_none_some
  | some a =>
    cases hw : w.forRound round with
    | none =>
      rw [hv, hw] at hrel
      exact absurd hrel Option.not_rel_some_none
    | some b =>
      rw [hv, hw] at hrel
      exact Or.inr ⟨a, b, rfl, rfl, Option.rel_some_some.1 hrel⟩

/-- The recorded delegates are found in both records, in some order, or missed in both. -/
theorem topDelegates_same (h : SameRounds v w) (round : Int) :
    (∃ top top', topDelegates v round = .ok top ∧ topDelegates w round = .ok top' ∧
      top.Perm top') ∨
    ∃ e, topDelegates v round = .error e ∧ topDelegates w round = .error e := by
  unfold topDelegates
  -- whatever goes wrong in naming the missing round, it is the same on both sides
  have hmissed : ∃ e, (do
      .error (.history (.topDelegates (← Decimal.writeText round))) :
        Except Failure (List DelegateWeight)) = .error e := by
    cases Decimal.writeText round with
    | error e => exact ⟨e, rfl⟩
    | ok text => exact ⟨_, rfl⟩
  obtain ⟨e, hmissed⟩ := hmissed
  rcases forRound_same h round with ⟨hv, hw⟩ | ⟨⟨r, top⟩, ⟨r', top'⟩, hv, hw, hab⟩
  · rw [hv, hw]
    exact Or.inr ⟨e, hmissed, hmissed⟩
  · have hperm : top.Perm top' := hab.2
    rw [hv, hw]
    cases top with
    | nil =>
      rw [← hperm.nil_eq]
      exact Or.inr ⟨e, hmissed, hmissed⟩
    | cons d rest =>
      cases top' with
      | nil => exact absurd hperm.length_eq (by simp)
      | cons d' rest' => exact Or.inl ⟨d :: rest, d' :: rest', rfl, rfl, hperm⟩

-- ---------------------------------------------------------------------------
-- Initial validators
-- ---------------------------------------------------------------------------

/-- The addresses of the banned delegates. -/
def bannedAddresses (accounts : List Account) : List Octets :=
  (accounts.filter fun a => a.dpos.delegate.isBanned).map Account.address

/-- The recorded delegates that are not banned. -/
def eligible (accounts : List Account) (top : List DelegateWeight) : List Octets :=
  (top.map DelegateWeight.address).filter fun a => !(bannedAddresses accounts).contains a

theorem initialValidators_eq_eligible (accounts : List Account) (top : List DelegateWeight)
    (max : Int) :
    initialValidators accounts top max =
      takeFirst max ((eligible accounts top).mergeSort Octets.le) := rfl

theorem bannedAddresses_perm (h : SameAccounts xs ys) :
    (bannedAddresses xs).Perm (bannedAddresses ys) := by
  have hform : ∀ zs : List Account, bannedAddresses (zs.map ordered) = bannedAddresses zs := by
    intro zs
    rw [bannedAddresses, List.filter_map, List.map_map]
    rfl
  rw [← hform xs, ← hform ys]
  exact ((perm_map_ordered h).filter _).map _

/-- The initial validators depend on the accounts' forms and on the recorded delegates up to their
order only. -/
theorem initialValidators_eq (h : SameAccounts xs ys) {top top' : List DelegateWeight}
    (htop : top.Perm top') (max : Int) :
    initialValidators xs top max = initialValidators ys top' max := by
  have heligible : (eligible xs top).Perm (eligible ys top') := by
    have htest : (fun a => !(bannedAddresses xs).contains a) =
        fun a => !(bannedAddresses ys).contains a :=
      funext fun a => by rw [(bannedAddresses_perm h).contains_eq]
    rw [eligible, eligible, htest]
    exact (htop.map _).filter _
  rw [initialValidators_eq_eligible, initialValidators_eq_eligible,
    Order.mergeSort_eq_of_perm Octets.le_trans Octets.le_total heligible
      fun _ _ _ _ hab hba => Octets.le_antisymm hab hba]

theorem genesisData_eq (h : SameAccounts xs ys) (hrounds : SameRounds v w) (height : Int) :
    genesisData xs v height n = genesisData ys w height n := by
  refine Outcome.bind_congr fun r _ => ?_
  dsimp only
  rcases topDelegates_same hrounds (r - 2) with ⟨top, top', htop, htop', hperm⟩ | ⟨e, he, he'⟩
  · rw [htop, htop', Outcome.ok_bind, Outcome.ok_bind, initialValidators_eq h hperm]
  · rw [he, he', Outcome.error_bind, Outcome.error_bind]

-- ---------------------------------------------------------------------------
-- The asset
-- ---------------------------------------------------------------------------

/-- The proof-of-stake asset depends on the forms of the accounts, and on the rounds up to their
order, only. -/
theorem asset_eq_of_same (keys : KeyTexts) (height : Int) (n : Network)
    (h : SameAccounts xs ys) (hrounds : SameRounds v w) :
    asset xs keys v height n = asset ys keys w height n := by
  have hvalidators : validators xs keys height n = validators ys keys height n :=
    mapM_byAddress_eq (fun _ => rfl) (fun _ => rfl) h
  have hstakers : stakers xs n = stakers ys n :=
    mapM_byAddress_eq (staker_ordered n) isStaker_ordered h
  rw [asset, asset, hvalidators, hstakers, genesisData_eq h hrounds]

end Regenesis.Genesis.Stake

import Mathlib
import Regenesis.Genesis.Stake
import Regenesis.Proofs.Token.Balances

/-!
# Proofs.Stake.Stakers — the votes of an account, printed

Every account with votes becomes one staker, whose printed stakes and unlocks add up to what the
account has locked. An account without votes has nothing locked.
-/

namespace Regenesis.Genesis

open Record

theorem byAddress_perm (accounts : List Account) : (byAddress accounts).Perm accounts :=
  List.mergeSort_perm _ _

namespace Stake

/-- The amounts of a staker: of the stakes, and of what is being unlocked. -/
def Staker.amounts (s : Staker) : List String :=
  s.stakes.map StakeEntry.amount ++ s.pendingUnlocks.map PendingUnlock.amount

theorem sortVotes_perm (votes : List SentVote) : (sortVotes votes).Perm votes :=
  List.mergeSort_perm _ _

/-- An account without votes and unlocks has nothing locked. -/
theorem lockedAmount_of_not_isStaker {a : Account} (h : ¬ a.isStaker = true) :
    a.lockedAmount = 0 := by
  rw [Account.isStaker, Bool.or_eq_true, Bool.not_eq_true', Bool.not_eq_true', not_or,
    Bool.not_eq_false, Bool.not_eq_false, List.isEmpty_iff, List.isEmpty_iff] at h
  rw [Account.lockedAmount, h.1, h.2]
  rfl

/-- No vote of an account is greater than all it has locked. -/
theorem amount_le_lockedAmount (a : Account) :
    (∀ v ∈ a.dpos.sentVotes, v.amount ≤ a.lockedAmount) ∧
      ∀ u ∈ a.dpos.unlocking, u.amount ≤ a.lockedAmount := by
  rw [Account.lockedAmount]
  refine ⟨fun v hv => ?_, fun u hu => ?_⟩
  · exact le_add_right (Amount.le_sum_of_mem (List.mem_map_of_mem hv))
  · exact le_add_left (Amount.le_sum_of_mem (List.mem_map_of_mem hu))

/-- Whether a staker is that of an account: under its text, with what it has locked. -/
def IsStakerOf (label : String) (a : Account) (s : Staker) : Prop :=
  Address.toText label a.address = .ok s.address ∧
    Token.sumTexts s.amounts = .ok a.lockedAmount

variable {n : Network}

/-- A stake is a vote whose delegate and amount can be written. -/
theorem stake_eq_ok {v : SentVote} {e : StakeEntry} :
    stake n v = .ok e ↔ ∃ text amount, Address.toText n.addressLabel v.delegateAddress = .ok text ∧
      Decimal.writeText v.amount = .ok amount ∧ e = ⟨text, amount, n.tokenId⟩ := by
  simp only [stake, Outcome.bind_eq_ok, Outcome.pure_eq_ok, exists_and_left]

/-- A pending unlock is an unlock whose delegate and amount can be written. -/
theorem pendingUnlock_eq_ok {u : UnlockingEntry} {e : PendingUnlock} :
    pendingUnlock n u = .ok e ↔
      ∃ text amount, Address.toText n.addressLabel u.delegateAddress = .ok text ∧
        Decimal.writeText u.amount = .ok amount ∧ e = ⟨text, amount, u.unvoteHeight⟩ := by
  simp only [pendingUnlock, Outcome.bind_eq_ok, Outcome.pure_eq_ok, exists_and_left]

/-- A staker is made of the text of the address, the stakes in order, and the unlocks. -/
theorem staker_eq_ok {a : Account} {s : Staker} :
    staker n a = .ok s ↔ Address.toText n.addressLabel a.address = .ok s.address ∧
      (sortVotes a.dpos.sentVotes).mapM (stake n) = .ok s.stakes ∧
      a.dpos.unlocking.mapM (pendingUnlock n) = .ok s.pendingUnlocks := by
  constructor
  · intro h
    obtain ⟨address, haddress, h⟩ := Outcome.bind_eq_ok.1 h
    obtain ⟨stakes, hstakes, h⟩ := Outcome.bind_eq_ok.1 h
    obtain ⟨unlocks, hunlocks, h⟩ := Outcome.bind_eq_ok.1 h
    rw [← Except.ok.inj h]
    exact ⟨haddress, hstakes, hunlocks⟩
  · rintro ⟨haddress, hstakes, hunlocks⟩
    refine Outcome.bind_eq_ok.2 ⟨_, haddress, Outcome.bind_eq_ok.2 ⟨_, hstakes, ?_⟩⟩
    exact Outcome.bind_eq_ok.2 ⟨_, hunlocks, rfl⟩

/-- What is made of an account is its staker. -/
theorem isStakerOf_of_staker {a : Account} {s : Staker} (h : staker n a = .ok s) :
    IsStakerOf n.addressLabel a s := by
  obtain ⟨haddress, hstakes, hunlocks⟩ := staker_eq_ok.1 h
  refine ⟨haddress, ?_⟩
  have hsent : Token.sumTexts (s.stakes.map StakeEntry.amount) = .ok (Amount.sumInt
      ((sortVotes a.dpos.sentVotes).map fun v => (v.amount : Int))) := by
    refine Token.sumTexts_of_writeText hstakes fun v e hv => ?_
    obtain ⟨_, _, -, hamount, rfl⟩ := stake_eq_ok.1 hv
    exact hamount
  have hback : Token.sumTexts (s.pendingUnlocks.map PendingUnlock.amount) = .ok (Amount.sumInt
      (a.dpos.unlocking.map fun u => (u.amount : Int))) := by
    refine Token.sumTexts_of_writeText hunlocks fun u e hu => ?_
    obtain ⟨_, _, -, hamount, rfl⟩ := pendingUnlock_eq_ok.1 hu
    exact hamount
  -- the votes were sorted before they were printed, which leaves their sum
  rw [Amount.sumInt_eq_of_perm ((sortVotes_perm _).map _),
    Amount.sumInt_map_natCast SentVote.amount] at hsent
  rw [Amount.sumInt_map_natCast UnlockingEntry.amount] at hback
  rw [Staker.amounts, Account.lockedAmount, Nat.cast_add]
  exact Token.sumTexts_append hsent hback

/-- **Entries of the stakers.** There is one staker for every account with votes, under its text and
with what it has locked. -/
theorem stakers_of_ok {accounts : List Account} {ss : List Staker}
    (h : stakers accounts n = .ok ss) :
    ∃ voters : List Account, voters.Perm (accounts.filter Account.isStaker) ∧
      List.Forall₂ (IsStakerOf n.addressLabel) voters ss :=
  ⟨byAddress (accounts.filter Account.isStaker), byAddress_perm _,
    Outcome.forall₂_of_mapM h fun _ _ _ => isStakerOf_of_staker⟩

end Stake

end Regenesis.Genesis

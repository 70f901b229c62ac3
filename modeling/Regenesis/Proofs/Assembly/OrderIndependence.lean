import Mathlib
import Regenesis.Genesis.Block
import Regenesis.Proofs.Assembly.Success
import Regenesis.Proofs.Stake.Reordering
import Regenesis.Proofs.Token.Reordering

/-!
# Proofs.Assembly.OrderIndependence — the genesis block does not depend on the order of records

A store hands out accounts, keys, votes, rounds and delegates in some order. `assemble_eq_of_same`
says that none of them counts: snapshots that differ in these orders only become the same assets, or
fail for the same reason, and so have the same genesis block.
-/

namespace Regenesis.Genesis

open Record

/-- Whether snapshots are the same up to the order of accounts, of the keys and votes of an account,
of recorded rounds, and of the delegates of a round. Balances of old addresses keep their order. -/
structure SameSnapshot (s t : Snapshot) : Prop where
  height : s.height = t.height
  previousHeight : s.previousHeight = t.previousHeight
  block : s.block = t.block
  legacyAccounts : s.legacyAccounts = t.legacyAccounts
  accounts : SameAccounts s.accounts t.accounts
  rounds : Stake.SameRounds s.voteWeights t.voteWeights

/-- **Order independence.** Snapshots that differ in the order of their records only have the same
outcome: the same assets or the same failure, whatever the keys and the network, and with the same
assets the same asset root and the same block, whatever the hash function. -/
theorem assemble_eq_of_same {s t : Snapshot} (h : SameSnapshot s t) (keys : Stake.KeyTexts)
    (n : Network) :
    assemble s keys n = assemble t keys n ∧
      ∀ (hash : Octets → Octets) (block : BlockHeader) (assets assets' : List Asset),
        assemble s keys n = .ok assets → assemble t keys n = .ok assets' →
        assetRoot hash assets = assetRoot hash assets' ∧
          blockAfter hash assets block n = blockAfter hash assets' block n := by
  have hassemble : assemble s keys n = assemble t keys n := by
    rw [assemble, assemble, h.legacyAccounts, h.height, Token.asset_eq_of_same _ n h.accounts,
      authAsset_eq n h.accounts, Stake.asset_eq_of_same keys _ n h.accounts h.rounds]
  refine ⟨hassemble, fun hash block assets assets' hs ht => ?_⟩
  have hassets : assets = assets' := Except.ok.inj (hs.symm.trans (hassemble.trans ht))
  rw [hassets]
  exact ⟨rfl, rfl⟩

/-- An account with given keys and votes. -/
def member (address : Octets) (keys : List Octets) (votes : List SentVote) : Account :=
  ⟨address, ⟨10⟩, ⟨0⟩, ⟨keys, [], 2⟩, ⟨.none, votes, []⟩⟩

/-- A snapshot of an account with keys and votes and of the reserve. -/
def forwards : Snapshot :=
  { twoVoters with
    accounts := [Token.voter (Token.repeated 7) 4 2,
      member (Token.repeated 1) [[1], [2]] [⟨Token.repeated 3, 5⟩, ⟨Token.repeated 4, 6⟩]]
    voteWeights := ⟨[⟨1, [⟨Token.repeated 1, 5⟩, ⟨Token.repeated 7, 6⟩]⟩, ⟨2, []⟩]⟩ }

/-- The same snapshot with everything in the other order. -/
def backwards : Snapshot :=
  { twoVoters with
    accounts := [
      member (Token.repeated 1) [[2], [1]] [⟨Token.repeated 4, 6⟩, ⟨Token.repeated 3, 5⟩],
      Token.voter (Token.repeated 7) 4 2]
    voteWeights := ⟨[⟨2, []⟩, ⟨1, [⟨Token.repeated 7, 6⟩, ⟨Token.repeated 1, 5⟩]⟩]⟩ }

theorem sameSnapshot_backwards : SameSnapshot forwards backwards where
  height := rfl
  previousHeight := rfl
  block := rfl
  legacyAccounts := rfl
  accounts := by
    refine ⟨⟨_, List.Perm.swap _ _ _, List.Forall₂.cons ?_ (List.Forall₂.cons ?_ .nil)⟩, by decide⟩
    · exact ⟨rfl, rfl, rfl, List.Perm.swap _ _ _, List.Perm.refl _, rfl, rfl, List.Perm.swap _ _ _,
        by decide, rfl⟩
    · exact ⟨rfl, rfl, rfl, List.Perm.refl _, List.Perm.refl _, rfl, rfl, List.Perm.refl _,
        by decide, rfl⟩
  rounds := by
    refine ⟨⟨_, List.Perm.swap _ _ _, List.Forall₂.cons ?_ (List.Forall₂.cons ?_ .nil)⟩, by decide⟩
    · exact ⟨rfl, List.Perm.refl _⟩
    · exact ⟨rfl, List.Perm.swap _ _ _⟩

/-- The snapshot is assembled, and the other way round into the same assets. -/
theorem assemble_backwards :
    ∃ assets, assemble forwards [] Token.simpleNetwork = .ok assets ∧
      assemble backwards [] Token.simpleNetwork = .ok assets := by
  have hround : Stake.roundOf forwards.height Token.simpleNetwork.roundLength = .ok 3 := by decide
  have hrecorded : forwards.voteWeights.forRound (3 - 2) =
      some ⟨1, [⟨Token.repeated 1, 5⟩, ⟨Token.repeated 7, 6⟩]⟩ := by decide
  obtain ⟨assets, hassets⟩ := exists_assemble (s := forwards) []
    Token.readText_tokenId_simpleNetwork rfl List.length_replicate (by decide +kernel)
    (by decide) (by decide) (by decide) (by decide) hround (by decide) hrecorded (by decide)
    (by decide)
  obtain ⟨heq, -⟩ := assemble_eq_of_same sameSnapshot_backwards [] Token.simpleNetwork
  exact ⟨assets, hassets, heq ▸ hassets⟩

end Regenesis.Genesis

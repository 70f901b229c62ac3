import Regenesis.Octets

/-!
# Digest.Merkle — one digest for a list of digests

The leaves are digests already. Each level pairs neighbours, joins the two of a pair and hashes
them, until one node is left. At the end of a level of odd length the last node is paired with
itself. An empty tree has the digest of the empty string, and a single leaf is its own root. The
digest is a parameter, so that what holds of the tree holds for any hash function.
-/

namespace Regenesis.Digest

/-- The level above a level of the tree. -/
def pairUp (hash : Octets → Octets) : List Octets → List Octets
  | [] => []
  | [a] => [hash (a ++ a)]
  | a :: b :: rest => hash (a ++ b) :: pairUp hash rest

theorem length_pairUp (hash : Octets → Octets) (level : List Octets) :
    (pairUp hash level).length = (level.length + 1) / 2 := by
  fun_induction pairUp hash level with
  | case1 => rfl
  | case2 a => simp
  | case3 a b rest ih => simp only [List.length_cons, ih]; omega

/-- The root of the tree over some leaves. -/
def merkleRoot (hash : Octets → Octets) : List Octets → Octets
  | [] => hash []
  | [a] => a
  | a :: b :: rest => merkleRoot hash (pairUp hash (a :: b :: rest))
termination_by level => level.length
decreasing_by simp only [length_pairUp, List.length_cons]; omega

end Regenesis.Digest

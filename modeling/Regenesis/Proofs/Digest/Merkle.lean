import Mathlib
import Regenesis.Digest.Merkle

/-!
# Proofs.Digest.Merkle — a root commits to its leaves

Nothing is assumed of the hash function but the width of its digests. Two lists of leaves that have
one root are then the same, or two of the byte strings that were hashed on the way to the roots
collide. `treeInputs` lists these byte strings: on every level the joined pairs of nodes. Together:
`eq_or_collides_of_merkleRoot_eq`.
-/

namespace Regenesis.Digest

-- ---------------------------------------------------------------------------
-- Collisions
-- ---------------------------------------------------------------------------

/-- Whether two different ones of some byte strings have the same digest. -/
def Collides (hash : Octets → Octets) (inputs : List Octets) : Prop :=
  ∃ x ∈ inputs, ∃ y ∈ inputs, x ≠ y ∧ hash x = hash y

section
variable {hash : Octets → Octets}

/-- A collision among byte strings is one among more of them. -/
theorem Collides.mono {inputs inputs' : List Octets} (h : Collides hash inputs)
    (hsubset : inputs ⊆ inputs') : Collides hash inputs' := by
  obtain ⟨x, hx, y, hy, hne, heq⟩ := h
  exact ⟨x, hsubset hx, y, hsubset hy, hne, heq⟩

/-- A collision in one of two parts of two computations is a collision in the computations. -/
theorem collides_append {xs xs' ys ys' : List Octets}
    (h : Collides hash (xs ++ xs') ∨ Collides hash (ys ++ ys')) :
    Collides hash ((xs ++ ys) ++ (xs' ++ ys')) := by
  rcases h with h | h
  all_goals
    refine h.mono fun z hz => ?_
    simp only [List.mem_append] at hz ⊢
    tauto

/-- Two byte strings of one digest are the same, or collide. -/
theorem eq_or_collides {x y : Octets} (h : hash x = hash y) :
    x = y ∨ Collides hash ([x] ++ [y]) := by
  by_cases hxy : x = y
  · exact Or.inl hxy
  · exact Or.inr ⟨x, List.mem_cons_self, y, List.mem_cons_of_mem x List.mem_cons_self, hxy, h⟩

/-- Two lists of byte strings with the same digests are the same, or two of their members
collide. -/
theorem eq_or_collides_of_map_eq {xs ys : List Octets} (h : xs.map hash = ys.map hash) :
    xs = ys ∨ Collides hash (xs ++ ys) := by
  induction xs generalizing ys with
  | nil => exact Or.inl (List.map_eq_nil_iff.1 h.symm).symm
  | cons x xs ih =>
    cases ys with
    | nil => exact nomatch h
    | cons y ys =>
      obtain ⟨hhead, htail⟩ := List.cons.inj h
      rcases eq_or_collides hhead with rfl | hcollides
      · rcases ih htail with rfl | hcollides
        · exact Or.inl rfl
        · have hparts : Collides hash ([x] ++ [x]) ∨ Collides hash (xs ++ ys) := Or.inr hcollides
          exact Or.inr (collides_append hparts)
      · exact Or.inr (collides_append (Or.inl hcollides))

end

-- ---------------------------------------------------------------------------
-- Levels
-- ---------------------------------------------------------------------------

/-- The byte strings that are hashed for the level above a level. -/
def pairInputs : List Octets → List Octets
  | [] => []
  | [a] => [a ++ a]
  | a :: b :: rest => (a ++ b) :: pairInputs rest

/-- A level is hashed pair by pair. -/
theorem pairUp_eq_map (hash : Octets → Octets) (level : List Octets) :
    pairUp hash level = (pairInputs level).map hash := by
  fun_induction pairUp hash level with
  | case1 => rfl
  | case2 a => rfl
  | case3 a b rest ih => rw [pairInputs, List.map_cons, ih]

/-- Whether all nodes of a level have the width of a digest. -/
def IsLevel (level : List Octets) : Prop := ∀ a ∈ level, a.length = 32

/-- What is hashed above the leaves has the length of two digests. -/
theorem length_of_mem_pairInputs {level : List Octets} (h : IsLevel level) :
    ∀ x ∈ pairInputs level, x.length = 64 := by
  fun_induction pairInputs level with
  | case1 => exact fun x hx => nomatch hx
  | case2 a =>
    intro x hx
    have ha := h a List.mem_cons_self
    rw [List.mem_singleton.1 hx, List.length_append, ha]
  | case3 a b rest ih =>
    have ha := h a List.mem_cons_self
    have hb := h b (List.mem_cons_of_mem a List.mem_cons_self)
    intro x hx
    rcases List.mem_cons.1 hx with rfl | hx
    · rw [List.length_append, ha, hb]
    · exact ih (fun c hc => h c (List.mem_cons_of_mem a (List.mem_cons_of_mem b hc))) x hx

/-- The joined pairs tell a level, if its length is known. -/
theorem pairInputs_injective {level level' : List Octets} (h : IsLevel level)
    (h' : IsLevel level') (hlength : level.length = level'.length)
    (hpairs : pairInputs level = pairInputs level') : level = level' := by
  fun_induction pairInputs level generalizing level' with
  | case1 => exact (List.eq_nil_of_length_eq_zero hlength.symm).symm
  | case2 a =>
    obtain ⟨b, rfl⟩ := List.length_eq_one_iff.1 hlength.symm
    have hab : a.length = b.length := by
      rw [h a List.mem_cons_self, h' b List.mem_cons_self]
    rw [(List.append_inj (List.cons.inj hpairs).1 hab).1]
  | case3 a b rest ih =>
    match level', hlength with
    | a' :: b' :: rest', hlength =>
      have ha : a.length = a'.length := by
        rw [h a List.mem_cons_self, h' a' List.mem_cons_self]
      obtain ⟨hfirst, hothers⟩ := List.cons.inj hpairs
      obtain ⟨rfl, rfl⟩ := List.append_inj hfirst ha
      have hrest : rest = rest' := by
        refine ih (fun c hc => ?_) (fun c hc => ?_) ?_ hothers
        · exact h c (List.mem_cons_of_mem a (List.mem_cons_of_mem b hc))
        · exact h' c (List.mem_cons_of_mem a (List.mem_cons_of_mem b hc))
        · exact Nat.succ.inj (Nat.succ.inj hlength)
      rw [hrest]

-- ---------------------------------------------------------------------------
-- Trees
-- ---------------------------------------------------------------------------

/-- The byte strings that are hashed on the way from some leaves to their root. -/
def treeInputs (hash : Octets → Octets) : List Octets → List Octets
  | [] => []
  | [_] => []
  | a :: b :: rest =>
    pairInputs (a :: b :: rest) ++ treeInputs hash (pairUp hash (a :: b :: rest))
termination_by level => level.length
decreasing_by simp only [length_pairUp, List.length_cons]; omega

/-- The root of a tree with leaves takes no other digests than those of its inputs. -/
theorem merkleRoot_congr {hash hash' : Octets → Octets} {leaves : List Octets}
    (hne : leaves ≠ []) (h : ∀ x ∈ treeInputs hash leaves, hash x = hash' x) :
    merkleRoot hash leaves = merkleRoot hash' leaves := by
  fun_induction merkleRoot hash leaves with
  | case1 => exact absurd rfl hne
  | case2 a => rw [merkleRoot]
  | case3 a b rest ih =>
    rw [treeInputs] at h
    have hup : pairUp hash (a :: b :: rest) = pairUp hash' (a :: b :: rest) := by
      rw [pairUp_eq_map, pairUp_eq_map]
      exact List.map_congr_left fun x hx => h x (List.mem_append_left _ hx)
    have hnonempty : pairUp hash (a :: b :: rest) ≠ [] := List.cons_ne_nil _ _
    rw [merkleRoot, ← hup]
    exact ih hnonempty fun x hx => h x (List.mem_append_right _ hx)

section
variable {hash : Octets → Octets} (hhash : ∀ x, (hash x).length = 32)
include hhash

/-- The level above one of digests is one of digests. -/
theorem isLevel_pairUp (level : List Octets) : IsLevel (pairUp hash level) := by
  intro a ha
  rw [pairUp_eq_map] at ha
  obtain ⟨x, -, rfl⟩ := List.mem_map.1 ha
  exact hhash x

theorem length_of_mem_treeInputs {leaves : List Octets} (h : IsLevel leaves) :
    ∀ x ∈ treeInputs hash leaves, x.length = 64 := by
  fun_induction treeInputs hash leaves with
  | case1 => exact fun x hx => nomatch hx
  | case2 => exact fun x hx => nomatch hx
  | case3 a b rest ih =>
    intro x hx
    rcases List.mem_append.1 hx with hx | hx
    · exact length_of_mem_pairInputs h x hx
    · exact ih (isLevel_pairUp hhash _) x hx

/-- **Merkle roots.** Two lists of as many leaves that have one root are the same, or two of the
byte strings hashed for the roots collide. -/
theorem eq_or_collides_of_merkleRoot_eq {leaves leaves' : List Octets} (h : IsLevel leaves)
    (h' : IsLevel leaves') (hlength : leaves.length = leaves'.length)
    (hroot : merkleRoot hash leaves = merkleRoot hash leaves') :
    leaves = leaves' ∨ Collides hash (treeInputs hash leaves ++ treeInputs hash leaves') := by
  fun_induction merkleRoot hash leaves generalizing leaves' with
  | case1 => exact Or.inl (List.eq_nil_of_length_eq_zero hlength.symm).symm
  | case2 a =>
    obtain ⟨a', rfl⟩ := List.length_eq_one_iff.1 hlength.symm
    rw [merkleRoot] at hroot
    exact Or.inl (by rw [hroot])
  | case3 a b rest ih =>
    match leaves', hlength with
    | a' :: b' :: rest', hlength =>
      rw [merkleRoot] at hroot
      rw [treeInputs, treeInputs]
      have hup :
          (pairUp hash (a :: b :: rest)).length = (pairUp hash (a' :: b' :: rest')).length := by
        rw [length_pairUp, length_pairUp, hlength]
      -- either the levels above are the same, or there is a collision on one of these
      rcases ih (isLevel_pairUp hhash _) (isLevel_pairUp hhash _) hup hroot with habove | hcollides
      · rw [pairUp_eq_map, pairUp_eq_map] at habove
        rcases eq_or_collides_of_map_eq habove with hpairs | hcollides
        · exact Or.inl (pairInputs_injective h h' hlength hpairs)
        · exact Or.inr (collides_append (Or.inl hcollides))
      · exact Or.inr (collides_append (Or.inr hcollides))

end

end Regenesis.Digest

import Mathlib

/-!
# Proofs.Pairing — lists that correspond item by item

What holds of corresponding items carries over from one list to the other: every item has its
partner, partners are as distinct as the items, and searches find partners. An item is found by its
key whatever the order, as long as no key occurs twice.
-/

namespace Regenesis.Pairing

variable {α β : Type} {R : α → β → Prop}

/-- Every item of the first list has a partner. -/
theorem exists_right {xs : List α} {ys : List β} (h : List.Forall₂ R xs ys) {x : α}
    (hx : x ∈ xs) : ∃ y ∈ ys, R x y := by
  induction h with
  | nil => simp at hx
  | cons hxy _ ih =>
    rcases List.mem_cons.1 hx with rfl | hx
    · exact ⟨_, List.mem_cons_self, hxy⟩
    · obtain ⟨y, hy, hR⟩ := ih hx
      exact ⟨y, List.mem_cons_of_mem _ hy, hR⟩

/-- Every item of the second list is the partner of one. -/
theorem exists_left {xs : List α} {ys : List β} (h : List.Forall₂ R xs ys) {y : β}
    (hy : y ∈ ys) : ∃ x ∈ xs, R x y :=
  exists_right h.flip hy

/-- The partners of distinct items are distinct, if no two items share a partner. -/
theorem nodup_right (hR : ∀ x x' y, R x y → R x' y → x = x') {xs : List α} {ys : List β}
    (h : List.Forall₂ R xs ys) (hnodup : xs.Nodup) : ys.Nodup := by
  induction h with
  | nil => exact List.nodup_nil
  | @cons x y xs ys hxy htail ih =>
    obtain ⟨hx, hxs⟩ := List.nodup_cons.1 hnodup
    refine List.nodup_cons.2 ⟨fun hy => ?_, ih hxs⟩
    obtain ⟨x', hx', hx'y⟩ := exists_left htail hy
    exact hx (hR x x' y hxy hx'y ▸ hx')

/-- Only one item has the key of an item, if no key occurs twice. -/
theorem filter_key_eq [DecidableEq β] {f : α → β} {xs : List α} (hnodup : (xs.map f).Nodup)
    {x : α} (hx : x ∈ xs) : (xs.filter fun y => f y == f x) = [x] := by
  induction xs with
  | nil => simp at hx
  | cons z rest ih =>
    rw [List.map_cons, List.nodup_cons] at hnodup
    obtain ⟨hz, hrest⟩ := hnodup
    rcases List.mem_cons.1 hx with rfl | hx
    · have hnone : (rest.filter fun y => f y == f x) = [] := by
        refine List.filter_eq_nil_iff.2 fun y hy hyx => ?_
        exact hz (beq_iff_eq.1 hyx ▸ List.mem_map_of_mem hy)
      rw [List.filter_cons, beq_self_eq_true, if_pos rfl, hnone]
    · have hne : ¬ (f z == f x) = true := by
        intro hzx
        exact hz (beq_iff_eq.1 hzx ▸ List.mem_map_of_mem hx)
      rw [List.filter_cons, if_neg hne, ih hrest hx]

/-- The first item of a key is the same in any order, if no key occurs twice. -/
theorem find?_key_eq_of_perm [DecidableEq β] {f : α → β} {xs ys : List α} (h : xs.Perm ys)
    (hnodup : (xs.map f).Nodup) (k : β) :
    (xs.find? fun x => f x == k) = ys.find? fun x => f x == k := by
  by_cases hk : ∃ x ∈ xs, f x = k
  · obtain ⟨x, hx, rfl⟩ := hk
    rw [← List.head?_filter, ← List.head?_filter, filter_key_eq hnodup hx,
      filter_key_eq ((h.map f).nodup_iff.1 hnodup) (h.mem_iff.1 hx)]
  · have hnone : ∀ zs : List α, (∀ z ∈ zs, z ∈ xs) → (zs.find? fun x => f x == k) = none := by
      intro zs hzs
      refine List.find?_eq_none.2 fun z hz hzk => hk ?_
      exact ⟨z, hzs z hz, beq_iff_eq.1 hzk⟩
    rw [hnone xs fun _ hz => hz, hnone ys fun _ hz => h.mem_iff.2 hz]

/-- The first items that pass corresponding tests correspond. -/
theorem find?_rel {p : α → Bool} {q : β → Bool} (hpq : ∀ x y, R x y → p x = q y) {xs : List α}
    {ys : List β} (h : List.Forall₂ R xs ys) : Option.Rel R (xs.find? p) (ys.find? q) := by
  induction h with
  | nil => exact Option.Rel.none
  | @cons x y xs ys hxy _ ih =>
    rw [List.find?_cons, List.find?_cons, ← hpq x y hxy]
    cases p x with
    | true => exact Option.Rel.some hxy
    | false => exact ih

end Regenesis.Pairing

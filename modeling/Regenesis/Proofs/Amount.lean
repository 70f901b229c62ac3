import Mathlib
import Regenesis.Amount

/-!
# Proofs.Amount — sums do not depend on the order

The two sums are the sums of lists, so they are the same for lists with the same items, they can be
taken group by group, and no amount that is part of a sum is greater than the sum.
-/

namespace Regenesis.Amount

variable {α : Type}

theorem sum_eq_sum (xs : List Nat) : sum xs = xs.sum := by
  induction xs with
  | nil => rfl
  | cons n rest ih => rw [sum, ih, List.sum_cons]

theorem sumInt_eq_sum (xs : List Int) : sumInt xs = xs.sum := by
  induction xs with
  | nil => rfl
  | cons n rest ih => rw [sumInt, ih, List.sum_cons]

theorem sum_eq_of_perm {xs ys : List Nat} (h : xs.Perm ys) : sum xs = sum ys := by
  rw [sum_eq_sum, sum_eq_sum, h.sum_eq]

theorem sumInt_eq_of_perm {xs ys : List Int} (h : xs.Perm ys) : sumInt xs = sumInt ys := by
  rw [sumInt_eq_sum, sumInt_eq_sum, h.sum_eq]

/-- The sums agree on amounts that cannot be negative. -/
theorem sumInt_map_natCast (f : α → Nat) (xs : List α) :
    sumInt (xs.map fun x => (f x : Int)) = (sum (xs.map f) : Int) := by
  induction xs with
  | nil => rfl
  | cons x rest ih => rw [List.map_cons, List.map_cons, sumInt, sum, ih, Nat.cast_add]

/-- A sum is the sum over the items that pass a test and the sum over those that fail it. -/
theorem sumInt_filter_add (p : α → Bool) (f : α → Int) (xs : List α) :
    sumInt ((xs.filter fun x => !p x).map f) + sumInt ((xs.filter p).map f) =
      sumInt (xs.map f) := by
  have h := (List.filter_append_perm p xs).map f
  rw [List.map_append] at h
  rw [← sumInt_eq_of_perm h, sumInt_append, add_comm]

theorem sumInt_nonneg {xs : List Int} (h : ∀ n ∈ xs, 0 ≤ n) : 0 ≤ sumInt xs := by
  rw [sumInt_eq_sum]
  exact List.sum_nonneg h

theorem le_sumInt_of_mem {xs : List Int} (h : ∀ n ∈ xs, 0 ≤ n) {n : Int} (hn : n ∈ xs) :
    n ≤ sumInt xs := by
  rw [sumInt_eq_sum]
  exact List.single_le_sum h n hn

theorem le_sum_of_mem {xs : List Nat} {n : Nat} (hn : n ∈ xs) : n ≤ sum xs := by
  rw [sum_eq_sum]
  exact List.single_le_sum (fun _ _ => Nat.zero_le _) n hn

end Regenesis.Amount

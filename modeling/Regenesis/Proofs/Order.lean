import Mathlib
import Regenesis.Octets
import Regenesis.Text.Collation

/-!
# Proofs.Order — sorted lists that do not depend on the order before

Byte strings are in a linear order, and so are the keys of the alphabetical order. So a list that is
sorted by a key depends on nothing but its items, as long as items with one key are equal. Where one
item may tie with others, it is enough that it comes last before: sorting is stable.
-/

namespace Regenesis

-- ---------------------------------------------------------------------------
-- The order of byte strings
-- ---------------------------------------------------------------------------

namespace Octets

theorem le_iff {a b : Octets} : a.le b = true ↔ a ≤ b := by
  rw [le, decide_eq_true_eq]

theorem le_trans (a b c : Octets) (hab : a.le b = true) (hbc : b.le c = true) :
    a.le c = true :=
  le_iff.2 (List.le_trans (le_iff.1 hab) (le_iff.1 hbc))

theorem le_total (a b : Octets) : (a.le b || b.le a) = true := by
  rw [Bool.or_eq_true, le_iff, le_iff]
  exact List.le_total a b

theorem le_antisymm {a b : Octets} (hab : a.le b = true) (hba : b.le a = true) : a = b :=
  List.le_antisymm (le_iff.1 hab) (le_iff.1 hba)

end Octets

-- ---------------------------------------------------------------------------
-- Alphabetical order
-- ---------------------------------------------------------------------------

namespace Text

/-- Collation keys are in a transitive order. -/
theorem keyLe_trans (a b c : List Nat) (hab : keyLe a b = true) (hbc : keyLe b c = true) :
    keyLe a c = true := by
  induction a generalizing b c with
  | nil => rw [keyLe]
  | cons x xs ih =>
    cases b with
    | nil => simp [keyLe] at hab
    | cons y ys =>
      cases c with
      | nil => simp [keyLe] at hbc
      | cons z zs =>
        simp only [keyLe, Bool.or_eq_true, Bool.and_eq_true, decide_eq_true_eq, beq_iff_eq]
          at hab hbc ⊢
        rcases hab with hxy | ⟨rfl, hab⟩
        · rcases hbc with hyz | ⟨rfl, -⟩
          · exact Or.inl (hxy.trans hyz)
          · exact Or.inl hxy
        · rcases hbc with hyz | ⟨rfl, hbc⟩
          · exact Or.inl hyz
          · exact Or.inr ⟨rfl, ih ys zs hab hbc⟩

/-- Of two collation keys, one is not behind the other. -/
theorem keyLe_total (a b : List Nat) : (keyLe a b || keyLe b a) = true := by
  induction a generalizing b with
  | nil => simp [keyLe]
  | cons x xs ih =>
    cases b with
    | nil => simp [keyLe]
    | cons y ys =>
      have h := ih ys
      simp only [keyLe, Bool.or_eq_true, Bool.and_eq_true, decide_eq_true_eq, beq_iff_eq] at h ⊢
      rcases lt_trichotomy x y with hxy | rfl | hyx
      · exact Or.inl (Or.inl hxy)
      · rcases h with h | h
        · exact Or.inl (Or.inr ⟨rfl, h⟩)
        · exact Or.inr (Or.inr ⟨rfl, h⟩)
      · exact Or.inr (Or.inl hyx)

/-- Collation keys that are not behind each other are equal. -/
theorem keyLe_antisymm {a b : List Nat} (hab : keyLe a b = true) (hba : keyLe b a = true) :
    a = b := by
  induction a generalizing b with
  | nil =>
    cases b with
    | nil => rfl
    | cons y ys => simp [keyLe] at hba
  | cons x xs ih =>
    cases b with
    | nil => simp [keyLe] at hab
    | cons y ys =>
      simp only [keyLe, Bool.or_eq_true, Bool.and_eq_true, decide_eq_true_eq, beq_iff_eq] at hab hba
      rcases hab with hxy | ⟨rfl, hab⟩
      · omega
      · rcases hba with hxx | ⟨-, hba⟩
        · omega
        · rw [ih hab hba]

end Text

namespace Order

-- ---------------------------------------------------------------------------
-- Sorting
-- ---------------------------------------------------------------------------

section
variable {α : Type}

/-- A sorted list depends on its items only, if no two of them tie. -/
theorem mergeSort_eq_of_perm {le : α → α → Bool}
    (htrans : ∀ a b c, le a b = true → le b c = true → le a c = true)
    (htotal : ∀ a b, (le a b || le b a) = true) {xs ys : List α} (h : xs.Perm ys)
    (hanti : ∀ a ∈ xs, ∀ b ∈ xs, le a b = true → le b a = true → a = b) :
    xs.mergeSort le = ys.mergeSort le := by
  have hperm := (List.mergeSort_perm xs le).trans (h.trans (List.mergeSort_perm ys le).symm)
  refine hperm.eq_of_pairwise ?_ (List.pairwise_mergeSort htrans htotal xs)
    (List.pairwise_mergeSort htrans htotal ys)
  intro a b ha hb hab hba
  exact hanti a (List.mem_mergeSort.1 ha) b (h.mem_iff.2 (List.mem_mergeSort.1 hb)) hab hba

end

-- ---------------------------------------------------------------------------
-- Sorting by a key of bytes
-- ---------------------------------------------------------------------------

section
variable {α : Type} (key : α → Octets)

/-- What is sorted by a key of bytes is in the order of the keys. -/
theorem pairwise_mergeSort_key (xs : List α) :
    (xs.mergeSort fun a b => (key a).le (key b)).Pairwise fun a b => (key a).le (key b) = true :=
  List.pairwise_mergeSort (fun a b c => Octets.le_trans (key a) (key b) (key c))
    (fun a b => Octets.le_total (key a) (key b)) xs

/-- A list sorted by a key that tells its items apart depends on its items only. -/
theorem mergeSort_key_eq_of_perm {xs ys : List α} (h : xs.Perm ys)
    (hkey : ∀ a ∈ xs, ∀ b ∈ xs, key a = key b → a = b) :
    (xs.mergeSort fun a b => (key a).le (key b)) = ys.mergeSort fun a b => (key a).le (key b) :=
  mergeSort_eq_of_perm (fun a b c => Octets.le_trans (key a) (key b) (key c))
    (fun a b => Octets.le_total (key a) (key b)) h
    fun a ha b hb hab hba => hkey a ha b hb (Octets.le_antisymm hab hba)

/-- Sorting a sorted list changes nothing. -/
theorem mergeSort_key_idem (xs : List α) :
    ((xs.mergeSort fun a b => (key a).le (key b)).mergeSort fun a b => (key a).le (key b)) =
      xs.mergeSort fun a b => (key a).le (key b) :=
  List.mergeSort_of_pairwise (pairwise_mergeSort_key key xs)

/-- Keys tell the items of a list apart if no key occurs twice. -/
theorem eq_of_key_eq {xs : List α} (h : (xs.map key).Nodup) :
    ∀ a ∈ xs, ∀ b ∈ xs, key a = key b → a = b :=
  fun _ ha _ hb hab => List.inj_on_of_nodup_map h ha hb hab

end

-- ---------------------------------------------------------------------------
-- One item that may tie
-- ---------------------------------------------------------------------------

section
variable {α : Type}

/-- Two items of a list without repetitions come in one order only. -/
theorem eq_of_pair_sublist {xs : List α} (h : xs.Nodup) {a b : α}
    (hab : [a, b].Sublist xs) (hba : [b, a].Sublist xs) : a = b := by
  induction xs with
  | nil => simp at hab
  | cons x rest ih =>
    obtain ⟨hx, hrest⟩ := List.nodup_cons.1 h
    have hmem {c d : α} (hcd : [c, d].Sublist rest) : d ∈ rest := hcd.subset (by simp)
    rcases List.sublist_cons_iff.1 hab with hab' | ⟨r, hr, -⟩
    · rcases List.sublist_cons_iff.1 hba with hba' | ⟨r, hr, -⟩
      · exact ih hrest hab' hba'
      · exact absurd ((List.cons.inj hr).1 ▸ hmem hab') hx
    · obtain ⟨rfl, -⟩ := List.cons.inj hr
      rcases List.sublist_cons_iff.1 hba with hba' | ⟨r, hr, -⟩
      · exact absurd (hmem hba') hx
      · exact (List.cons.inj hr).1.symm

/-- An item behind all others may tie with them: sorting leaves it behind those that it ties with,
in whatever order they were. -/
theorem mergeSort_concat_eq_of_perm {le : α → α → Bool}
    (htrans : ∀ a b c, le a b = true → le b c = true → le a c = true)
    (htotal : ∀ a b, (le a b || le b a) = true) {xs ys : List α} {last : α} (h : xs.Perm ys)
    (hnodup : (xs ++ [last]).Nodup)
    (hanti : ∀ a ∈ xs, ∀ b ∈ xs, le a b = true → le b a = true → a = b) :
    (xs ++ [last]).mergeSort le = (ys ++ [last]).mergeSort le := by
  -- the order of the sorted lists: ties are broken in favour of all items but the last one
  let before (a b : α) : Prop := le a b = true ∧ (le b a = true → a = b ∨ b = last)
  have hsorted : ∀ zs : List α, xs.Perm zs → ((zs ++ [last]).mergeSort le).Pairwise before := by
    intro zs hzs
    have hperm : (zs ++ [last]).Perm (xs ++ [last]) := (hzs.append_right [last]).symm
    have hmem : ∀ {a b : α}, [a, b].Sublist ((zs ++ [last]).mergeSort le) →
        (a ∈ xs ∨ a = last) ∧ (b ∈ xs ∨ b = last) := by
      intro a b hab
      have hin : ∀ c ∈ [a, b], c ∈ xs ∨ c = last := fun c hc => by
        have := hperm.mem_iff.1 (List.mem_mergeSort.1 (hab.subset hc))
        simpa using this
      exact ⟨hin a (by simp), hin b (by simp)⟩
    refine List.pairwise_iff_forall_sublist.2 fun {a b} hab => ?_
    have hle : le a b = true :=
      List.pairwise_iff_forall_sublist.1 (List.pairwise_mergeSort htrans htotal (zs ++ [last])) hab
    refine ⟨hle, fun hge => ?_⟩
    rcases hmem hab with ⟨ha, hb | rfl⟩
    · rcases ha with ha | rfl
      · exact Or.inl (hanti a ha b hb hle hge)
      · -- `b` ties with the last item and stood before it, so it cannot stand behind it now
        have hpair : [b, a].Sublist (zs ++ [a]) :=
          (List.singleton_sublist.2 (hzs.mem_iff.1 hb)).append (List.Sublist.refl [a])
        have hback := List.pair_sublist_mergeSort htrans htotal hge hpair
        have hnd : ((zs ++ [a]).mergeSort le).Nodup :=
          (List.mergeSort_perm _ le).nodup_iff.2 (hperm.nodup_iff.2 hnodup)
        exact Or.inl (eq_of_pair_sublist hnd hab hback)
    · exact Or.inr rfl
  have hperm : ((xs ++ [last]).mergeSort le).Perm ((ys ++ [last]).mergeSort le) :=
    (List.mergeSort_perm _ le).trans
      ((h.append_right [last]).trans (List.mergeSort_perm _ le).symm)
  refine hperm.eq_of_pairwise ?_ (hsorted xs (List.Perm.refl xs)) (hsorted ys h)
  rintro a b - - ⟨hab, htie⟩ ⟨hba, htie'⟩
  rcases htie hba with rfl | rfl
  · rfl
  · exact (htie' hab).elim Eq.symm id

end

end Order

end Regenesis

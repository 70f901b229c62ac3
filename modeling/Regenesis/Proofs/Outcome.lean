import Mathlib
import Regenesis.Failure
import Regenesis.Proofs.Pairing

/-!
# Proofs.Outcome — what the outcome of a computation says about its parts

A computation that fails fails with its first part that fails, and one that succeeds succeeded in
every part. For a pass over a list this says that its results are, item by item, the results of the
items; and two passes that do the same to corresponding items have the same outcome. Which failures
a computation can end in is known part by part (`FailsWithin`).
-/

namespace Regenesis.Outcome

variable {ε α β γ : Type}

-- ---------------------------------------------------------------------------
-- One step after another
-- ---------------------------------------------------------------------------

/-- Two steps succeed if the first one does, and the second one with its result. -/
theorem bind_eq_ok {x : Except ε α} {f : α → Except ε β} {b : β} :
    x >>= f = .ok b ↔ ∃ a, x = .ok a ∧ f a = .ok b := by
  cases x with
  | error e => simp [bind, Except.bind]
  | ok a => simp [bind, Except.bind]

theorem ok_bind (a : α) (f : α → Except ε β) : (.ok a : Except ε α) >>= f = f a := rfl

theorem error_bind (e : ε) (f : α → Except ε β) : (.error e : Except ε α) >>= f = .error e := rfl

/-- A mapped result is the image of a result. -/
theorem map_eq_ok {x : Except ε α} {f : α → β} {b : β} :
    x.map f = .ok b ↔ ∃ a, x = .ok a ∧ f a = b := by
  cases x with
  | error e => simp [Except.map]
  | ok a => simp [Except.map]

theorem pure_eq_ok {a b : α} : (pure a : Except ε α) = .ok b ↔ b = a :=
  ⟨fun h => (Except.ok.inj h).symm, fun h => h ▸ rfl⟩

/-- A computation whose last step cannot fail. -/
theorem bind_pure_eq_ok {x : Except ε α} {f : α → β} {b : β} :
    (x >>= fun a => pure (f a)) = .ok b ↔ ∃ a, x = .ok a ∧ b = f a := by
  rw [bind_eq_ok]
  exact exists_congr fun a => and_congr_right fun _ => pure_eq_ok

/-- Only a step that is reached matters. -/
theorem bind_congr {x : Except ε α} {f g : α → Except ε β} (h : ∀ a, x = .ok a → f a = g a) :
    x >>= f = x >>= g := by
  cases x with
  | error e => rfl
  | ok a => exact h a rfl

-- ---------------------------------------------------------------------------
-- A pass over a list
-- ---------------------------------------------------------------------------

/-- A pass over a list succeeds if each of its steps does. -/
theorem mapM_eq_ok {f : α → Except ε β} {xs : List α} {ys : List β} :
    xs.mapM f = .ok ys ↔ List.Forall₂ (fun x y => f x = .ok y) xs ys := by
  induction xs generalizing ys with
  | nil =>
    rw [List.mapM_nil, List.forall₂_nil_left_iff]
    exact ⟨fun h => (Except.ok.inj h).symm, fun h => h ▸ rfl⟩
  | cons x rest ih =>
    rw [List.mapM_cons, bind_eq_ok, List.forall₂_cons_left_iff]
    constructor
    · rintro ⟨y, hy, h⟩
      obtain ⟨zs, hzs, h⟩ := bind_eq_ok.1 h
      exact ⟨y, zs, hy, ih.1 hzs, (Except.ok.inj h).symm⟩
    · rintro ⟨y, zs, hy, hzs, rfl⟩
      exact ⟨y, hy, bind_eq_ok.2 ⟨zs, ih.2 hzs, rfl⟩⟩

/-- Passes that do the same to every item have the same outcome. -/
theorem mapM_congr {f g : α → Except ε β} {xs : List α} (h : ∀ x ∈ xs, f x = g x) :
    xs.mapM f = xs.mapM g := by
  induction xs with
  | nil => rfl
  | cons x rest ih =>
    rw [List.mapM_cons, List.mapM_cons, h x List.mem_cons_self,
      ih fun y hy => h y (List.mem_cons_of_mem x hy)]

/-- A pass in which every item succeeds is a `map`. -/
theorem mapM_eq_map {f : α → Except ε β} {g : α → β} {xs : List α}
    (h : ∀ x ∈ xs, f x = .ok (g x)) : xs.mapM f = .ok (xs.map g) := by
  rw [mapM_eq_ok, List.forall₂_map_right_iff, List.forall₂_same]
  exact h

/-- A pass in which every item succeeds, succeeds. -/
theorem exists_mapM {f : α → Except ε β} {xs : List α} (h : ∀ x ∈ xs, ∃ y, f x = .ok y) :
    ∃ ys, xs.mapM f = .ok ys := by
  induction xs with
  | nil => exact ⟨[], rfl⟩
  | cons x rest ih =>
    obtain ⟨y, hy⟩ := h x List.mem_cons_self
    obtain ⟨ys, hys⟩ := ih fun z hz => h z (List.mem_cons_of_mem _ hz)
    exact ⟨y :: ys, mapM_eq_ok.2 (List.Forall₂.cons hy (mapM_eq_ok.1 hys))⟩

/-- What every item has to do with its result. -/
theorem forall₂_of_mapM {R : α → β → Prop} {f : α → Except ε β} {xs : List α} {ys : List β}
    (h : xs.mapM f = .ok ys) (hR : ∀ x ∈ xs, ∀ y, f x = .ok y → R x y) : List.Forall₂ R xs ys := by
  have hboth := (List.forall₂_and_left xs ys).2 ⟨fun _ hx => hx, mapM_eq_ok.1 h⟩
  exact hboth.imp fun x y hxy => hR x hxy.1 y hxy.2

/-- Every result of a pass is the result of an item. -/
theorem exists_of_mem_mapM {f : α → Except ε β} {xs : List α} {ys : List β}
    (h : xs.mapM f = .ok ys) {y : β} (hy : y ∈ ys) : ∃ x ∈ xs, f x = .ok y :=
  Pairing.exists_left (mapM_eq_ok.1 h) hy

/-- Every item of a pass has its result among the results. -/
theorem exists_of_mem {f : α → Except ε β} {xs : List α} {ys : List β}
    (h : xs.mapM f = .ok ys) {x : α} (hx : x ∈ xs) : ∃ y ∈ ys, f x = .ok y :=
  Pairing.exists_right (mapM_eq_ok.1 h) hx

-- ---------------------------------------------------------------------------
-- Classes of failures
-- ---------------------------------------------------------------------------

/-- Whether a computation fails, if it does, with a failure of a class. -/
def FailsWithin (P : ε → Prop) (x : Except ε α) : Prop := ∀ e, x = .error e → P e

namespace FailsWithin

variable {P : ε → Prop}

theorem ok (a : α) : FailsWithin P (.ok a : Except ε α) := nofun

theorem error {e : ε} (h : P e) : FailsWithin P (.error e : Except ε α) := by
  intro e' he
  rwa [← Except.error.inj he]

/-- Two steps fail within a property if both do. -/
theorem bind {x : Except ε α} {f : α → Except ε β} (hx : FailsWithin P x)
    (hf : ∀ a, x = .ok a → FailsWithin P (f a)) : FailsWithin P (x >>= f) := by
  cases x with
  | error e => exact error (hx e rfl)
  | ok a => exact hf a rfl

/-- A pass fails with the failure of one of its items. -/
theorem mapM {f : α → Except ε β} {xs : List α} (h : ∀ x ∈ xs, FailsWithin P (f x)) :
    FailsWithin P (xs.mapM f) := by
  induction xs with
  | nil => exact ok []
  | cons x rest ih =>
    have hrest := ih fun y hy => h y (List.mem_cons_of_mem x hy)
    rw [List.mapM_cons]
    exact (h x List.mem_cons_self).bind fun y _ => hrest.bind fun ys _ => ok (y :: ys)

theorem map {x : Except ε α} {f : α → β} (h : FailsWithin P x) : FailsWithin P (x.map f) := by
  cases x with
  | error e => exact error (h e rfl)
  | ok a => exact ok (f a)

/-- What does not succeed, fails. -/
theorem exists_error {x : Except ε α} (h : FailsWithin P x) (hno : ∀ a, x ≠ .ok a) :
    ∃ e, x = .error e ∧ P e := by
  cases x with
  | error e => exact ⟨e, rfl, h e rfl⟩
  | ok a => exact absurd rfl (hno a)

/-- What cannot fail, succeeds. -/
theorem exists_ok {x : Except ε α} (h : FailsWithin (fun _ => False) x) : ∃ a, x = .ok a := by
  cases x with
  | error e => exact (h e rfl).elim
  | ok a => exact ⟨a, rfl⟩

end FailsWithin

end Regenesis.Outcome

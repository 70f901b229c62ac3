/-!
# Table — values by key, in the order of entry

A table is a list of keys with their values. Putting a value under a key that is there already
replaces its value and keeps its place; a new key goes to the end. So a table that is made by
putting has every key once, in the order in which the keys were first put.
-/

namespace Regenesis

/-- Values by key. -/
abbrev Table (κ α : Type) := List (κ × α)

namespace Table

variable {κ α : Type}

/-- The keys of a table, in order. -/
def keys (t : Table κ α) : List κ := t.map (·.1)

theorem keys_cons (key : κ) (value : α) (t : Table κ α) :
    keys ((key, value) :: t) = key :: keys t := rfl

variable [BEq κ]

/-- The value of a key. -/
def get? (t : Table κ α) (key : κ) : Option α := t.lookup key

/-- Sets the value of a key. -/
def put (key : κ) (value : α) : Table κ α → Table κ α
  | [] => [(key, value)]
  | (k, v) :: rest => if k == key then (key, value) :: rest else (k, v) :: put key value rest

/-- Takes a key out. -/
def erase (key : κ) (t : Table κ α) : Table κ α := t.filter fun (k, _) => !(k == key)

/-- The table of entries that are put one after the other. -/
def ofEntries (entries : List (κ × α)) : Table κ α :=
  entries.foldl (fun t (key, value) => put key value t) []

variable [LawfulBEq κ]

theorem get?_put (t : Table κ α) (key k : κ) (value : α) :
    get? (put key value t) k = if k == key then some value else get? t k := by
  induction t with
  | nil => cases h : k == key <;> simp [put, get?, List.lookup_cons, h]
  | cons entry rest ih =>
    obtain ⟨k', v'⟩ := entry
    simp only [get?] at ih ⊢
    cases hk : k' == key with
    | true =>
      obtain rfl := eq_of_beq hk
      cases h : k == k' <;> simp [put, List.lookup_cons, h]
    | false =>
      cases h : k == k' with
      | true =>
        obtain rfl := eq_of_beq h
        simp [put, hk]
      | false => simp [put, List.lookup_cons, hk, h, ih]

theorem keys_put (t : Table κ α) (key : κ) (value : α) :
    keys (put key value t) = if (keys t).contains key then keys t else keys t ++ [key] := by
  induction t with
  | nil => simp [put, keys]
  | cons entry rest ih =>
    obtain ⟨k', v'⟩ := entry
    cases hk : k' == key with
    | true =>
      obtain rfl := eq_of_beq hk
      simp [put, keys_cons]
    | false =>
      have hk' : (key == k') = false := by rw [BEq.comm, hk]
      simp only [put, hk, Bool.false_eq_true, if_false, keys_cons, ih, List.contains_cons, hk',
        Bool.false_or]
      cases (keys rest).contains key <;> simp

theorem get?_erase (t : Table κ α) (key k : κ) :
    get? (erase key t) k = if k == key then none else get? t k := by
  induction t with
  | nil => cases h : k == key <;> simp [erase, get?]
  | cons entry rest ih =>
    obtain ⟨k', v'⟩ := entry
    simp only [get?, erase] at ih ⊢
    cases hk : k' == key with
    | true =>
      obtain rfl := eq_of_beq hk
      rw [List.filter_cons_of_neg (by simp), ih]
      cases h : k == k' <;> simp [List.lookup_cons, h]
    | false =>
      rw [List.filter_cons_of_pos (by simp [hk]), List.lookup_cons, List.lookup_cons, ih]
      cases h : k == k' with
      | true =>
        obtain rfl := eq_of_beq h
        simp [hk]
      | false => simp

end Table

end Regenesis

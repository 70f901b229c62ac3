import Regenesis.Octets

/-!
# Store — a map ordered by its keys

The node's data is a map from byte strings to byte strings. It is kept as the list of its rows in
strictly ascending order of their keys, so that every key occurs once and a range of keys is a
stretch of the list. Putting a row replaces the row of the same key.
-/

namespace Regenesis

/-- A key with its value. -/
abbrev Row := Octets × Octets

/-- Puts a row into rows in ascending order, in the place of the row of its key. -/
def insertRow (r : Row) : List Row → List Row
  | [] => [r]
  | r' :: rest =>
    if r.1 < r'.1 then r :: r' :: rest
    else if r.1 = r'.1 then r :: rest
    else r' :: insertRow r rest

theorem mem_insertRow {r x : Row} {rows : List Row} (h : x ∈ insertRow r rows) :
    x = r ∨ x ∈ rows := by
  induction rows with
  | nil => simpa [insertRow] using h
  | cons r' rest ih =>
    simp only [insertRow] at h
    split at h
    · simpa using h
    · split at h
      · rcases List.mem_cons.1 h with rfl | h
        · exact .inl rfl
        · exact .inr (List.mem_cons_of_mem _ h)
      · rcases List.mem_cons.1 h with rfl | h
        · exact .inr List.mem_cons_self
        · exact (ih h).imp_right (List.mem_cons_of_mem _)

theorem lookup_insertRow (r : Row) (rows : List Row) (key : Octets) :
    (insertRow r rows).lookup key = if key == r.1 then some r.2 else rows.lookup key := by
  obtain ⟨k, v⟩ := r
  induction rows with
  | nil => cases h : key == k <;> simp [insertRow, List.lookup_cons, h]
  | cons r' rest ih =>
    obtain ⟨k', v'⟩ := r'
    simp only [insertRow] at ih ⊢
    split
    · cases h : key == k <;> simp [List.lookup_cons, h]
    · split
      next heq =>
        obtain rfl : k = k' := heq
        cases h : key == k <;> simp [List.lookup_cons, h]
      next hne =>
        cases h' : key == k' with
        | true =>
          obtain rfl := eq_of_beq h'
          have h : (key == k) = false := beq_false_of_ne (Ne.symm hne)
          simp [h]
        | false => simpa [List.lookup_cons, h'] using ih

/-- Keys in strictly ascending order. -/
def Ascending (rows : List Row) : Prop := rows.Pairwise fun a b => a.1 < b.1

theorem ascending_insertRow {r : Row} {rows : List Row} (h : Ascending rows) :
    Ascending (insertRow r rows) := by
  induction rows with
  | nil => simp [insertRow, Ascending]
  | cons r' rest ih =>
    obtain ⟨hr', hrest⟩ := List.pairwise_cons.1 h
    simp only [insertRow]
    split
    next hlt =>
      refine List.pairwise_cons.2 ⟨fun x hx => ?_, h⟩
      rcases List.mem_cons.1 hx with rfl | hx
      · exact hlt
      · exact List.lt_trans hlt (hr' x hx)
    next hlt =>
      split
      next heq => exact List.pairwise_cons.2 ⟨fun x hx => heq ▸ hr' x hx, hrest⟩
      next hne =>
        refine List.pairwise_cons.2 ⟨fun x hx => ?_, ih hrest⟩
        rcases mem_insertRow hx with rfl | hx
        · exact Std.lt_of_le_of_ne hlt (Ne.symm hne)
        · exact hr' x hx

/-- A map from keys to values, as its rows in ascending order. -/
structure Store where
  rows : List Row
  ascending : Ascending rows

namespace Store

/-- The store without rows. -/
def empty : Store := ⟨[], List.Pairwise.nil⟩

/-- Sets the value of a key. -/
def put (s : Store) (r : Row) : Store := ⟨insertRow r s.rows, ascending_insertRow s.ascending⟩

/-- Sets the values of keys, one after the other. -/
def putAll (s : Store) (rows : List Row) : Store := rows.foldl put s

/-- The value of a key. -/
def get? (s : Store) (key : Octets) : Option Octets := s.rows.lookup key

/-- The rows whose keys satisfy a lower bound and are not above `high`, in ascending order. -/
def range (s : Store) (above : Octets → Bool) (high : Octets) : List Row :=
  s.rows.filter fun r => above r.1 && r.1.le high

theorem get?_empty (key : Octets) : empty.get? key = none := rfl

theorem get?_put (s : Store) (r : Row) (key : Octets) :
    (s.put r).get? key = if key == r.1 then some r.2 else s.get? key :=
  lookup_insertRow r s.rows key

end Store

end Regenesis

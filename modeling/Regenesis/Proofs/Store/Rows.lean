import Mathlib
import Regenesis.Store.Database
import Regenesis.Proofs.Order
import Regenesis.Proofs.Table

/-!
# Proofs.Store.Rows — what a store holds

A store holds a row if and only if the row's key leads to its value, and the rows of a range are
those whose keys satisfy the bounds. Of rows that are put one after the other, the last one of a key
counts. Since rows are in ascending order of their keys, two lists of rows with the same members are
the same list.
-/

namespace Regenesis

-- ---------------------------------------------------------------------------
-- Ascending rows
-- ---------------------------------------------------------------------------

namespace Ascending

/-- Rows in ascending order have distinct keys. -/
theorem nodup_keys {rows : List Row} (h : Ascending rows) : (rows.map (·.1)).Nodup := by
  refine List.pairwise_map.2 (h.imp ?_)
  intro r r' hlt heq
  exact List.lt_irrefl _ (heq ▸ hlt)

theorem nodup {rows : List Row} (h : Ascending rows) : rows.Nodup :=
  h.nodup_keys.of_map _

/-- Ascending rows are known by their members. -/
theorem eq_of_mem_iff {rows rows' : List Row} (h : Ascending rows) (h' : Ascending rows')
    (hmem : ∀ r, r ∈ rows ↔ r ∈ rows') : rows = rows' := by
  have hperm : rows.Perm rows' := (List.perm_ext_iff_of_nodup h.nodup h'.nodup).2 hmem
  refine hperm.eq_of_pairwise ?_ h h'
  intro a b _ _ hab hba
  exact absurd (List.lt_trans hab hba) (List.lt_irrefl _)

/-- A row is what its key leads to. -/
theorem mem_iff {rows : List Row} (h : Ascending rows) {r : Row} :
    r ∈ rows ↔ rows.lookup r.1 = some r.2 :=
  (Table.get?_eq_some_iff h.nodup_keys).symm

end Ascending

namespace Store

variable {s : Store} {r : Row} {key : Octets}

/-- The rows of a store are what is found under their keys. -/
theorem mem_rows_iff : r ∈ s.rows ↔ s.get? r.1 = some r.2 := s.ascending.mem_iff

-- ---------------------------------------------------------------------------
-- Ranges
-- ---------------------------------------------------------------------------

/-- A range has the rows of the store that are above and within its bounds. -/
theorem mem_range {above : Octets → Bool} {high : Octets} :
    r ∈ s.range above high ↔ r ∈ s.rows ∧ above r.1 = true ∧ r.1 ≤ high := by
  rw [range, List.mem_filter, Bool.and_eq_true, Octets.le_iff]

/-- A range is in ascending order. -/
theorem ascending_range (s : Store) (above : Octets → Bool) (high : Octets) :
    Ascending (s.range above high) :=
  s.ascending.filter _

theorem length_range_le (s : Store) (above : Octets → Bool) (high : Octets) :
    (s.range above high).length ≤ s.rows.length :=
  List.length_filter_le _ _

/-- Stores that hold the same under the keys of a range have the same rows in the range. -/
theorem range_congr {s' : Store} {above : Octets → Bool} {high : Octets}
    (h : ∀ key, above key = true → key ≤ high → s.get? key = s'.get? key) :
    s.range above high = s'.range above high := by
  refine (s.ascending_range above high).eq_of_mem_iff (s'.ascending_range above high) fun r => ?_
  rw [mem_range, mem_range, mem_rows_iff, mem_rows_iff]
  refine and_congr_left fun hbounds => ?_
  rw [h r.1 hbounds.1 hbounds.2]

-- ---------------------------------------------------------------------------
-- Rows put one after the other
-- ---------------------------------------------------------------------------

/-- Rows are put one after the other. -/
theorem putAll_append (s : Store) (rows rows' : List Row) :
    s.putAll (rows ++ rows') = (s.putAll rows).putAll rows' :=
  List.foldl_append

/-- The last row that is put under a key counts, and otherwise what was there before. -/
theorem get?_putAll (s : Store) (rows : List Row) (key : Octets) :
    (s.putAll rows).get? key = (rows.reverse.lookup key).or (s.get? key) := by
  induction rows generalizing s with
  | nil => rfl
  | cons r rest ih =>
    have hstep : s.putAll (r :: rest) = (s.put r).putAll rest := rfl
    rw [hstep, ih, get?_put, List.reverse_cons, List.lookup_append, Option.or_assoc]
    congr 1
    obtain ⟨k, v⟩ := r
    cases h : key == k <;> simp [List.lookup_cons, h]

/-- What is found after rows were put into a store without rows was put. -/
theorem mem_of_get?_putAll {rows : List Row} {value : Octets}
    (h : (empty.putAll rows).get? key = some value) : (key, value) ∈ rows := by
  rw [get?_putAll, get?_empty, Option.or_none] at h
  exact List.mem_reverse.1 (Table.mem_of_get?_eq_some h)

/-- Rows that are put under other keys change nothing under a key. -/
theorem get?_putAll_of_forall_ne {rows : List Row} (h : ∀ r ∈ rows, r.1 ≠ key) :
    (s.putAll rows).get? key = s.get? key := by
  induction rows generalizing s with
  | nil => rfl
  | cons r rest ih =>
    have hne : (key == r.1) = false := beq_false_of_ne (h r List.mem_cons_self).symm
    have hrest := ih (s := s.put r) fun r' hr' => h r' (List.mem_cons_of_mem r hr')
    rw [get?_put, if_neg (by rw [hne]; decide)] at hrest
    exact hrest

/-- Of rows that are put under keys of their own, each is found. -/
theorem get?_putAll_of_mem {rows : List Row} (hnodup : (Table.keys rows).Nodup) (h : r ∈ rows) :
    (s.putAll rows).get? r.1 = some r.2 := by
  have hreverse : (Table.keys rows.reverse).Nodup := by
    rw [Table.keys, List.map_reverse]
    exact List.nodup_reverse.2 hnodup
  have hlookup : rows.reverse.lookup r.1 = some r.2 :=
    Table.get?_of_mem hreverse (List.mem_reverse.2 h)
  rw [get?_putAll, hlookup, Option.some_or]

/-- A key that leads somewhere does so after rows were put as well. -/
theorem get?_putAll_ne_none (rows : List Row) (h : s.get? key ≠ none) :
    (s.putAll rows).get? key ≠ none := by
  rw [get?_putAll]
  intro hnone
  exact h (Option.or_eq_none_iff.1 hnone).2

end Store

-- ---------------------------------------------------------------------------
-- Databases
-- ---------------------------------------------------------------------------

namespace Database

variable {db db' : Database} {rows : List Row}

/-- A write that goes well changes the store only. -/
theorem putAll_eq_ok (h : db.putAll rows = .ok db') :
    db' = { db with store := db.store.putAll rows } := by
  rw [putAll] at h
  split at h
  · exact nomatch h
  · exact (Except.ok.inj h).symm

theorem putAll_of_readWrite (h : db.access = .readWrite) (rows : List Row) :
    db.putAll rows = .ok { db with store := db.store.putAll rows } := by
  rw [putAll, h, if_neg]
  simp

theorem get_of_allowsReading (h : db.access.allowsReading = true) (key : Octets) :
    db.get key = .ok (db.store.get? key) := by
  rw [get, if_pos h]

/-- What is read is what the store holds. -/
theorem get?_of_get {key : Octets} {value : Option Octets} (h : db.get key = .ok value) :
    db.store.get? key = value := by
  rw [get] at h
  split at h
  · exact Except.ok.inj h
  · exact nomatch h

end Database

end Regenesis

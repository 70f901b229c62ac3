import Mathlib
import Regenesis.Table

/-!
# Proofs.Table — what entries leave behind

A table whose keys differ is known by its look-ups: an entry is in it exactly if looking up its key
gives its value. The table of a row of entries is such a table. Of entries with one key it holds the
last (`get?_ofEntries_map`), and a row in which no key occurs twice is its own table.
-/

namespace Regenesis.Table

variable {κ α : Type} [BEq κ] {t : Table κ α} {key k : κ} {value : α}

-- ---------------------------------------------------------------------------
-- Where entries come from
-- ---------------------------------------------------------------------------

/-- A put adds no other entry than its own. -/
theorem mem_of_mem_put {entry : κ × α} (h : entry ∈ put key value t) :
    entry = (key, value) ∨ entry ∈ t := by
  induction t with
  | nil => exact Or.inl (List.mem_singleton.1 h)
  | cons first rest ih =>
    rw [put] at h
    split at h
    · exact (List.mem_cons.1 h).imp_right (List.mem_cons_of_mem first)
    · rcases List.mem_cons.1 h with rfl | h
      · exact Or.inr List.mem_cons_self
      · exact (ih h).imp_right (List.mem_cons_of_mem first)

theorem ofEntries_concat (entries : List (κ × α)) (key : κ) (value : α) :
    ofEntries (entries ++ [(key, value)]) = put key value (ofEntries entries) := by
  rw [ofEntries, List.foldl_append]
  rfl

/-- A table of entries has no other entries. -/
theorem mem_of_mem_ofEntries {entries : List (κ × α)} {entry : κ × α}
    (h : entry ∈ ofEntries entries) : entry ∈ entries := by
  induction entries using List.reverseRecOn with
  | nil => exact h
  | append_singleton entries last ih =>
    rw [ofEntries_concat] at h
    rcases mem_of_mem_put h with rfl | h
    · exact List.mem_append_right entries List.mem_cons_self
    · exact List.mem_append_left _ (ih h)

variable [LawfulBEq κ]

-- ---------------------------------------------------------------------------
-- Tables whose keys differ
-- ---------------------------------------------------------------------------

theorem mem_of_get?_eq_some (h : get? t k = some value) : (k, value) ∈ t := by
  obtain ⟨before, after, rfl, -⟩ := List.lookup_eq_some_iff.1 h
  exact List.mem_append_right before List.mem_cons_self

/-- Where keys are distinct, every entry is found under its key. -/
theorem get?_of_mem (hnodup : (keys t).Nodup) (h : (k, value) ∈ t) : get? t k = some value := by
  obtain ⟨before, after, rfl⟩ := List.append_of_mem h
  refine List.lookup_eq_some_iff.2 ⟨before, after, rfl, fun entry hentry => ?_⟩
  rw [keys, List.map_append, List.map_cons] at hnodup
  have hne := (List.nodup_append.1 hnodup).2.2 _ (List.mem_map_of_mem hentry) k List.mem_cons_self
  exact bne_iff_ne.2 hne.symm

theorem get?_eq_some_iff (hnodup : (keys t).Nodup) : get? t k = some value ↔ (k, value) ∈ t :=
  ⟨mem_of_get?_eq_some, get?_of_mem hnodup⟩

/-- A put keeps the keys distinct. -/
theorem nodup_keys_put (h : (keys t).Nodup) : (keys (put key value t)).Nodup := by
  rw [keys_put]
  split
  · exact h
  · rename_i hfresh
    have hkey : key ∉ keys t := fun hmem => hfresh (List.contains_iff_mem.2 hmem)
    refine List.nodup_append.2 ⟨h, List.nodup_singleton key, fun a ha b hb => ?_⟩
    rw [List.mem_singleton.1 hb]
    exact fun hab => hkey (hab ▸ ha)

/-- A new key comes last. -/
theorem put_of_not_mem (h : key ∉ keys t) : put key value t = t ++ [(key, value)] := by
  induction t with
  | nil => rfl
  | cons entry rest ih =>
    obtain ⟨k', v'⟩ := entry
    rw [keys_cons, List.mem_cons, not_or] at h
    have hk' : (k' == key) = false := beq_eq_false_iff_ne.2 (Ne.symm h.1)
    rw [put, hk', if_neg (by decide), ih h.2, List.cons_append]

/-- The keys are those under which something is found. -/
theorem mem_keys_iff : k ∈ keys t ↔ ∃ value, get? t k = some value := by
  induction t with
  | nil => simp [keys, get?]
  | cons entry rest ih =>
    obtain ⟨k', v'⟩ := entry
    rw [get?, List.lookup_cons, keys_cons, List.mem_cons]
    cases hk : k == k' with
    | true => simp [eq_of_beq hk]
    | false => simpa [beq_eq_false_iff_ne.1 hk, get?] using ih

-- ---------------------------------------------------------------------------
-- Other keys
-- ---------------------------------------------------------------------------

section
variable {κ' β : Type} [BEq κ'] [LawfulBEq κ'] {f : κ → κ'}

/-- Under other keys, which tell apart what the old ones did, everything is found again. -/
theorem get?_map (hf : Function.Injective f) (g : α → β) (t : Table κ α) (key : κ) :
    get? (t.map fun (k, v) => (f k, g v)) (f key) = (get? t key).map g := by
  induction t with
  | nil => rfl
  | cons entry rest ih =>
    obtain ⟨k, v⟩ := entry
    have hkey : (f key == f k) = (key == k) := by
      rw [Bool.eq_iff_iff, beq_iff_eq, beq_iff_eq, hf.eq_iff]
    rw [get?, get?, List.map_cons, List.lookup_cons, List.lookup_cons, hkey]
    cases key == k with
    | true => rfl
    | false => exact ih

/-- Under such keys, everything is put in the same place. -/
theorem put_map (hf : Function.Injective f) (g : α → β) (t : Table κ α) (key : κ) (value : α) :
    put (f key) (g value) (t.map fun (k, v) => (f k, g v)) =
      (put key value t).map fun (k, v) => (f k, g v) := by
  induction t with
  | nil => rfl
  | cons entry rest ih =>
    obtain ⟨k, v⟩ := entry
    have hkey : (f k == f key) = (k == key) := by
      rw [Bool.eq_iff_iff, beq_iff_eq, beq_iff_eq, hf.eq_iff]
    simp only [List.map_cons, put, hkey]
    split
    · rfl
    · rw [ih, List.map_cons]

end

-- ---------------------------------------------------------------------------
-- The table of entries
-- ---------------------------------------------------------------------------

/-- The keys of a table of entries are distinct, whatever the entries are. -/
theorem nodup_keys_ofEntries (entries : List (κ × α)) : (keys (ofEntries entries)).Nodup := by
  induction entries using List.reverseRecOn with
  | nil => exact List.nodup_nil
  | append_singleton entries entry ih =>
    rw [ofEntries_concat]
    exact nodup_keys_put ih

/-- Items entered under a key that each of them has: of those with one key the last one counts. -/
theorem get?_ofEntries_map {β : Type} (key : β → κ) (value : β → α) (xs : List β) (k : κ) :
    get? (ofEntries (xs.map fun x => (key x, value x))) k =
      ((xs.filter fun x => key x == k).getLast?).map value := by
  induction xs using List.reverseRecOn with
  | nil => rfl
  | append_singleton xs x ih =>
    rw [List.map_append, List.map_singleton, ofEntries_concat, get?_put, ih, List.filter_append,
      BEq.comm]
    cases hx : key x == k with
    | true => simp [hx]
    | false => simp [hx]

/-- Entries of which no two have the same key are all kept. -/
theorem ofEntries_eq_self {entries : List (κ × α)} (h : (keys entries).Nodup) :
    ofEntries entries = entries := by
  induction entries using List.reverseRecOn with
  | nil => rfl
  | append_singleton entries last ih =>
    rw [keys, List.map_append] at h
    obtain ⟨hnodup, -, hdisjoint⟩ := List.nodup_append.1 h
    have hfresh : last.1 ∉ keys entries :=
      fun hmem => hdisjoint _ hmem _ List.mem_cons_self rfl
    rw [ofEntries_concat, ih hnodup, put_of_not_mem hfresh]

end Regenesis.Table

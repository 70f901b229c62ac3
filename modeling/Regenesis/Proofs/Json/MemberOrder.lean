import Mathlib
import Regenesis.Proofs.Json.Canonical
import Regenesis.Proofs.Json.Indented

/-!
# Proofs.Json.MemberOrder — which values are hashed as one text

The canonical form puts the members of every object in the order of their names. If no two members
have one name, there is just one such order, so values that differ in the order of members only have
one canonical form. With the way back from hashed texts this says exactly which values share their
text: `hashedBytes_eq_iff`.
-/

namespace Regenesis.Json

-- ---------------------------------------------------------------------------
-- Members in order
-- ---------------------------------------------------------------------------

/-- Whether members are in ascending order of their names. -/
def IsOrdered (ms : Members) : Prop := ms.Pairwise fun m m' => m.1 ≤ m'.1

/-- A member is inserted where it belongs. -/
theorem isOrdered_insertMember {ms : Members} (h : IsOrdered ms) (m : String × Json) :
    IsOrdered (insertMember m ms) := by
  induction ms with
  | nil => exact List.pairwise_singleton _ m
  | cons m' ms ih =>
    obtain ⟨hfirst, hrest⟩ := List.pairwise_cons.1 h
    rw [insertMember]
    split
    · rename_i hlt
      refine List.pairwise_cons.2 ⟨fun k hk => ?_, ih hrest⟩
      rcases List.mem_cons.1 ((insertMember_perm m ms).mem_iff.1 hk) with rfl | hk
      · exact le_of_lt hlt
      · exact hfirst k hk
    · rename_i hnlt
      have hle : m.1 ≤ m'.1 := String.not_lt.1 hnlt
      refine List.pairwise_cons.2 ⟨fun k hk => ?_, h⟩
      rcases List.mem_cons.1 hk with rfl | hk
      · exact hle
      · exact String.le_trans hle (hfirst k hk)

theorem isOrdered_canonicalMembers (ms : Members) : IsOrdered (canonicalMembers ms) := by
  induction ms with
  | nil => exact List.Pairwise.nil
  | cons m ms ih =>
    obtain ⟨name, v⟩ := m
    exact isOrdered_insertMember ih _

theorem keys_map_canonicalMember (ms : Members) :
    Table.keys (ms.map canonicalMember) = Table.keys ms :=
  List.map_map

/-- Members with names of their own are put in one order, whatever the order before. -/
theorem canonicalMembers_eq_of_perm {ms ns : Members} (hnames : (Table.keys ms).Nodup)
    (h : (ms.map canonicalMember).Perm (ns.map canonicalMember)) :
    canonicalMembers ms = canonicalMembers ns := by
  have hperm : (canonicalMembers ms).Perm (canonicalMembers ns) :=
    (canonicalMembers_perm ms).trans (h.trans (canonicalMembers_perm ns).symm)
  have hown : (Table.keys (canonicalMembers ms)).Nodup := by
    refine ((canonicalMembers_perm ms).map Prod.fst).nodup_iff.2 ?_
    show (Table.keys (ms.map canonicalMember)).Nodup
    rw [keys_map_canonicalMember]
    exact hnames
  refine hperm.eq_of_pairwise (fun m k hm hk hmk hkm => ?_) (isOrdered_canonicalMembers ms)
    (isOrdered_canonicalMembers ns)
  exact List.inj_on_of_nodup_map hown hm (hperm.mem_iff.2 hk) (String.le_antisymm hmk hkm)

-- ---------------------------------------------------------------------------
-- Values that differ in the order of members
-- ---------------------------------------------------------------------------

mutual

/-- Values that differ in the order of members only have one canonical form. -/
theorem canonical_eq_of_same :
    ∀ {v w : Json}, Same v w → v.hasOwnNames = true → v.canonical = w.canonical
  | _, _, .refl _, _ => rfl
  | _, _, .arr h, hnames => by
    rw [canonical, canonical, canonicalItems_eq_of_same h hnames]
  | _, _, .obj h, hnames => by
    rw [hasOwnNames, Bool.and_eq_true, decide_eq_true_eq] at hnames
    rw [canonical, canonical,
      canonicalMembers_eq_of_perm hnames.1 (perm_of_sameMembers h hnames.2)]

/-- Items that are the same up to the order of members have one canonical form. -/
theorem canonicalItems_eq_of_same :
    ∀ {vs ws : List Json}, SameItems vs ws → itemsHaveOwnNames vs = true →
      canonicalItems vs = canonicalItems ws
  | _, _, .nil, _ => rfl
  | _, _, .cons h hs, hnames => by
    rw [itemsHaveOwnNames, Bool.and_eq_true] at hnames
    rw [canonicalItems, canonicalItems, canonical_eq_of_same h hnames.1,
      canonicalItems_eq_of_same hs hnames.2]

/-- Members that are the same up to their order have canonical forms that are. -/
theorem perm_of_sameMembers :
    ∀ {ms ns : Members}, SameMembers ms ns → membersHaveOwnNames ms = true →
      (ms.map canonicalMember).Perm (ns.map canonicalMember)
  | _, _, .nil, _ => .refl _
  | _, _, @SameMembers.cons name v w _ _ _ h hs, hnames => by
    rw [membersHaveOwnNames, Bool.and_eq_true] at hnames
    have hpartner : canonicalMember (name, v) = canonicalMember (name, w) := by
      rw [canonicalMember, canonical_eq_of_same h hnames.1, canonicalMember]
    have hothers := perm_of_sameMembers hs hnames.2
    rw [List.map_append] at hothers
    rw [List.map_cons, List.map_append, List.map_cons, hpartner]
    exact (hothers.cons _).trans List.perm_middle.symm

end

/-- Members in another order make an object that differs in the order of members only. -/
theorem Same.of_perm {ms ns : Members} (h : ms.Perm ns) : Same (.obj ms) (.obj ns) :=
  .obj (sameMembers_of_perm (h.map canonicalMember))

-- ---------------------------------------------------------------------------
-- Hashed texts
-- ---------------------------------------------------------------------------

/-- **One text for one value.** Values without doubles, whose objects have no two members of one
name, are hashed as the same bytes if and only if they differ in the order of members only. In
particular the order in which the members of an object were put makes no difference, at any
level. -/
theorem hashedBytes_eq_iff {v w : Json} (hv : v.floatFree = true) (hw : w.floatFree = true)
    (hnames : v.hasOwnNames = true) :
    (Octets.ofText (canonicalText v) = Octets.ofText (canonicalText w) ↔ Same v w) ∧
      ∀ ms ns : Members, v = .obj ms → ms.Perm ns →
        Octets.ofText (canonicalText v) = Octets.ofText (canonicalText (.obj ns)) := by
  have hbytes : ∀ w : Json, Same v w →
      Octets.ofText (canonicalText v) = Octets.ofText (canonicalText w) := by
    intro w h
    rw [canonicalText, canonicalText, canonical_eq_of_same h hnames]
  refine ⟨⟨fun h => ?_, hbytes w⟩, ?_⟩
  · exact same_of_canonicalText_eq hv hw (Octets.ofText_injective h)
  · rintro ms ns rfl hperm
    exact hbytes _ (.of_perm hperm)

/-- An object in an object, with the shares in front of the fee. -/
def sharesFirst : Json :=
  .obj [("shares", .arr [.int 1, .obj [("to", .null), ("note", .str "\n😀")]]), ("fee", .int (-12))]

/-- The same, with the members of both objects in the other order. -/
def feeFirst : Json :=
  .obj [("fee", .int (-12)), ("shares", .arr [.int 1, .obj [("note", .str "\n😀"), ("to", .null)]])]

theorem same_sharesFirst : Same sharesFirst feeFirst := by
  have hinner : Same (.obj [("to", .null), ("note", .str "\n😀")])
      (.obj [("note", .str "\n😀"), ("to", .null)]) := .of_perm (.swap _ _ _)
  have hshares : Same (.arr [.int 1, .obj [("to", .null), ("note", .str "\n😀")]])
      (.arr [.int 1, .obj [("note", .str "\n😀"), ("to", .null)]]) :=
    .arr (.cons (.refl _) (.cons hinner .nil))
  have hfee : SameMembers [("fee", .int (-12))] [("fee", .int (-12))] :=
    @SameMembers.cons "fee" _ _ [] [] [] (.refl _) .nil
  exact .obj (@SameMembers.cons "shares" _ _ _ [("fee", .int (-12))] [] hshares hfee)

/-- The two orders of one value, and two numbers where the other value has one. -/
theorem hashedBytes_eq_iff_two_orders :
    Octets.ofText (canonicalText sharesFirst) = Octets.ofText (canonicalText feeFirst) ∧
      Octets.ofText (canonicalText (.arr [.int 1, .int 2])) ≠
        Octets.ofText (canonicalText (.arr [.int 12])) := by
  have hfloats : sharesFirst.floatFree = true ∧ feeFirst.floatFree = true := by decide
  have hnames : sharesFirst.hasOwnNames = true := by decide
  refine ⟨(hashedBytes_eq_iff hfloats.1 hfloats.2 hnames).1.2 same_sharesFirst, fun h => ?_⟩
  -- a list of two items is no list of one item
  cases (hashedBytes_eq_iff rfl rfl rfl).1.1 h with
  | arr hitems =>
    cases hitems with
    | cons _ hrest => cases hrest

end Regenesis.Json

import Mathlib
import Regenesis.Octets
import Regenesis.Proofs.Json.Compact

/-!
# Proofs.Json.Canonical — what a hashed text tells

The canonical text of a value forgets the order of the members of its objects, and nothing else.
`Same` is what is left of a value without that order. The canonical form of an object holds the
canonical forms of its members, so two objects with one canonical form have members that pair up.
Together: `same_of_canonicalText_eq`.
-/

namespace Regenesis.Json

-- ---------------------------------------------------------------------------
-- Values without the order of members
-- ---------------------------------------------------------------------------

mutual

/-- Whether two values differ in the order of the members of objects only. -/
inductive Same : Json → Json → Prop where
  | refl (v : Json) : Same v v
  | arr {vs ws : List Json} : SameItems vs ws → Same (.arr vs) (.arr ws)
  | obj {ms ns : List (String × Json)} : SameMembers ms ns → Same (.obj ms) (.obj ns)

/-- The items of two lists one by one. -/
inductive SameItems : List Json → List Json → Prop where
  | nil : SameItems [] []
  | cons {v w : Json} {vs ws : List Json} :
      Same v w → SameItems vs ws → SameItems (v :: vs) (w :: ws)

/-- The members of two objects, each with its partner somewhere in the other object. -/
inductive SameMembers : List (String × Json) → List (String × Json) → Prop where
  | nil : SameMembers [] []
  | cons {name : String} {v w : Json} {ms before after : List (String × Json)} :
      Same v w → SameMembers ms (before ++ after) →
        SameMembers ((name, v) :: ms) (before ++ (name, w) :: after)

end

-- ---------------------------------------------------------------------------
-- Canonical forms
-- ---------------------------------------------------------------------------

/-- A member with its value in canonical form. -/
def canonicalMember (m : String × Json) : String × Json := (m.1, m.2.canonical)

/-- A member is inserted among the others, and nothing else is changed. -/
theorem insertMember_perm (m : String × Json) (ms : Members) :
    (insertMember m ms).Perm (m :: ms) := by
  induction ms with
  | nil => exact .refl _
  | cons m' ms ih =>
    rw [insertMember]
    split
    · exact (ih.cons m').trans (.swap m m' ms)
    · exact .refl _

/-- The canonical members are the members in another order. -/
theorem canonicalMembers_perm (ms : Members) :
    (canonicalMembers ms).Perm (ms.map canonicalMember) := by
  induction ms with
  | nil => exact .refl _
  | cons m ms ih =>
    obtain ⟨name, v⟩ := m
    rw [canonicalMembers, List.map_cons]
    exact (insertMember_perm _ _).trans (ih.cons _)

section
variable {onInt : Int → Bool} {onFloat : Binary64 → Bool}

theorem allNumbersInItems_eq_all (vs : List Json) :
    allNumbersInItems onInt onFloat vs = vs.all fun v => v.allNumbers onInt onFloat := by
  induction vs with
  | nil => rfl
  | cons v vs ih => rw [allNumbersInItems, ih, List.all_cons]

theorem allNumbersInMembers_eq_all (ms : Members) :
    allNumbersInMembers onInt onFloat ms = ms.all fun m => m.2.allNumbers onInt onFloat := by
  induction ms with
  | nil => rfl
  | cons m ms ih =>
    obtain ⟨name, v⟩ := m
    rw [allNumbersInMembers, ih, List.all_cons]

mutual

/-- The canonical form has the numbers of the value. -/
theorem allNumbers_canonical :
    ∀ v : Json, v.canonical.allNumbers onInt onFloat = v.allNumbers onInt onFloat
  | .null | .bool _ | .int _ | .float _ | .str _ => by rw [canonical]
  | .arr vs => by
    rw [canonical, allNumbers, allNumbers]
    exact allNumbersInItems_canonical vs
  | .obj ms => by
    rw [canonical, allNumbers, allNumbers]
    exact allNumbersInMembers_canonical ms

theorem allNumbersInItems_canonical :
    ∀ vs : List Json, allNumbersInItems onInt onFloat (canonicalItems vs) =
      allNumbersInItems onInt onFloat vs
  | [] => rfl
  | v :: vs => by
    rw [canonicalItems, allNumbersInItems, allNumbersInItems, allNumbers_canonical v,
      allNumbersInItems_canonical vs]

theorem allNumbersInMembers_canonical :
    ∀ ms : Members, allNumbersInMembers onInt onFloat (canonicalMembers ms) =
      allNumbersInMembers onInt onFloat ms
  | [] => rfl
  | (name, v) :: ms => by
    have hinsert : allNumbersInMembers onInt onFloat
        (insertMember (name, v.canonical) (canonicalMembers ms)) =
          allNumbersInMembers onInt onFloat ((name, v.canonical) :: canonicalMembers ms) := by
      rw [allNumbersInMembers_eq_all, allNumbersInMembers_eq_all]
      exact (insertMember_perm _ _).all_eq
    rw [canonicalMembers, hinsert, allNumbersInMembers, allNumbersInMembers,
      allNumbers_canonical v, allNumbersInMembers_canonical ms]

end

end

-- ---------------------------------------------------------------------------
-- Values of one canonical form
-- ---------------------------------------------------------------------------

/-- Objects of one canonical form have the same members in canonical form. -/
theorem perm_of_canonical_eq {ms ns : Members} (h : canonical (.obj ms) = canonical (.obj ns)) :
    (ms.map canonicalMember).Perm (ns.map canonicalMember) := by
  have hmembers : canonicalMembers ms = canonicalMembers ns := Json.obj.inj h
  have hperm := (canonicalMembers_perm ms).symm
  rw [hmembers] at hperm
  exact hperm.trans (canonicalMembers_perm ns)

/-- What has no parts is the canonical form of itself alone. -/
theorem same_of_eq_canonical {v w : Json} (h : v = w.canonical) (harr : ∀ vs, v ≠ .arr vs)
    (hobj : ∀ ms, v ≠ .obj ms) : Same v w := by
  cases w with
  | arr ws => exact absurd h (harr _)
  | obj ns => exact absurd h (hobj _)
  | _ =>
    rw [h, canonical]
    exact .refl _

mutual

/-- Values of one canonical form differ in the order of members only. -/
theorem same_of_canonical_eq : ∀ {v w : Json}, v.canonical = w.canonical → Same v w
  | .null, _, h | .bool _, _, h | .int _, _, h | .float _, _, h | .str _, _, h =>
    same_of_eq_canonical h nofun nofun
  | .arr vs, w, h => by
    cases w with
    | arr ws => exact .arr (sameItems_of_canonical_eq (Json.arr.inj h))
    | _ => exact nomatch h
  | .obj ms, w, h => by
    cases w with
    | obj ns => exact .obj (sameMembers_of_perm (perm_of_canonical_eq h))
    | _ => exact nomatch h

/-- Items with one canonical form are the same up to the order of members. -/
theorem sameItems_of_canonical_eq :
    ∀ {vs ws : List Json}, canonicalItems vs = canonicalItems ws → SameItems vs ws
  | [], [], _ => .nil
  | [], _ :: _, h => nomatch h
  | _ :: _, [], h => nomatch h
  | v :: vs, w :: ws, h => by
    obtain ⟨hitem, hitems⟩ := List.cons.inj h
    exact .cons (same_of_canonical_eq hitem) (sameItems_of_canonical_eq hitems)

/-- Members whose canonical forms agree up to their order are the same up to their order. -/
theorem sameMembers_of_perm :
    ∀ {ms ns : Members}, (ms.map canonicalMember).Perm (ns.map canonicalMember) →
      SameMembers ms ns
  | [], ns, h => by
    have hnil : ns = [] := List.map_eq_nil_iff.1 h.nil_eq.symm
    rw [hnil]
    exact .nil
  | (name, v) :: ms, ns, h => by
    -- the partner of the first member, and the others
    obtain ⟨⟨name', w⟩, hmem, heq⟩ := List.mem_map.1 (h.subset List.mem_cons_self)
    obtain ⟨before, after, rfl⟩ := List.append_of_mem hmem
    obtain ⟨rfl, hvalue⟩ := Prod.mk.inj heq
    rw [List.map_append, List.map_cons, List.map_cons, heq] at h
    have hothers : (ms.map canonicalMember).Perm ((before ++ after).map canonicalMember) := by
      rw [List.map_append]
      exact (h.trans List.perm_middle).cons_inv
    exact .cons (same_of_canonical_eq hvalue.symm) (sameMembers_of_perm hothers)

end

/-- Members of one order of names, of which no two are the same. -/
theorem members_eq_of_perm {ms ns : Members} (h : ms.Perm ns)
    (hnames : ms.map Prod.fst = ns.map Prod.fst) (hnodup : (ms.map Prod.fst).Nodup) :
    ms = ns := by
  induction ms generalizing ns with
  | nil => exact h.nil_eq
  | cons m ms ih =>
    cases ns with
    | nil => exact nomatch hnames
    | cons n ns =>
      obtain ⟨hname, hothers⟩ := List.cons.inj hnames
      obtain ⟨hfresh, hnodup⟩ := List.nodup_cons.1 hnodup
      rcases List.mem_cons.1 (h.subset List.mem_cons_self) with rfl | hmem
      · rw [ih h.cons_inv hothers hnodup]
      · -- the name would stand among the other names
        exact absurd (hothers ▸ List.mem_map_of_mem hmem) hfresh

/-- The members of two objects of one shape and one canonical form are the same one by one. -/
theorem canonicalMember_eq_of_canonical_eq {ms ns : Members}
    (h : canonical (.obj ms) = canonical (.obj ns))
    (hnames : ms.map Prod.fst = ns.map Prod.fst) (hnodup : (ms.map Prod.fst).Nodup) :
    ms.map canonicalMember = ns.map canonicalMember := by
  have hnamesOf : ∀ ms : Members, (ms.map canonicalMember).map Prod.fst = ms.map Prod.fst :=
    fun ms => List.map_map
  refine members_eq_of_perm (perm_of_canonical_eq h) ?_ ?_
  · rw [hnamesOf, hnamesOf, hnames]
  · rw [hnamesOf]
    exact hnodup

-- ---------------------------------------------------------------------------
-- Hashed texts
-- ---------------------------------------------------------------------------

/-- A hashed text tells the canonical form. -/
theorem canonical_eq_of_canonicalText_eq {v w : Json} (hv : v.floatFree = true)
    (hw : w.floatFree = true) (h : canonicalText v = canonicalText w) :
    v.canonical = w.canonical := by
  have hchars : compactChars .ascii v.canonical = compactChars .ascii w.canonical :=
    String.ofList_injective h
  refine compactChars_injective Token.readsBack_writeCharAscii ?_ ?_ hchars
  · rw [floatFree, allNumbers_canonical]
    exact hv
  · rw [floatFree, allNumbers_canonical]
    exact hw

/-- **Hashed texts.** Values without doubles that are hashed as one text differ in the order of
members only. -/
theorem same_of_canonicalText_eq {v w : Json} (hv : v.floatFree = true)
    (hw : w.floatFree = true) (h : canonicalText v = canonicalText w) : Same v w :=
  same_of_canonical_eq (canonical_eq_of_canonicalText_eq hv hw h)

end Regenesis.Json

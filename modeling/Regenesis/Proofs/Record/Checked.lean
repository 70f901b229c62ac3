import Mathlib
import Regenesis.Record.Field

/-!
# Proofs.Record.Checked — reading that succeeds

A reader that is put together from others succeeds exactly if all of them do. So does a reader of a
list, for every item, and one of a record whose members are all known.
-/

namespace Regenesis.Record

section
variable {α β γ : Type}

theorem map_eq_ok {c : Checked α} {f : α → β} {b : β} :
    f <$> c = .ok b ↔ ∃ a, c = .ok a ∧ f a = b := by
  cases c with
  | ok a => simp [Functor.map, Checked.map]
  | issues list => simp [Functor.map, Checked.map]

theorem seq_eq_ok {c : Checked (α → β)} {d : Checked α} {b : β} :
    c <*> d = .ok b ↔ ∃ f a, c = .ok f ∧ d = .ok a ∧ f a = b := by
  cases c <;> cases d <;> simp [Seq.seq, Checked.both]

/-- A check behind another one works on what the first has made. -/
theorem andThen_eq_ok {c : Checked α} {f : α → Checked β} {b : β} :
    c.andThen f = .ok b ↔ ∃ a, c = .ok a ∧ f a = .ok b := by
  cases c with
  | ok a => simp [Checked.andThen]
  | issues list => simp [Checked.andThen]

theorem under_eq_ok {c : Checked α} {s : Step} {a : α} : c.under s = .ok a ↔ c = .ok a := by
  cases c with
  | ok a => simp [Checked.under]
  | issues list => simp [Checked.under]

/-- Items are read one by one. -/
theorem readItems_eq_ok {read : Json → Checked α} {i : Nat} {items : List Json} {as : List α} :
    readItems read i items = .ok as ↔ List.Forall₂ (fun v a => read v = .ok a) items as := by
  induction items generalizing i as with
  | nil =>
    rw [readItems, List.forall₂_nil_left_iff]
    exact ⟨fun h => (Checked.ok.inj h).symm, fun h => h ▸ rfl⟩
  | cons v rest ih =>
    have hseq : readItems read i (v :: rest) =
        (List.cons <$> (read v).under (.item i)) <*> readItems read (i + 1) rest := rfl
    rw [hseq, seq_eq_ok, List.forall₂_cons_left_iff]
    constructor
    · rintro ⟨f, as', hf, has', rfl⟩
      obtain ⟨a, ha, rfl⟩ := map_eq_ok.1 hf
      exact ⟨a, as', under_eq_ok.1 ha, ih.1 has', rfl⟩
    · rintro ⟨a, as', ha, has', rfl⟩
      exact ⟨_, as', map_eq_ok.2 ⟨a, under_eq_ok.2 ha, rfl⟩, ih.2 has', rfl⟩

/-- A list is read if each of its items is. -/
theorem list_eq_ok {read : Json → Checked α} {v : Json} {as : List α} :
    list read v = .ok as ↔
      ∃ items, v = .arr items ∧ List.Forall₂ (fun v a => read v = .ok a) items as := by
  cases v with
  | arr items => simp [list, readItems_eq_ok]
  | _ => simp [list, Checked.fail]

/-- A list that was written item by item is read back if items are. -/
theorem list_map_ok {read : Json → Checked α} {write : α → Json}
    (h : ∀ a, read (write a) = .ok a) (as : List α) : list read (.arr (as.map write)) = .ok as := by
  refine list_eq_ok.2 ⟨_, rfl, ?_⟩
  rw [List.forall₂_map_left_iff, List.forall₂_same]
  exact fun a _ => h a

/-- A record is read from the members of an object. -/
theorem readRecord_eq_ok {read : Json.Members → Checked α} {v : Json} {a : α} :
    readRecord read v = .ok a ↔ ∃ members, v = .obj members ∧ read members = .ok a := by
  cases v with
  | obj members => simp [readRecord]
  | _ => simp [readRecord, Checked.fail]

/-- A required field is there, and is read. -/
theorem required_eq_ok {name : String} {read : Json → Checked α} {members : Json.Members}
    {a : α} :
    required name read members = .ok a ↔ ∃ v, members.get? name = some v ∧ read v = .ok a := by
  rw [required]
  cases members.get? name with
  | none => simp [under_eq_ok, Checked.fail]
  | some v => simp [under_eq_ok]

/-- An optional field is read if it is there, and has its default otherwise. -/
theorem optional_eq_ok {name : String} {read : Json → Checked α} {default : α}
    {members : Json.Members} {a : α} :
    optional name read default members = .ok a ↔
      (∃ v, members.get? name = some v ∧ read v = .ok a) ∨
        members.get? name = none ∧ default = a := by
  rw [optional]
  cases members.get? name with
  | none => simp
  | some v => simp [under_eq_ok]

/-- A closed record has no other members than those that are known. -/
theorem closed_eq_ok {known : List String} {members : Json.Members} {c : Checked α} {a : α} :
    closed known members c = .ok a ↔ (∀ m ∈ members, m.1 ∈ known) ∧ c = .ok a := by
  have hunknown : (members.filter fun m => !known.contains m.1) = [] ↔
      ∀ m ∈ members, m.1 ∈ known := by
    simp [List.filter_eq_nil_iff]
  rw [closed, ← hunknown]
  cases members.filter fun m => !known.contains m.1 with
  | nil => exact ⟨fun h => ⟨rfl, h⟩, And.right⟩
  | cons m rest =>
    refine ⟨fun h => ?_, fun h => nomatch h.1⟩
    cases c with
    | ok a => exact nomatch h
    | issues list => exact nomatch h

/-- A natural number is an integer that is not negative. -/
theorem natural_eq_ok {v : Json} {n : Nat} : natural v = .ok n ↔ integer v = .ok n := by
  rw [natural, andThen_eq_ok]
  constructor
  · rintro ⟨m, hm, h⟩
    cases m with
    | ofNat m => exact Checked.ok.inj h ▸ hm
    | negSucc m => exact nomatch h
  · intro h
    exact ⟨n, h, rfl⟩

/-- Hex texts are read one by one; how issues are reported makes no difference to what is read. -/
theorem hexTexts_eq_ok {ss : List String} {bs : List Octets} :
    hexTexts ss = .ok bs ↔ List.Forall₂ (fun s b => hexText s = .ok b) ss bs := by
  induction ss generalizing bs with
  | nil =>
    rw [hexTexts, List.forall₂_nil_left_iff]
    exact ⟨fun h => (Checked.ok.inj h).symm, fun h => h ▸ rfl⟩
  | cons s rest ih =>
    rw [hexTexts, andThen_eq_ok, List.forall₂_cons_left_iff]
    constructor
    · rintro ⟨b, hb, h⟩
      obtain ⟨bs', hbs', rfl⟩ := map_eq_ok.1 h
      exact ⟨b, bs', hb, ih.1 hbs', rfl⟩
    · rintro ⟨b, bs', hb, hbs', rfl⟩
      exact ⟨b, hb, map_eq_ok.2 ⟨bs', ih.2 hbs', rfl⟩⟩

/-- To check items twice is to check all of them once and then again. -/
theorem forall₂_andThen {f : γ → Checked α} {g : α → Checked β} {items : List γ} {bs : List β} :
    List.Forall₂ (fun v b => (f v).andThen g = .ok b) items bs ↔
      ∃ as, List.Forall₂ (fun v a => f v = .ok a) items as ∧
        List.Forall₂ (fun a b => g a = .ok b) as bs := by
  induction items generalizing bs with
  | nil => simp
  | cons v rest ih =>
    simp only [List.forall₂_cons_left_iff, ih]
    constructor
    · rintro ⟨b, bs', hvb, ⟨as, has, hbs⟩, rfl⟩
      obtain ⟨a, ha, hb⟩ := andThen_eq_ok.1 hvb
      exact ⟨a :: as, ⟨a, as, ha, has, rfl⟩, .cons hb hbs⟩
    · rintro ⟨_, ⟨a, as, ha, has, rfl⟩, hbs⟩
      obtain ⟨b, bs', hb, hbs', rfl⟩ := List.forall₂_cons_left_iff.1 hbs
      exact ⟨b, bs', andThen_eq_ok.2 ⟨a, ha, hb⟩, ⟨as, has, hbs'⟩, rfl⟩

theorem hexList_eq_ok {v : Json} {bs : List Octets} :
    hexList v = .ok bs ↔ list hex v = .ok bs := by
  rw [hexList, andThen_eq_ok]
  simp only [list_eq_ok, hexTexts_eq_ok, hex, forall₂_andThen]
  constructor
  · rintro ⟨ss, ⟨items, hv, hss⟩, hbs⟩
    exact ⟨items, hv, ss, hss, hbs⟩
  · rintro ⟨items, hv, ss, hss, hbs⟩
    exact ⟨ss, ⟨items, hv, hss⟩, hbs⟩

end

end Regenesis.Record

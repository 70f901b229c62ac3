import Mathlib
import Regenesis.Proofs.Json.Reading
import Regenesis.Proofs.Pairing
import Regenesis.Proofs.Record.Checked
import Regenesis.Proofs.Record.Kinds

/-!
# Proofs.Record.Lawful — reading and writing by kind

A reader and a writer are lawful for a kind if what is written is in the normal form of the kind and
is read back, what is read has declared members only, and what was read from a value within the
limits of stored records is written within them as well. The readers of members are lawful, so are
lists of what is lawful, and a record is lawful if its members are (`Lawful.record`): a record of
the program then needs no more than the list of its members.
-/

namespace Regenesis.Record

open Json (Fits Storable)

/-- Whether a reader and a writer go together, for what a kind declares. -/
structure Lawful {α : Type} (kind : Kind) (read : Json → Checked α) (write : α → Json) :
    Prop where
  normal : ∀ a, Normal kind (write a)
  back : ∀ a, read (write a) = .ok a
  closed : ∀ {room v a}, Storable room v → read v = .ok a → Closed kind v
  storable : ∀ {room v a}, kind.depth ≤ room → Storable room v → read v = .ok a →
    Storable room (write a)

-- ---------------------------------------------------------------------------
-- Integers
-- ---------------------------------------------------------------------------

section
variable {n : Int}

theorem isShort_of_natAbs_lt (h : n.natAbs < 10 ^ Decimal.maxDigits) :
    Json.Token.isShort (some Decimal.maxDigits) n = true := by
  have hlength : (Decimal.natDigits n.natAbs).length ≤ Decimal.maxDigits :=
    (Nat.length_toDigits_le_iff (by omega) (by decide)).2 h
  rw [Json.Token.isShort, Option.any_some, Bool.not_eq_true', decide_eq_false_iff_not]
  omega

/-- An integer is read from JSON exactly if it can be written. -/
theorem isShort_iff_fits :
    Json.Token.isShort (some Decimal.maxDigits) n = true ↔ Decimal.fits n = true := by
  rw [Json.Token.isShort, Option.any_some, Bool.not_eq_true', decide_eq_false_iff_not, not_lt,
    Decimal.fits, decide_eq_true_eq]

/-- A plain integer has no more digits than are read. -/
theorem isShort_of_plainInteger {cs : List Char} (h : plainInteger cs = .number n) :
    Json.Token.isShort (some Decimal.maxDigits) n = true := by
  revert h
  fun_cases plainInteger cs with
  | case1 | case3 | case4 | case5 | case6 => exact nofun
  | case2 =>
    intro h
    rw [← PlainInteger.number.inj h]
    exact isShort_of_natAbs_lt (Nat.pow_pos (by decide))
  | case7 negative unsigned _ rest digits hne _ _ hlength _ value hspan =>
    intro h
    rw [List.span_eq_takeWhile_dropWhile] at hspan
    obtain ⟨rfl, -⟩ := Prod.mk.inj hspan
    rw [← PlainInteger.number.inj h]
    refine Json.isShort_of_isDigit hne (fun d hd => List.mem_takeWhile_imp hd) ?_ _
    rw [Option.any_some, decide_eq_false_iff_not]
    exact hlength

/-- An integer that is read from a text is short enough to be stored. -/
theorem isShort_of_integerText {s : String} (h : integerText s = .ok n) :
    Json.Token.isShort (some Decimal.maxDigits) n = true := by
  unfold integerText at h
  split at h
  · rename_i m hplain
    rw [← Checked.ok.inj h]
    exact isShort_of_plainInteger hplain
  · exact nomatch h
  · split at h
    · rename_i m htidy
      obtain ⟨cs, -, hplain⟩ := Option.map_eq_some_iff.1 htidy
      rw [← Checked.ok.inj h]
      exact isShort_of_plainInteger hplain
    · exact nomatch h

/-- A double that is an integer of 64 bits has few digits. -/
theorem isShort_of_integerFloat {x : Binary64} (h : integerFloat x = .ok n) :
    Json.Token.isShort (some Decimal.maxDigits) n = true := by
  have hword : -wordEnd < n ∧ n < wordEnd := by
    unfold integerFloat at h
    split at h
    · exact nomatch h
    · exact nomatch h
    · split at h
      · exact nomatch h
      · split at h
        · rename_i hbounds
          exact Checked.ok.inj h ▸ hbounds
        · exact nomatch h
  have hend : wordEnd = 2 ^ 63 := by decide
  rw [hend] at hword
  refine isShort_of_natAbs_lt (Nat.lt_of_lt_of_le (m := 10 ^ 19) (by omega) ?_)
  exact Nat.pow_le_pow_right (by omega) (by decide)

/-- The integer that a stored value is read as can be stored. -/
theorem storable_int_of_integer {room : Nat} {v : Json} (h : integer v = .ok n)
    (hv : Storable room v) : Storable room (.int n) := by
  cases hv with
  | null | arr | obj => exact nomatch h
  | int hshort => exact .int (Checked.ok.inj h ▸ hshort)
  | bool b =>
    rw [← Checked.ok.inj h]
    cases b
    · exact .int (by decide)
    · exact .int (by decide)
  | float x => exact .int (isShort_of_integerFloat h)
  | str s => exact .int (isShort_of_integerText h)

end

-- ---------------------------------------------------------------------------
-- Room
-- ---------------------------------------------------------------------------

/-- Without open objects, a normal form needs no more room than its kind. -/
theorem storable_of_normal {kind : Kind} {v : Json} {room room' : Nat} (h : Normal kind v)
    (hkind : kind.isDefinite = true) (hv : Storable room v) (hroom : kind.depth ≤ room') :
    Storable room' v := by
  -- every kind takes a level, so there is room for one
  obtain ⟨room', rfl⟩ : ∃ r, room' = r + 1 := by
    have hpos := kind.depth_pos
    exact ⟨room' - 1, by omega⟩
  induction h generalizing room room' with
  | hex => exact .str _
  | natural | integer =>
    cases hv with
    | int hshort => exact .int hshort
  | boolean b => exact .bool b
  | text s => exact .str s
  | openObject => exact nomatch hkind
  | @list k items _ ih =>
    cases hv with
    | arr hitems =>
      -- the items have one level less
      have hroom := Nat.le_of_succ_le_succ hroom
      have hpos := k.depth_pos
      cases room' with
      | zero => omega
      | succ room' => exact .arr fun v hv => ih v hv hkind (hitems v hv) room' hroom
  | @record fields members hnames _ ih =>
    cases hv with
    | obj hnodup hmembers =>
      refine .obj hnodup fun m hm => ?_
      have hname : m.1 ∈ fields.map Prod.fst := hnames ▸ List.mem_map_of_mem hm
      obtain ⟨⟨name, k⟩, hfield, rfl⟩ := List.mem_map.1 hname
      have hroom := (Kind.depth_le_depthOfFields hfield).trans (Nat.le_of_succ_le_succ hroom)
      have hpos := k.depth_pos
      cases room' with
      | zero => omega
      | succ room' =>
        have hdefinite := Kind.isDefinite_of_areDefinite hkind hfield
        exact ih m hm k hfield hdefinite (hmembers m hm) room' hroom

-- ---------------------------------------------------------------------------
-- Values of members
-- ---------------------------------------------------------------------------

namespace Lawful

variable {α : Type} {kind : Kind} {read : Json → Checked α} {write : α → Json}

/-- Integers are read as they are written. -/
theorem integer : Lawful .integer Record.integer Json.int where
  normal n := .integer n
  back _ := rfl
  closed _ _ := .leaf nofun nofun
  storable _ hv h := storable_int_of_integer h hv

/-- Natural numbers are read as they are written. -/
theorem natural : Lawful .natural Record.natural natJson where
  normal n := .natural (Int.natCast_nonneg n)
  back _ := rfl
  closed _ _ := .leaf nofun nofun
  storable _ hv h := storable_int_of_integer (natural_eq_ok.1 h) hv

theorem boolean : Lawful .boolean Record.boolean Json.bool where
  normal b := .boolean b
  back _ := rfl
  closed _ _ := .leaf nofun nofun
  storable _ hv _ := by cases hv <;> exact .bool _

theorem text : Lawful .text Record.text Json.str where
  normal s := .text s
  back _ := rfl
  closed _ _ := .leaf nofun nofun
  storable _ hv _ := by cases hv <;> exact .str _

theorem object : Lawful .openObject Record.object Json.obj where
  normal members := .openObject members
  back _ := rfl
  closed _ _ := .leaf nofun nofun
  storable {_ v _} _ hv h := by
    cases v with
    | obj members => exact Checked.ok.inj h ▸ hv
    | _ => exact nomatch h

/-- Bytes are read from their hex text. -/
theorem hex : Lawful .hex Record.hex hexJson where
  normal b := .hex (Hex.isCanonicalHex_encode b)
  back b := by
    have hdecode : hexText (Hex.encode b) = .ok b := by rw [hexText, Hex.decode_encode]
    exact hdecode
  closed _ _ := .leaf nofun nofun
  storable _ hv _ := by cases hv <;> exact .str _

/-- Lists of what is lawful. -/
theorem list (h : Lawful kind read write) :
    Lawful (.list kind) (Record.list read) fun as => .arr (as.map write) where
  normal as := .list fun v hv => by
    obtain ⟨a, -, rfl⟩ := List.mem_map.1 hv
    exact h.normal a
  back := list_map_ok h.back
  closed hv hread := by
    obtain ⟨items, rfl, hitems⟩ := list_eq_ok.1 hread
    cases hv with
    | arr hstorable =>
      refine .list fun v hv => ?_
      obtain ⟨a, -, ha⟩ := Pairing.exists_right hitems hv
      exact h.closed (hstorable v hv) ha
  storable hdepth hv hread := by
    obtain ⟨items, rfl, hitems⟩ := list_eq_ok.1 hread
    cases hv with
    | arr hstorable =>
      refine .arr fun w hw => ?_
      obtain ⟨a, ha, rfl⟩ := List.mem_map.1 hw
      obtain ⟨v, hv, hread⟩ := Pairing.exists_left hitems ha
      exact h.storable (Nat.le_of_succ_le_succ hdepth) (hstorable v hv) hread

theorem hexList : Lawful (.list .hex) Record.hexList fun bs => .arr (bs.map hexJson) where
  normal := hex.list.normal
  back bs := hexList_eq_ok.2 (hex.list.back bs)
  closed hv h := hex.list.closed hv (hexList_eq_ok.1 h)
  storable hdepth hv h := hex.list.storable hdepth hv (hexList_eq_ok.1 h)

end Lawful

-- ---------------------------------------------------------------------------
-- Members
-- ---------------------------------------------------------------------------

/-- A member of a record: its declaration, how it is written, when it is read, and that the two go
together. -/
structure Member (ρ : Type) where
  name : String
  kind : Kind
  json : ρ → Json
  /-- Whether the members of an object give this part of a record. -/
  Reads : Json.Members → ρ → Prop
  normal : ∀ a, Normal kind (json a)
  back : ∀ {members a}, members.get? name = some (json a) → Reads members a
  closed : ∀ {room members a v}, members.get? name = some v → Storable room v →
    Reads members a → Closed kind v
  storable : ∀ {room members a}, kind.depth ≤ room →
    (∀ v, members.get? name = some v → Storable room v) → Reads members a →
    Storable room (json a)

namespace Lawful

variable {α ρ : Type} {kind : Kind} {read : Json → Checked α} {write : α → Json}

/-- A member that must be there. -/
def required (h : Lawful kind read write) (name : String) (part : ρ → α) : Member ρ where
  name := name
  kind := kind
  json a := write (part a)
  Reads members a := Record.required name read members = .ok (part a)
  normal a := h.normal (part a)
  back hget := required_eq_ok.2 ⟨_, hget, h.back _⟩
  closed hget hstorable hread := by
    obtain ⟨v, hv, hread⟩ := required_eq_ok.1 hread
    obtain rfl := Option.some.inj (hget.symm.trans hv)
    exact h.closed hstorable hread
  storable hdepth hstorable hread := by
    obtain ⟨v, hv, hread⟩ := required_eq_ok.1 hread
    exact h.storable hdepth (hstorable v hv) hread

/-- A member that has a default, which is what some value without parts is read as. -/
def optional (h : Lawful kind read write) (name : String) (default : α) {plain : Json}
    (hdefault : read plain = .ok default) (hplain : ∀ room, Storable (room + 1) plain)
    (part : ρ → α) : Member ρ where
  name := name
  kind := kind
  json a := write (part a)
  Reads members a := Record.optional name read default members = .ok (part a)
  normal a := h.normal (part a)
  back hget := optional_eq_ok.2 (Or.inl ⟨_, hget, h.back _⟩)
  closed hget hstorable hread := by
    rcases optional_eq_ok.1 hread with ⟨v, hv, hread⟩ | ⟨hnone, -⟩
    · obtain rfl := Option.some.inj (hget.symm.trans hv)
      exact h.closed hstorable hread
    · rw [hnone] at hget
      exact nomatch hget
  storable {room _ _} hdepth hstorable hread := by
    rcases optional_eq_ok.1 hread with ⟨v, hv, hread⟩ | ⟨-, hdefault'⟩
    · exact h.storable hdepth (hstorable v hv) hread
    · rw [← hdefault']
      obtain ⟨room, rfl⟩ : ∃ r, room = r + 1 := by
        have hpos := kind.depth_pos
        exact ⟨room - 1, by omega⟩
      exact h.storable hdepth (hplain room) hdefault

/-- **Records.** A record is lawful if it is read and written member by member. -/
theorem record (members : List (Member ρ)) {body : Json.Members → Checked ρ} {write : ρ → Json}
    (hnames : (members.map Member.name).Nodup)
    (hread : ∀ ms a, body ms = .ok a ↔ ∀ m ∈ members, m.Reads ms a)
    (hwrite : ∀ a, write a = .obj (members.map fun m => (m.name, m.json a))) :
    Lawful (.record (members.map fun m => (m.name, m.kind)))
      (readRecord fun ms => Record.closed (members.map Member.name) ms (body ms)) write where
  normal a := by
    rw [hwrite]
    refine .record (by rw [List.map_map, List.map_map]; rfl) fun entry hentry k hk => ?_
    obtain ⟨m, hm, rfl⟩ := List.mem_map.1 hentry
    obtain ⟨m', hm', heq⟩ := List.mem_map.1 hk
    obtain ⟨hname, rfl⟩ := Prod.mk.inj heq
    -- a name belongs to one member, so the kind of the field is its kind
    rw [← List.inj_on_of_nodup_map hnames hm' hm hname]
    exact m'.normal a
  back a := by
    rw [hwrite, readRecord_eq_ok]
    refine ⟨_, rfl, closed_eq_ok.2 ⟨fun entry hentry => ?_, (hread _ _).2 fun m hm => ?_⟩⟩
    · obtain ⟨m, hm, rfl⟩ := List.mem_map.1 hentry
      exact List.mem_map_of_mem hm
    · -- distinct names: each member finds the value that was written for it
      refine m.back (Table.get?_of_mem ?_ (List.mem_map_of_mem hm))
      rw [Table.keys, List.map_map]
      exact hnames
  closed {room v a} hv h := by
    obtain ⟨ms, rfl, h⟩ := readRecord_eq_ok.1 h
    obtain ⟨hknown, hbody⟩ := closed_eq_ok.1 h
    cases hv with
    | obj hnodup hms =>
      refine .record (by rwa [List.map_map]) fun entry hentry k hk => ?_
      obtain ⟨name, v⟩ := entry
      obtain ⟨m, hm, heq⟩ := List.mem_map.1 hk
      obtain ⟨rfl, rfl⟩ := Prod.mk.inj heq
      have hget := Table.get?_of_mem hnodup hentry
      exact m.closed hget (hms _ hentry) ((hread _ _).1 hbody m hm)
  storable {room v a} hdepth hv h := by
    obtain ⟨ms, rfl, h⟩ := readRecord_eq_ok.1 h
    obtain ⟨-, hbody⟩ := closed_eq_ok.1 h
    cases hv with
    | obj hnodup hms =>
      rw [hwrite]
      refine .obj ?_ fun entry hentry => ?_
      · rw [Table.keys, List.map_map]
        exact hnames
      · obtain ⟨m, hm, rfl⟩ := List.mem_map.1 hentry
        -- each member has the room of the record less one level
        have hkind : m.kind.depth ≤ _ := Kind.depth_le_depthOfFields
          (List.mem_map_of_mem (f := fun m : Member ρ => (m.name, m.kind)) hm)
        refine m.storable (hkind.trans (Nat.le_of_succ_le_succ hdepth)) (fun v hget => ?_)
          ((hread _ _).1 hbody m hm)
        exact hms _ (Table.mem_of_get?_eq_some hget)

end Lawful

end Regenesis.Record

import Mathlib
import Regenesis.Proofs.Json.Reading

/-!
# Proofs.Json.Indented — files are read back

The indented form of a value is the row of the same symbols as the compact form, with blanks between
them, and every character of it is ASCII. So a value without doubles in which no object has two
members of one name is read back from its file, however deep it is.

* `parse?_indentedChars` — the file of a value gives the value back;
* `isAscii_indentedChars` — the file of a value is ASCII.
-/

namespace Regenesis.Json

open Token

-- ---------------------------------------------------------------------------
-- Symbols of a file
-- ---------------------------------------------------------------------------

section
variable {maxLength : Option Nat} {style : Style}

/-- Blanks may stand in front of a row. -/
theorem lexes_newLine (depth : Nat) {rest : List Char} {ts : List Token}
    (h : Lexes maxLength rest ts) : Lexes maxLength (newLine depth ++ rest) ts := by
  have hblanks : ∀ k : Nat, Lexes maxLength (List.replicate k ' ' ++ rest) ts := by
    intro k
    induction k with
    | zero => exact h
    | succ k ih => exact .blank (by decide) ih
  exact .blank (by decide) (hblanks (2 * depth))

/-- No number goes on in what follows the items. -/
theorem endsNumber_indentedItems (depth : Nat) (vs : List Json) (rest : List Char) :
    EndsNumber (indentedItems style depth vs ++ rest) := by
  cases vs with
  | nil => exact endsNumber_cons (by decide)
  | cons v vs => exact endsNumber_cons (by decide)

/-- No number goes on in what follows the members. -/
theorem endsNumber_indentedMembers (depth : Nat) (ms : List (String × Json)) (rest : List Char) :
    EndsNumber (indentedMembers style depth ms ++ rest) := by
  cases ms with
  | nil => exact endsNumber_cons (by decide)
  | cons m ms => exact endsNumber_cons (by decide)

mutual

/-- An indented value is the row of its symbols, in front of anything that ends a number. -/
theorem lexes_indentedChars (hstyle : ReadsBack style.char) (depth : Nat) :
    ∀ v : Json, v.allNumbers (isShort maxLength) (fun _ => false) = true →
      ∀ {rest : List Char} {ts : List Token}, EndsNumber rest → Lexes maxLength rest ts →
        Lexes maxLength (indentedChars style depth v ++ rest) (symbols v ++ ts)
  | .null, _, _, _, _, h => lexes_append (by decide) rfl h
  | .bool true, _, _, _, _, h => lexes_append (by decide) rfl h
  | .bool false, _, _, _, _, h => lexes_append (by decide) rfl h
  | .int n, hv, _, _, hrest, h => lexes_int hv hrest h
  | .float _, hv, _, _, _, _ => nomatch hv
  | .str s, _, _, _, _, h => lexes_text hstyle s h
  | .arr [], _, rest, ts, _, h => lexes_mark (by decide) rfl (lexes_mark (by decide) rfl h)
  | .arr (v :: vs), hv, rest, ts, _, h => by
    rw [allNumbers, allNumbersInItems, Bool.and_eq_true] at hv
    have hitems := lexes_indentedItems hstyle depth vs hv.2 h
    have hfirst := lexes_indentedChars hstyle (depth + 1) v hv.1
      (endsNumber_indentedItems depth vs rest) hitems
    rw [indentedChars, symbols_arr_cons]
    simp only [List.cons_append, List.append_assoc]
    exact lexes_mark (by decide) rfl (lexes_newLine (depth + 1) hfirst)
  | .obj [], _, rest, ts, _, h => lexes_mark (by decide) rfl (lexes_mark (by decide) rfl h)
  | .obj ((name, v) :: ms), hv, rest, ts, _, h => by
    rw [allNumbers, allNumbersInMembers, Bool.and_eq_true] at hv
    have hmembers := lexes_indentedMembers hstyle depth ms hv.2 h
    have hfirst := lexes_indentedChars hstyle (depth + 1) v hv.1
      (endsNumber_indentedMembers depth ms rest) hmembers
    have hname := lexes_text hstyle name
      (lexes_mark (c := ':') (by decide) rfl (.blank (c := ' ') (by decide) hfirst))
    rw [indentedChars, symbols_obj_cons]
    simp only [List.cons_append, List.append_assoc]
    exact lexes_mark (by decide) rfl (lexes_newLine (depth + 1) hname)

/-- The indented items of a list are read as their symbols. -/
theorem lexes_indentedItems (hstyle : ReadsBack style.char) (depth : Nat) :
    ∀ vs : List Json, allNumbersInItems (isShort maxLength) (fun _ => false) vs = true →
      ∀ {rest : List Char} {ts : List Token}, Lexes maxLength rest ts →
        Lexes maxLength (indentedItems style depth vs ++ rest) (symbolsOfItems vs ++ ts)
  | [], _, rest, ts, h => by
    rw [indentedItems, List.append_assoc]
    exact lexes_newLine depth (lexes_mark (by decide) rfl h)
  | v :: vs, hv, rest, ts, h => by
    rw [allNumbersInItems, Bool.and_eq_true] at hv
    have hitems := lexes_indentedItems hstyle depth vs hv.2 h
    have hfirst := lexes_indentedChars hstyle (depth + 1) v hv.1
      (endsNumber_indentedItems depth vs rest) hitems
    rw [indentedItems, symbolsOfItems_cons]
    simp only [List.cons_append, List.append_assoc]
    exact lexes_mark (by decide) rfl (lexes_newLine (depth + 1) hfirst)

/-- The indented members of an object are read as their symbols. -/
theorem lexes_indentedMembers (hstyle : ReadsBack style.char) (depth : Nat) :
    ∀ ms : List (String × Json),
      allNumbersInMembers (isShort maxLength) (fun _ => false) ms = true →
      ∀ {rest : List Char} {ts : List Token}, Lexes maxLength rest ts →
        Lexes maxLength (indentedMembers style depth ms ++ rest) (symbolsOfMembers ms ++ ts)
  | [], _, rest, ts, h => by
    rw [indentedMembers, List.append_assoc]
    exact lexes_newLine depth (lexes_mark (by decide) rfl h)
  | (name, v) :: ms, hv, rest, ts, h => by
    rw [allNumbersInMembers, Bool.and_eq_true] at hv
    have hmembers := lexes_indentedMembers hstyle depth ms hv.2 h
    have hfirst := lexes_indentedChars hstyle (depth + 1) v hv.1
      (endsNumber_indentedMembers depth ms rest) hmembers
    have hname := lexes_text hstyle name
      (lexes_mark (c := ':') (by decide) rfl (.blank (c := ' ') (by decide) hfirst))
    rw [indentedMembers, symbolsOfMembers_cons]
    simp only [List.cons_append, List.append_assoc]
    exact lexes_mark (by decide) rfl (lexes_newLine (depth + 1) hname)

end

end

/-- The symbols of a file are found. -/
theorem tokens?_indentedChars {maxLength : Option Nat} {style : Style}
    (hstyle : ReadsBack style.char) (depth : Nat) {v : Json} (hv : isReadable maxLength v = true) :
    tokens? maxLength (indentedChars style depth v) = some (symbols v) := by
  have h := lexes_indentedChars hstyle depth v hv endsNumber_nil Lexes.nil
  rw [List.append_nil, List.append_nil] at h
  exact tokens?_of_lexes h

-- ---------------------------------------------------------------------------
-- Values that are read without limits
-- ---------------------------------------------------------------------------

mutual

/-- Whether no object in a value has two members of one name. -/
def hasOwnNames : Json → Bool
  | .arr items => itemsHaveOwnNames items
  | .obj members => decide (Table.keys members).Nodup && membersHaveOwnNames members
  | .null | .bool _ | .int _ | .float _ | .str _ => true

/-- Whether that holds of each item of a list. -/
def itemsHaveOwnNames : List Json → Bool
  | [] => true
  | v :: rest => hasOwnNames v && itemsHaveOwnNames rest

/-- Whether that holds of the value of each member of an object. -/
def membersHaveOwnNames : Members → Bool
  | [] => true
  | (_, v) :: rest => hasOwnNames v && membersHaveOwnNames rest

end

theorem itemsHaveOwnNames_eq_all (vs : List Json) :
    itemsHaveOwnNames vs = vs.all hasOwnNames := by
  induction vs with
  | nil => rfl
  | cons v vs ih => rw [itemsHaveOwnNames, ih, List.all_cons]

mutual

/-- A value with names of its own fits where no integer is too long and there is room enough. -/
theorem fits_of_hasOwnNames :
    ∀ (v : Json) {room : Nat}, v.hasOwnNames = true → v.depth ≤ room → Fits none room v
  | .null, _ + 1, _, _ => .null
  | .bool b, _ + 1, _, _ => .bool b
  | .int _, _ + 1, _, _ => .int rfl
  | .float x, _ + 1, _, _ => .float x
  | .str s, _ + 1, _, _ => .str s
  | .arr vs, room + 1, hnames, hdepth => by
    rw [hasOwnNames] at hnames
    rw [depth] at hdepth
    exact .arr (fits_of_itemsHaveOwnNames vs hnames (Nat.le_of_succ_le_succ hdepth))
  | .obj ms, room + 1, hnames, hdepth => by
    rw [hasOwnNames, Bool.and_eq_true, decide_eq_true_eq] at hnames
    rw [depth] at hdepth
    exact .obj hnames.1
      (fits_of_membersHaveOwnNames ms hnames.2 (Nat.le_of_succ_le_succ hdepth))

/-- Items with distinct names fit where there is room for their depth. -/
theorem fits_of_itemsHaveOwnNames :
    ∀ (vs : List Json) {room : Nat}, itemsHaveOwnNames vs = true → depthOfItems vs ≤ room →
      ∀ v ∈ vs, Fits none room v
  | [], _, _, _ => List.forall_mem_nil _
  | v :: vs, _, hnames, hdepth => by
    rw [itemsHaveOwnNames, Bool.and_eq_true] at hnames
    rw [depthOfItems, max_le_iff] at hdepth
    exact List.forall_mem_cons.2 ⟨fits_of_hasOwnNames v hnames.1 hdepth.1,
      fits_of_itemsHaveOwnNames vs hnames.2 hdepth.2⟩

/-- Values of members with distinct names fit where there is room for their depth. -/
theorem fits_of_membersHaveOwnNames :
    ∀ (ms : Members) {room : Nat}, membersHaveOwnNames ms = true → depthOfMembers ms ≤ room →
      ∀ m ∈ ms, Fits none room m.2
  | [], _, _, _ => List.forall_mem_nil _
  | (name, v) :: ms, _, hnames, hdepth => by
    rw [membersHaveOwnNames, Bool.and_eq_true] at hnames
    rw [depthOfMembers, max_le_iff] at hdepth
    exact List.forall_mem_cons.2 ⟨fits_of_hasOwnNames v hnames.1 hdepth.1,
      fits_of_membersHaveOwnNames ms hnames.2 hdepth.2⟩

end

/-- **Files.** A value without doubles in which no object has two members of one name is read back
from its indented form by a reader without limits. -/
theorem parse?_indentedChars {style : Style} (hstyle : ReadsBack style.char) (depth : Nat)
    {v : Json} (hnames : v.hasOwnNames = true) (hfloat : v.floatFree = true) :
    parse? .none (indentedChars style depth v) = some v := by
  have hfits : Fits none v.depth v := fits_of_hasOwnNames v hnames le_rfl
  have htokens := tokens?_indentedChars hstyle depth (isReadable_of_fits hfits hfloat)
  exact parse?_of_tokens? hfits (fun d hd => nomatch hd) htokens

-- ---------------------------------------------------------------------------
-- ASCII
-- ---------------------------------------------------------------------------

/-- Whether all characters of a text are ASCII. -/
def IsAscii (cs : List Char) : Prop := ∀ c ∈ cs, c.toNat < 0x80

section
variable {c : Char} {cs ds : List Char}

@[simp]
theorem isAscii_nil : IsAscii [] := List.forall_mem_nil _

@[simp]
theorem isAscii_cons : IsAscii (c :: cs) ↔ c.toNat < 0x80 ∧ IsAscii cs := List.forall_mem_cons

@[simp]
theorem isAscii_append : IsAscii (cs ++ ds) ↔ IsAscii cs ∧ IsAscii ds := List.forall_mem_append

theorem isAscii_hexDigits (width n : Nat) : IsAscii (Text.hexDigits width n) := by
  induction width generalizing n with
  | zero => exact isAscii_nil
  | succ width ih =>
    have hdigit : ∀ d < 16, (Text.hexDigit d).toNat < 0x80 := by decide
    exact isAscii_append.2
      ⟨ih (n / 16), isAscii_cons.2 ⟨hdigit _ (Nat.mod_lt n (by decide)), isAscii_nil⟩⟩

theorem isAscii_escapeUnit (n : Nat) : IsAscii (escapeUnit n) :=
  isAscii_cons.2 ⟨by decide, isAscii_cons.2 ⟨by decide, isAscii_hexDigits 4 n⟩⟩

/-- The letters of the short escapes are ASCII. -/
theorem toNat_shortEscape {e : Char} (h : shortEscapeOf? c = some e) : e.toNat < 0x80 := by
  unfold shortEscapeOf? at h
  split_ifs at h
  all_goals
    rw [← Option.some.inj h]
    decide

/-- A character is written in ASCII, with an escape if it has to be. -/
theorem isAscii_writeCharAscii (c : Char) : IsAscii (writeCharAscii c) := by
  unfold writeCharAscii
  split
  · rename_i e hshort
    exact isAscii_cons.2 ⟨by decide, isAscii_cons.2 ⟨toNat_shortEscape hshort, isAscii_nil⟩⟩
  · split
    · rename_i hprint
      rw [Text.isPrintableAscii, Bool.and_eq_true, decide_eq_true_eq, decide_eq_true_eq] at hprint
      exact isAscii_cons.2 ⟨by omega, isAscii_nil⟩
    · split
      · exact isAscii_escapeUnit _
      · exact isAscii_append.2 ⟨isAscii_escapeUnit _, isAscii_escapeUnit _⟩

/-- A text is written in ASCII. -/
@[simp]
theorem isAscii_text (s : String) : IsAscii (Style.ascii.text s) := by
  have hbody : IsAscii (s.toList.flatMap writeCharAscii) := by
    intro d hd
    obtain ⟨c, -, hc⟩ := List.mem_flatMap.1 hd
    exact isAscii_writeCharAscii c d hc
  have hend : IsAscii ['"'] := isAscii_cons.2 ⟨by decide, isAscii_nil⟩
  exact isAscii_append.2 ⟨isAscii_cons.2 ⟨by decide, hbody⟩, hend⟩

/-- An integer is written in ASCII. -/
theorem isAscii_intDigits (n : Int) : IsAscii (Decimal.intDigits n) := by
  have hdigits : ∀ k : Nat, IsAscii (Decimal.natDigits k) := by
    intro k c hc
    have hbounds := Decimal.isDigit_bounds (Decimal.isDigit_of_mem_natDigits hc)
    omega
  cases n with
  | ofNat n => exact hdigits n
  | negSucc n => exact isAscii_cons.2 ⟨by decide, hdigits (n + 1)⟩

@[simp]
theorem isAscii_newLine (depth : Nat) : IsAscii (newLine depth) := by
  refine isAscii_cons.2 ⟨by decide, fun c hc => ?_⟩
  rw [List.eq_of_mem_replicate hc]
  decide

end

mutual

/-- The file of a value without doubles is ASCII. -/
theorem isAscii_indentedChars (depth : Nat) :
    ∀ v : Json, v.floatFree = true → IsAscii (indentedChars .ascii depth v)
  | .null, _ | .bool true, _ | .bool false, _ | .arr [], _ | .obj [], _ => by
    simp [indentedChars]
  | .int n, _ => isAscii_intDigits n
  | .float _, hv => nomatch hv
  | .str s, _ => isAscii_text s
  | .arr (v :: vs), hv => by
    rw [floatFree, allNumbers, allNumbersInItems, Bool.and_eq_true] at hv
    have hfirst := isAscii_indentedChars (depth + 1) v hv.1
    have hitems := isAscii_indentedItems depth vs hv.2
    simp [indentedChars, hfirst, hitems]
  | .obj ((name, v) :: ms), hv => by
    rw [floatFree, allNumbers, allNumbersInMembers, Bool.and_eq_true] at hv
    have hfirst := isAscii_indentedChars (depth + 1) v hv.1
    have hmembers := isAscii_indentedMembers depth ms hv.2
    simp [indentedChars, hfirst, hmembers]

/-- The items of a list without floats are written in ASCII. -/
theorem isAscii_indentedItems (depth : Nat) :
    ∀ vs : List Json, allNumbersInItems (fun _ => true) (fun _ => false) vs = true →
      IsAscii (indentedItems .ascii depth vs)
  | [], _ => by simp [indentedItems]
  | v :: vs, hv => by
    rw [allNumbersInItems, Bool.and_eq_true] at hv
    have hfirst := isAscii_indentedChars (depth + 1) v hv.1
    have hitems := isAscii_indentedItems depth vs hv.2
    simp [indentedItems, hfirst, hitems]

/-- The members of an object without floats are written in ASCII. -/
theorem isAscii_indentedMembers (depth : Nat) :
    ∀ ms : Members, allNumbersInMembers (fun _ => true) (fun _ => false) ms = true →
      IsAscii (indentedMembers .ascii depth ms)
  | [], _ => by simp [indentedMembers]
  | (name, v) :: ms, hv => by
    rw [allNumbersInMembers, Bool.and_eq_true] at hv
    have hfirst := isAscii_indentedChars (depth + 1) v hv.1
    have hmembers := isAscii_indentedMembers depth ms hv.2
    simp [indentedMembers, hfirst, hmembers]

end

end Regenesis.Json

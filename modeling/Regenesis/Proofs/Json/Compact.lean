import Mathlib
import Regenesis.Proofs.Json.Lexing

/-!
# Proofs.Json.Compact — no two values are written alike

A value without doubles is written as the row of its symbols, and no symbol runs into the next. The
row tells where a value ends, so that values with the same row in front of anything are the same.
Together: `compactChars_injective`.
-/

namespace Regenesis.Json

open Token

-- ---------------------------------------------------------------------------
-- Symbols of a value
-- ---------------------------------------------------------------------------

mutual

/-- The symbols that a value is written as. -/
def symbols : Json → List Token
  | .arr [] => [.openList, .closeList]
  | .arr (v :: rest) => .openList :: symbols v ++ symbolsOfItems rest
  | .obj [] => [.openObject, .closeObject]
  | .obj ((name, v) :: rest) =>
    .openObject :: .scalar (.str name) :: .colon :: symbols v ++ symbolsOfMembers rest
  | .null => [.scalar .null]
  | .bool b => [.scalar (.bool b)]
  | .int n => [.scalar (.int n)]
  | .float x => [.scalar (.float x)]
  | .str s => [.scalar (.str s)]

/-- The symbols of the items of a list behind the first one, and of its end. -/
def symbolsOfItems : List Json → List Token
  | [] => [.closeList]
  | v :: rest => .comma :: symbols v ++ symbolsOfItems rest

/-- The symbols of the members of an object behind the first one, and of its end. -/
def symbolsOfMembers : List (String × Json) → List Token
  | [] => [.closeObject]
  | (name, v) :: rest =>
    .comma :: .scalar (.str name) :: .colon :: symbols v ++ symbolsOfMembers rest

end

theorem symbols_arr_cons (v : Json) (vs : List Json) (ts : List Token) :
    symbols (.arr (v :: vs)) ++ ts =
      .openList :: (symbols v ++ (symbolsOfItems vs ++ ts)) := by
  simp only [symbols, List.cons_append, List.append_assoc]

theorem symbols_obj_cons (m : String × Json) (ms : List (String × Json)) (ts : List Token) :
    symbols (.obj (m :: ms)) ++ ts =
      .openObject :: .scalar (.str m.1) :: .colon ::
        (symbols m.2 ++ (symbolsOfMembers ms ++ ts)) := by
  simp only [symbols, List.cons_append, List.append_assoc]

theorem symbolsOfItems_cons (v : Json) (vs : List Json) (ts : List Token) :
    symbolsOfItems (v :: vs) ++ ts = .comma :: (symbols v ++ (symbolsOfItems vs ++ ts)) := by
  simp only [symbolsOfItems, List.cons_append, List.append_assoc]

theorem symbolsOfMembers_cons (m : String × Json) (ms : List (String × Json))
    (ts : List Token) :
    symbolsOfMembers (m :: ms) ++ ts =
      .comma :: .scalar (.str m.1) :: .colon ::
        (symbols m.2 ++ (symbolsOfMembers ms ++ ts)) := by
  simp only [symbolsOfMembers, List.cons_append, List.append_assoc]

-- ---------------------------------------------------------------------------
-- Compact form
-- ---------------------------------------------------------------------------

section
variable {maxLength : Option Nat} {style : Style}

/-- Whether a value has no doubles, and no integers with more digits than are read. -/
def isReadable (maxLength : Option Nat) (v : Json) : Bool :=
  v.allNumbers (isShort maxLength) fun _ => false

/-- No number goes on in what follows the items. -/
theorem endsNumber_compactItems (xs : List Json) (rest : List Char) :
    EndsNumber (compactItems style xs ++ rest) := by
  cases xs with
  | nil => exact endsNumber_cons (by decide)
  | cons v xs => exact endsNumber_cons (by decide)

/-- No number goes on in what follows the members. -/
theorem endsNumber_compactMembers (ms : List (String × Json)) (rest : List Char) :
    EndsNumber (compactMembers style ms ++ rest) := by
  cases ms with
  | nil => exact endsNumber_cons (by decide)
  | cons m ms => exact endsNumber_cons (by decide)

mutual

/-- A compact value is the row of its symbols, in front of anything that ends a number. -/
theorem lexes_compactChars (hstyle : ReadsBack style.char) :
    ∀ v : Json, v.allNumbers (isShort maxLength) (fun _ => false) = true →
      ∀ {rest : List Char} {ts : List Token}, EndsNumber rest → Lexes maxLength rest ts →
        Lexes maxLength (compactChars style v ++ rest) (symbols v ++ ts)
  | .null, _, _, _, _, h => lexes_append (by decide) rfl h
  | .bool true, _, _, _, _, h => lexes_append (by decide) rfl h
  | .bool false, _, _, _, _, h => lexes_append (by decide) rfl h
  | .int n, hv, _, _, hrest, h => lexes_int hv hrest h
  | .float _, hv, _, _, _, _ => nomatch hv
  | .str s, _, _, _, _, h => lexes_text hstyle s h
  | .arr [], _, rest, ts, _, h => lexes_mark (by decide) rfl (lexes_mark (by decide) rfl h)
  | .arr (v :: xs), hv, rest, ts, _, h => by
    rw [allNumbers, allNumbersInItems, Bool.and_eq_true] at hv
    have hitems := lexes_compactItems hstyle xs hv.2 h
    have hfirst := lexes_compactChars hstyle v hv.1 (endsNumber_compactItems xs rest) hitems
    rw [compactChars, symbols_arr_cons, List.append_assoc]
    exact lexes_mark (by decide) rfl hfirst
  | .obj [], _, rest, ts, _, h => lexes_mark (by decide) rfl (lexes_mark (by decide) rfl h)
  | .obj ((name, v) :: ms), hv, rest, ts, _, h => by
    rw [allNumbers, allNumbersInMembers, Bool.and_eq_true] at hv
    have hmembers := lexes_compactMembers hstyle ms hv.2 h
    have hfirst := lexes_compactChars hstyle v hv.1 (endsNumber_compactMembers ms rest) hmembers
    have hname := lexes_text hstyle name (lexes_mark (c := ':') (by decide) rfl hfirst)
    rw [compactChars, symbols_obj_cons]
    simp only [List.cons_append, List.append_assoc]
    exact lexes_mark (by decide) rfl hname

/-- The compact items of a list are read as their symbols. -/
theorem lexes_compactItems (hstyle : ReadsBack style.char) :
    ∀ xs : List Json, allNumbersInItems (isShort maxLength) (fun _ => false) xs = true →
      ∀ {rest : List Char} {ts : List Token}, Lexes maxLength rest ts →
        Lexes maxLength (compactItems style xs ++ rest) (symbolsOfItems xs ++ ts)
  | [], _, _, _, h => lexes_mark (by decide) rfl h
  | v :: xs, hv, rest, ts, h => by
    rw [allNumbersInItems, Bool.and_eq_true] at hv
    have hitems := lexes_compactItems hstyle xs hv.2 h
    have hfirst := lexes_compactChars hstyle v hv.1 (endsNumber_compactItems xs rest) hitems
    rw [compactItems, symbolsOfItems_cons, List.append_assoc]
    exact lexes_mark (by decide) rfl hfirst

/-- The compact members of an object are read as their symbols. -/
theorem lexes_compactMembers (hstyle : ReadsBack style.char) :
    ∀ ms : List (String × Json),
      allNumbersInMembers (isShort maxLength) (fun _ => false) ms = true →
      ∀ {rest : List Char} {ts : List Token}, Lexes maxLength rest ts →
        Lexes maxLength (compactMembers style ms ++ rest) (symbolsOfMembers ms ++ ts)
  | [], _, _, _, h => lexes_mark (by decide) rfl h
  | (name, v) :: ms, hv, rest, ts, h => by
    rw [allNumbersInMembers, Bool.and_eq_true] at hv
    have hmembers := lexes_compactMembers hstyle ms hv.2 h
    have hfirst := lexes_compactChars hstyle v hv.1 (endsNumber_compactMembers ms rest) hmembers
    have hname := lexes_text hstyle name (lexes_mark (c := ':') (by decide) rfl hfirst)
    rw [compactMembers, symbolsOfMembers_cons]
    simp only [List.cons_append, List.append_assoc]
    exact lexes_mark (by decide) rfl hname

end

end

-- ---------------------------------------------------------------------------
-- Values of one row
-- ---------------------------------------------------------------------------

/-- A row that begins with a scalar is that of the scalar. -/
theorem symbols_eq_scalar_cons {v w : Json} {ts us : List Token}
    (h : symbols w ++ us = .scalar v :: ts) : w = v ∧ us = ts := by
  rcases w with _ | _ | _ | _ | _ | (_ | _) | (_ | ⟨⟨_, _⟩, _⟩)
  case arr.nil | arr.cons | obj.nil | obj.cons => exact nomatch (List.cons.inj h).1
  all_goals
    obtain ⟨hhead, hrest⟩ := List.cons.inj h
    exact ⟨Token.scalar.inj hhead, hrest⟩

/-- Only a list begins with an opening bracket. -/
theorem symbols_eq_openList_cons {w : Json} {ts us : List Token}
    (h : symbols w ++ us = .openList :: ts) : ∃ items, w = .arr items := by
  rcases w with _ | _ | _ | _ | _ | items | (_ | ⟨⟨_, _⟩, _⟩)
  case arr => exact ⟨items, rfl⟩
  all_goals exact nomatch (List.cons.inj h).1

/-- Only an object begins with an opening brace. -/
theorem symbols_eq_openObject_cons {w : Json} {ts us : List Token}
    (h : symbols w ++ us = .openObject :: ts) : ∃ members, w = .obj members := by
  rcases w with _ | _ | _ | _ | _ | (_ | _) | members
  case obj => exact ⟨members, rfl⟩
  all_goals exact nomatch (List.cons.inj h).1

/-- No value begins with the end of a list. -/
theorem symbols_ne_closeList_cons (v : Json) (ts us : List Token) :
    symbols v ++ ts ≠ .closeList :: us := by
  intro h
  rcases v with _ | _ | _ | _ | _ | (_ | _) | (_ | ⟨⟨_, _⟩, _⟩)
  all_goals exact nomatch (List.cons.inj h).1

mutual

/-- A row of symbols tells its value and where the value ends. -/
theorem symbols_append_inj :
    ∀ (v w : Json) {ts us : List Token}, symbols v ++ ts = symbols w ++ us → v = w ∧ ts = us
  | .null, w, ts, us, h => (symbols_eq_scalar_cons h.symm).imp Eq.symm Eq.symm
  | .bool b, w, ts, us, h => (symbols_eq_scalar_cons h.symm).imp Eq.symm Eq.symm
  | .int n, w, ts, us, h => (symbols_eq_scalar_cons h.symm).imp Eq.symm Eq.symm
  | .float x, w, ts, us, h => (symbols_eq_scalar_cons h.symm).imp Eq.symm Eq.symm
  | .str s, w, ts, us, h => (symbols_eq_scalar_cons h.symm).imp Eq.symm Eq.symm
  | .arr [], w, ts, us, h => by
    obtain ⟨items, rfl⟩ := symbols_eq_openList_cons h.symm
    cases items with
    | nil => exact ⟨rfl, (List.cons.inj (List.cons.inj h).2).2⟩
    | cons w ws =>
      rw [symbols_arr_cons] at h
      -- a list with an item does not close where the empty list does
      exact absurd (List.cons.inj h).2.symm (symbols_ne_closeList_cons w _ ts)
  | .arr (v :: vs), w, ts, us, h => by
    rw [symbols_arr_cons] at h
    obtain ⟨items, rfl⟩ := symbols_eq_openList_cons h.symm
    cases items with
    | nil => exact absurd (List.cons.inj h).2 (symbols_ne_closeList_cons v _ us)
    | cons w ws =>
      rw [symbols_arr_cons] at h
      -- the first items agree, and so do the symbols behind them
      obtain ⟨hitem, hrest⟩ := symbols_append_inj v w (List.cons.inj h).2
      obtain ⟨hitems, htail⟩ := symbolsOfItems_append_inj vs ws hrest
      exact ⟨by rw [hitem, hitems], htail⟩
  | .obj [], w, ts, us, h => by
    obtain ⟨members, rfl⟩ := symbols_eq_openObject_cons h.symm
    cases members with
    | nil => exact ⟨rfl, (List.cons.inj (List.cons.inj h).2).2⟩
    | cons m ms => exact nomatch (List.cons.inj (List.cons.inj h).2).1
  | .obj ((name, v) :: ms), w, ts, us, h => by
    rw [symbols_obj_cons] at h
    obtain ⟨members, rfl⟩ := symbols_eq_openObject_cons h.symm
    cases members with
    | nil => exact nomatch (List.cons.inj (List.cons.inj h).2).1
    | cons m ns =>
      rw [symbols_obj_cons] at h
      obtain ⟨hname, hvalue⟩ := List.cons.inj (List.cons.inj h).2
      -- the names agree, then the values, then what is behind them
      obtain ⟨hmember, hrest⟩ := symbols_append_inj v m.2 (List.cons.inj hvalue).2
      obtain ⟨hmembers, htail⟩ := symbolsOfMembers_append_inj ms ns hrest
      have hfirst : (name, v) = m := Prod.ext (Json.str.inj (Token.scalar.inj hname)) hmember
      exact ⟨by rw [hfirst, hmembers], htail⟩

/-- Items are told by their symbols, whatever follows. -/
theorem symbolsOfItems_append_inj :
    ∀ (vs ws : List Json) {ts us : List Token},
      symbolsOfItems vs ++ ts = symbolsOfItems ws ++ us → vs = ws ∧ ts = us
  | [], [], _, _, h => ⟨rfl, (List.cons.inj h).2⟩
  | [], _ :: _, _, _, h => nomatch (List.cons.inj h).1
  | _ :: _, [], _, _, h => nomatch (List.cons.inj h).1
  | v :: vs, w :: ws, ts, us, h => by
    rw [symbolsOfItems_cons, symbolsOfItems_cons] at h
    obtain ⟨hitem, hrest⟩ := symbols_append_inj v w (List.cons.inj h).2
    obtain ⟨hitems, htail⟩ := symbolsOfItems_append_inj vs ws hrest
    exact ⟨by rw [hitem, hitems], htail⟩

/-- Members are told by their symbols, whatever follows. -/
theorem symbolsOfMembers_append_inj :
    ∀ (ms ns : List (String × Json)) {ts us : List Token},
      symbolsOfMembers ms ++ ts = symbolsOfMembers ns ++ us → ms = ns ∧ ts = us
  | [], [], _, _, h => ⟨rfl, (List.cons.inj h).2⟩
  | [], _ :: _, _, _, h => nomatch (List.cons.inj h).1
  | _ :: _, [], _, _, h => nomatch (List.cons.inj h).1
  | (name, v) :: ms, m :: ns, ts, us, h => by
    rw [symbolsOfMembers_cons, symbolsOfMembers_cons] at h
    obtain ⟨hname, hvalue⟩ := List.cons.inj (List.cons.inj h).2
    obtain ⟨hmember, hrest⟩ := symbols_append_inj v m.2 (List.cons.inj hvalue).2
    obtain ⟨hmembers, htail⟩ := symbolsOfMembers_append_inj ms ns hrest
    have hfirst : (name, v) = m := Prod.ext (Json.str.inj (Token.scalar.inj hname)) hmember
    exact ⟨by rw [hfirst, hmembers], htail⟩

end

-- ---------------------------------------------------------------------------
-- Injectivity
-- ---------------------------------------------------------------------------

/-- Values never share their symbols. -/
theorem symbols_injective {v w : Json} (h : symbols v = symbols w) : v = w := by
  have happend : symbols v ++ [] = symbols w ++ [] := by rw [h]
  exact (symbols_append_inj v w happend).1

/-- The symbols of a compact value are found. -/
theorem tokens?_compactChars {maxLength : Option Nat} {style : Style}
    (hstyle : ReadsBack style.char) {v : Json} (hv : isReadable maxLength v = true) :
    tokens? maxLength (compactChars style v) = some (symbols v) := by
  have h := lexes_compactChars hstyle v hv endsNumber_nil Lexes.nil
  rw [List.append_nil, List.append_nil] at h
  exact tokens?_of_lexes h

/-- **Injectivity.** Two values without doubles are never written alike. -/
theorem compactChars_injective {style : Style} (hstyle : ReadsBack style.char) {v w : Json}
    (hv : v.floatFree = true) (hw : w.floatFree = true)
    (h : compactChars style v = compactChars style w) : v = w := by
  have hreadV : tokens? none (compactChars style v) = some (symbols v) :=
    tokens?_compactChars hstyle hv
  have hreadW : tokens? none (compactChars style w) = some (symbols w) :=
    tokens?_compactChars hstyle hw
  rw [h, hreadW] at hreadV
  exact symbols_injective (Option.some.inj hreadV).symm

end Regenesis.Json

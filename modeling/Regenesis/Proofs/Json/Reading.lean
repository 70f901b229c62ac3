import Mathlib
import Regenesis.Json.Reader
import Regenesis.Proofs.Json.Canonical
import Regenesis.Proofs.Table

/-!
# Proofs.Json.Reading — what a reader makes of a text

A reader limits the digits of integers and the containers around a value, and keeps one member of
each name. `Fits` says of a value that it respects these limits, at a place that leaves room for so
many values inside one another.

* `fits_of_parse?` — every value that is read fits: an invariant of the open containers says so of
  the parts that are complete, and each symbol keeps the invariant;
* `parse?_compactChars` — every value that fits, and has no doubles, is read back from its compact
  form: after the symbols of a value the reader is where completing the value would bring it.
-/

namespace Regenesis.Json

open Token

-- ---------------------------------------------------------------------------
-- Values within limits
-- ---------------------------------------------------------------------------

/-- Whether integers are short, the members of each object have names of their own, and no more
than `room` values are inside one another. -/
inductive Fits (maxLength : Option Nat) : Nat → Json → Prop where
  | null {room : Nat} : Fits maxLength (room + 1) .null
  | bool {room : Nat} (b : Bool) : Fits maxLength (room + 1) (.bool b)
  | int {room : Nat} {n : Int} :
      isShort maxLength n = true → Fits maxLength (room + 1) (.int n)
  | float {room : Nat} (x : Binary64) : Fits maxLength (room + 1) (.float x)
  | str {room : Nat} (s : String) : Fits maxLength (room + 1) (.str s)
  | arr {room : Nat} {items : List Json} :
      (∀ v ∈ items, Fits maxLength room v) → Fits maxLength (room + 1) (.arr items)
  | obj {room : Nat} {members : List (String × Json)} :
      (Table.keys members).Nodup → (∀ m ∈ members, Fits maxLength room m.2) →
      Fits maxLength (room + 1) (.obj members)

section
variable {maxLength : Option Nat} {v : Json} {room : Nat}

@[simp]
theorem fits_bool (b : Bool) : Fits maxLength (room + 1) (.bool b) := .bool b

@[simp]
theorem fits_str (s : String) : Fits maxLength (room + 1) (.str s) := .str s

/-- An integer fits wherever there is room, if it is short enough. -/
@[simp]
theorem fits_int {n : Int} : Fits maxLength (room + 1) (.int n) ↔ isShort maxLength n = true :=
  ⟨fun h => by cases h; assumption, .int⟩

/-- A list fits if its items fit into what is left of the room. -/
@[simp]
theorem fits_arr {items : List Json} :
    Fits maxLength (room + 1) (.arr items) ↔ ∀ v ∈ items, Fits maxLength room v :=
  ⟨fun h => by cases h; assumption, .arr⟩

/-- An object fits if its names are distinct and its values fit into what is left of the room. -/
@[simp]
theorem fits_obj {members : List (String × Json)} :
    Fits maxLength (room + 1) (.obj members) ↔
      (Table.keys members).Nodup ∧ ∀ m ∈ members, Fits maxLength room m.2 :=
  ⟨fun h => by cases h; exact ⟨‹_›, ‹_›⟩, fun h => .obj h.1 h.2⟩

/-- Short integers are all that a value without doubles needs to be found again. -/
theorem isReadable_of_fits (h : Fits maxLength room v) (hfloat : v.floatFree = true) :
    isReadable maxLength v = true := by
  rw [isReadable]
  rw [floatFree] at hfloat
  induction h with
  | null | bool | str => rfl
  | int hshort => exact hshort
  | float x => exact absurd hfloat Bool.false_ne_true
  | arr _ ih =>
    rw [allNumbers, allNumbersInItems_eq_all, List.all_eq_true] at hfloat ⊢
    exact fun v hv => ih v hv (hfloat v hv)
  | obj _ _ ih =>
    rw [allNumbers, allNumbersInMembers_eq_all, List.all_eq_true] at hfloat ⊢
    exact fun m hm => ih m hm (hfloat m hm)

end

-- ---------------------------------------------------------------------------
-- Reading the symbols of a value
-- ---------------------------------------------------------------------------

section
variable {limits : Limits} {maxLength : Option Nat}

/-- A run begins with the step of its first token. -/
theorem run_cons {s : State} (s' : State) {t : Token} (h : s.step limits t = some s')
    (ts : List Token) : State.run limits s (t :: ts) = State.run limits s' ts := by
  rw [State.run, h]

/-- Whether the reader still takes `room` values inside one another, behind open containers. -/
def HasRoom (limits : Limits) (stack : List Frame) (room : Nat) : Prop :=
  ∀ d, limits.depth = some d → stack.length + room ≤ d + 1

/-- One level further inside there is one level less room. -/
theorem HasRoom.inside {stack : List Frame} {room : Nat} (h : HasRoom limits stack (room + 1))
    (f : Frame) : HasRoom limits (f :: stack) room := by
  intro d hd
  have hroom := h d hd
  rw [List.length_cons]
  omega

/-- A value may begin where there is room for one. -/
theorem run_value {stack : List Frame} {room : Nat} (h : HasRoom limits stack (room + 1))
    {t : Token} (s' : State) (hbegin : State.begin .none stack t = some s') (ts : List Token) :
    State.run limits (.value stack) (t :: ts) = State.run limits s' ts := by
  have hdepth : ¬ limits.depth.any (· < stack.length) = true := by
    rw [Option.any_eq_true]
    rintro ⟨d, hd, hlt⟩
    have hroom := h d hd
    rw [decide_eq_true_eq] at hlt
    omega
  have hsame : State.begin limits stack t = State.begin .none stack t := by
    unfold State.begin
    rw [if_neg hdepth]
    rfl
  exact run_cons (s := .value stack) s' (hsame.trans hbegin) ts

/-- The first item of a list begins like any other. -/
theorem run_listStart (v : Json) (stack : List Frame) (ts : List Token) :
    State.run limits (.listStart stack) (symbols v ++ ts) =
      State.run limits (.value (.list [] :: stack)) (symbols v ++ ts) := by
  rcases v with _ | _ | _ | _ | _ | (_ | _) | (_ | ⟨⟨_, _⟩, _⟩)
  all_goals rfl

/-- Whether the symbols of a value bring the reader where completing the value would. -/
def RunsTo (limits : Limits) (room : Nat) (v : Json) : Prop :=
  ∀ (stack : List Frame) (ts : List Token), HasRoom limits stack room →
    State.run limits (.value stack) (symbols v ++ ts) = State.run limits (.complete v stack) ts

/-- The symbols of items that are read back complete the list that is open. -/
theorem run_symbolsOfItems {room : Nat} {items : List Json}
    (hitems : ∀ v ∈ items, RunsTo limits room v) {stack : List Frame}
    (hroom : HasRoom limits stack (room + 1)) (done : List Json) (ts : List Token) :
    State.run limits (.listNext done stack) (symbolsOfItems items ++ ts) =
      State.run limits (.complete (.arr (done.reverse ++ items)) stack) ts := by
  induction items generalizing done with
  | nil =>
    rw [List.append_nil]
    exact run_cons _ rfl ts
  | cons v rest ih =>
    have hv := hitems v List.mem_cons_self
    have hrest := ih (fun w hw => hitems w (List.mem_cons_of_mem v hw)) (v :: done)
    rw [symbolsOfItems_cons, run_cons (.value (.list done :: stack)) rfl,
      hv _ _ (hroom.inside _)]
    rw [List.reverse_cons, List.append_assoc, List.singleton_append] at hrest
    exact hrest

/-- The symbols of members that are read back complete the object that is open. -/
theorem run_symbolsOfMembers {room : Nat} {members : List (String × Json)}
    (hmembers : ∀ m ∈ members, RunsTo limits room m.2) {stack : List Frame}
    (hroom : HasRoom limits stack (room + 1)) (done : List (String × Json)) (ts : List Token) :
    State.run limits (.objectNext done stack) (symbolsOfMembers members ++ ts) =
      State.run limits (.complete (.obj (Table.ofEntries (done.reverse ++ members))) stack) ts := by
  induction members generalizing done with
  | nil =>
    rw [List.append_nil]
    exact run_cons _ rfl ts
  | cons m rest ih =>
    have hm := hmembers m List.mem_cons_self
    have hrest := ih (fun n hn => hmembers n (List.mem_cons_of_mem m hn)) (m :: done)
    rw [symbolsOfMembers_cons, run_cons (.nextName done stack) rfl,
      run_cons (.colon done m.1 stack) rfl,
      run_cons (.value (.object done m.1 :: stack)) rfl, hm _ _ (hroom.inside _)]
    rw [List.reverse_cons, List.append_assoc, List.singleton_append] at hrest
    exact hrest

/-- What fits is read back from its symbols, by induction on the room. -/
theorem runsTo_of_fits {room : Nat} {v : Json} (h : Fits maxLength room v) :
    RunsTo limits room v := by
  induction h with
  | null | bool | int | float | str =>
    intro stack ts hroom
    exact run_value hroom _ rfl ts
  | @arr room items _ ih =>
    intro stack ts hroom
    cases items with
    | nil => exact (run_value hroom (.listStart stack) rfl _).trans (run_cons _ rfl ts)
    | cons v rest =>
      -- the first item stands behind the bracket, each other one behind a comma
      have hv := ih v List.mem_cons_self
      have hrest := fun w hw => ih w (List.mem_cons_of_mem v hw)
      rw [symbols_arr_cons, run_value hroom (.listStart stack) rfl, run_listStart,
        hv _ _ (hroom.inside _)]
      exact run_symbolsOfItems hrest hroom [v] ts
  | @obj room members hnodup _ ih =>
    intro stack ts hroom
    cases members with
    | nil => exact (run_value hroom (.objectStart stack) rfl _).trans (run_cons _ rfl ts)
    | cons m rest =>
      have hm := ih m List.mem_cons_self
      have hrest := fun n hn => ih n (List.mem_cons_of_mem m hn)
      have hmembers := run_symbolsOfMembers hrest hroom [m] ts
      -- names are distinct, so the table of the members is the members
      rw [List.reverse_singleton, List.singleton_append, Table.ofEntries_eq_self hnodup]
        at hmembers
      rw [symbols_obj_cons, run_value hroom (.objectStart stack) rfl,
        run_cons (.colon [] m.1 stack) rfl,
        run_cons (.value (.object [] m.1 :: stack)) rfl, hm _ _ (hroom.inside _)]
      exact hmembers

/-- The symbols of a value that is within the limits of the reader are read as the value. -/
theorem parse?_of_tokens? {room : Nat} {v : Json} {cs : List Char}
    (h : Fits maxLength room v) (hroom : HasRoom limits [] room)
    (htokens : tokens? limits.numberLength cs = some (symbols v)) :
    parse? limits cs = some v := by
  have hrun := runsTo_of_fits h [] [] hroom
  rw [List.append_nil] at hrun
  rw [parse?, htokens, Option.bind_eq_bind, Option.bind_some, ofTokens?, hrun]
  rfl

/-- **Reading back.** A value without doubles that is within the limits of the reader is read from
its compact form. -/
theorem parse?_compactChars {style : Style} (hstyle : ReadsBack style.char) {room : Nat} {v : Json}
    (h : Fits limits.numberLength room v) (hroom : HasRoom limits [] room)
    (hfloat : v.floatFree = true) : parse? limits (compactChars style v) = some v :=
  parse?_of_tokens? h hroom (tokens?_compactChars hstyle (isReadable_of_fits h hfloat))

end

-- ---------------------------------------------------------------------------
-- Scalars that are read
-- ---------------------------------------------------------------------------

section
variable {maxLength : Option Nat} {cs rest : List Char}

/-- The whole part of a number has a digit at least, and nothing but digits. -/
theorem wholePart?_eq_some {whole : List Char} (h : wholePart? cs = some (whole, rest)) :
    whole ≠ [] ∧ ∀ c ∈ whole, c.isDigit = true := by
  unfold wholePart? at h
  split at h
  · obtain ⟨rfl, -⟩ := Prod.mk.inj (Option.some.inj h)
    exact ⟨List.cons_ne_nil _ _, fun c hc => List.mem_singleton.1 hc ▸ rfl⟩
  · split at h
    · exact nomatch h
    · rename_i hne
      rw [List.span_eq_takeWhile_dropWhile] at h
      obtain ⟨rfl, -⟩ := Prod.mk.inj (Option.some.inj h)
      exact ⟨fun hnil => hne (by rw [hnil]; rfl), fun c hc => List.mem_takeWhile_imp hc⟩

/-- Digits stand for a number that has no more digits, whatever its sign. -/
theorem isShort_of_isDigit {ds : List Char} (hne : ds ≠ []) (hds : ∀ d ∈ ds, d.isDigit = true)
    (hlength : maxLength.any (· < ds.length) = false) (negative : Bool) :
    isShort maxLength (if negative then -(digitsValue ds : Int) else digitsValue ds) = true := by
  have hvalues : ∀ d ∈ ds.map digitValue, d < 10 := by
    intro d hd
    obtain ⟨c, hc, rfl⟩ := List.mem_map.1 hd
    have hbounds := Decimal.isDigit_bounds (hds c hc)
    rw [digitValue, show '0'.toNat = 48 from rfl]
    omega
  -- leading zeros only make the text longer than the number
  have hvalue : (Decimal.natDigits (digitsValue ds)).length ≤ ds.length := by
    have hle := Decimal.length_natDigits_valueFrom_le
      (fun hnil => hne (List.map_eq_nil_iff.1 hnil)) hvalues
    rwa [List.length_map] at hle
  have habs : (if negative then -(digitsValue ds : Int) else digitsValue ds).natAbs =
      digitsValue ds := by
    cases negative
    · exact Int.natAbs_natCast _
    · exact (Int.natAbs_neg _).trans (Int.natAbs_natCast _)
  rw [isShort, habs, Bool.not_eq_true', ← Bool.not_eq_true, Option.any_eq_true]
  rw [← Bool.not_eq_true, Option.any_eq_true] at hlength
  rintro ⟨limit, hlimit, hlt⟩
  rw [decide_eq_true_eq] at hlt
  exact hlength ⟨limit, hlimit, decide_eq_true (Nat.lt_of_lt_of_le hlt hvalue)⟩

/-- A number that is read fits. -/
theorem fits_of_number? {negative : Bool} {v : Json} {room : Nat}
    (h : number? maxLength negative cs = some (v, rest)) : Fits maxLength (room + 1) v := by
  rw [number?] at h
  simp only [Option.bind_eq_bind, Option.bind_eq_some_iff] at h
  obtain ⟨⟨whole, rest'⟩, hwhole, h⟩ := h
  dsimp only at h
  split at h
  · cases h
  · rename_i hlength
    obtain ⟨⟨fraction, rest''⟩, -, h⟩ := Option.bind_eq_some_iff.1 h
    obtain ⟨⟨exponent, rest'''⟩, -, h⟩ := Option.bind_eq_some_iff.1 h
    dsimp only at h
    split at h
    · obtain ⟨hne, hdigits⟩ := wholePart?_eq_some hwhole
      obtain ⟨rfl, -⟩ := Prod.mk.inj (Option.some.inj h)
      rw [Bool.not_eq_true] at hlength
      exact .int (isShort_of_isDigit hne hdigits hlength negative)
    · obtain ⟨rfl, -⟩ := Prod.mk.inj (Option.some.inj h)
      exact .float _

/-- The value that a word stands for fits. -/
theorem fits_of_word? {v : Json} {room : Nat} (h : word? cs = some (v, rest)) :
    Fits maxLength (room + 1) v := by
  obtain ⟨⟨w, v'⟩, hmem, hword⟩ := List.exists_of_findSome?_eq_some h
  obtain ⟨tail, -, heq⟩ := Option.map_eq_some_iff.1 hword
  obtain ⟨rfl, -⟩ := Prod.mk.inj heq
  simp only [words, List.mem_cons, Prod.mk.injEq, List.not_mem_nil, or_false] at hmem
  rcases hmem with ⟨-, rfl⟩ | ⟨-, rfl⟩ | ⟨-, rfl⟩ | ⟨-, rfl⟩ | ⟨-, rfl⟩ | ⟨-, rfl⟩
  · exact .null
  · exact .bool true
  · exact .bool false
  all_goals exact .float _

theorem fits_of_first? {v : Json} {room : Nat} (h : first? maxLength cs = some (.scalar v, rest)) :
    Fits maxLength (room + 1) v := by
  unfold first? at h
  split at h
  case h_8 =>
    obtain ⟨_, -, heq⟩ := Option.map_eq_some_iff.1 h
    rw [← Token.scalar.inj (Prod.mk.inj heq).1]
    exact .str _
  case h_9 =>
    split at h
    · rename_i hword
      rw [← Token.scalar.inj (Prod.mk.inj (Option.some.inj h)).1]
      exact fits_of_word? hword
    · obtain ⟨⟨w, rest'⟩, hnumber, heq⟩ := Option.map_eq_some_iff.1 h
      rw [← Token.scalar.inj (Prod.mk.inj heq).1]
      split at hnumber
      · exact fits_of_number? hnumber
      · exact fits_of_number? hnumber
  all_goals exact nomatch h

/-- Every scalar among the tokens of a text fits. -/
theorem fits_of_mem_tokensWithin {fuel : Nat} {ts : List Token} {v : Json} {room : Nat}
    (h : tokensWithin maxLength fuel cs = some ts) (hv : .scalar v ∈ ts) :
    Fits maxLength (room + 1) v := by
  fun_induction tokensWithin maxLength fuel cs generalizing ts with
  | case1 =>
    rw [← Option.some.inj h] at hv
    exact nomatch hv
  | case2 => exact nomatch h
  | case3 fuel c cs _ ih => exact ih h hv
  | case4 fuel c cs _ ih =>
    obtain ⟨⟨t, rest⟩, hfirst, h⟩ := Option.bind_eq_some_iff.1 h
    obtain ⟨ts', hts', h⟩ := Option.bind_eq_some_iff.1 h
    rw [← Option.some.inj h] at hv
    rcases List.mem_cons.1 hv with rfl | hv
    · exact fits_of_first? hfirst
    · exact ih rest hts' hv

end

-- ---------------------------------------------------------------------------
-- Values that are read
-- ---------------------------------------------------------------------------

section
variable {limits : Limits} {maxLength : Option Nat} {depth room : Nat}

/-- Whether the complete parts of open containers fit, where `room` is left behind them, of one more
than `depth` in all. -/
inductive Open (maxLength : Option Nat) (depth : Nat) : Nat → List Frame → Prop where
  | nil : Open maxLength depth (depth + 1) []
  | list {room : Nat} {done : List Json} {stack : List Frame} :
      Open maxLength depth (room + 1) stack → (∀ v ∈ done, Fits maxLength room v) →
      Open maxLength depth room (.list done :: stack)
  | object {room : Nat} {done : List (String × Json)} {name : String} {stack : List Frame} :
      Open maxLength depth (room + 1) stack → (∀ m ∈ done, Fits maxLength room m.2) →
      Open maxLength depth room (.object done name :: stack)

/-- What is left of the room and what is open make up the depth. -/
theorem Open.room_add_length {stack : List Frame} (h : Open maxLength depth room stack) :
    room + stack.length = depth + 1 := by
  induction h with
  | nil => rfl
  | list _ _ ih | object _ _ ih =>
    rw [List.length_cons]
    omega

/-- What a reader keeps true: all that is complete fits. -/
def State.Sound (maxLength : Option Nat) (depth : Nat) : State → Prop
  | .value stack => ∃ room, Open maxLength depth room stack
  | .listStart stack | .objectStart stack => ∃ room, Open maxLength depth (room + 1) stack
  | .listNext done stack => ∃ room, Open maxLength depth room (.list done :: stack)
  | .nextName done stack | .objectNext done stack =>
    ∃ room, ∀ name, Open maxLength depth room (.object done name :: stack)
  | .colon done name stack => ∃ room, Open maxLength depth room (.object done name :: stack)
  | .finished v => Fits maxLength (depth + 1) v

/-- A value that fits leaves a sound state when it is complete. -/
theorem sound_complete {v : Json} {stack : List Frame} (hv : Fits maxLength room v)
    (hstack : Open maxLength depth room stack) :
    (State.complete v stack).Sound maxLength depth := by
  cases hstack with
  | nil => exact hv
  | list hstack hdone => exact ⟨room, .list hstack (List.forall_mem_cons.2 ⟨hv, hdone⟩)⟩
  | object hstack hdone =>
    exact ⟨room, fun _ => .object hstack (List.forall_mem_cons.2 ⟨hv, hdone⟩)⟩

/-- A value begins in a sound state, whatever its first token. -/
theorem sound_begin {stack : List Frame} {t : Token} {s' : State}
    (hdepth : limits.depth = some depth) (hstack : Open maxLength depth room stack)
    (ht : ∀ v, t = .scalar v → ∀ room, Fits maxLength (room + 1) v)
    (h : State.begin limits stack t = some s') : s'.Sound maxLength depth := by
  unfold State.begin at h
  rw [hdepth, Option.any_some] at h
  split at h
  · exact nomatch h
  · rename_i hshallow
    rw [decide_eq_true_eq] at hshallow
    -- a place that is not too deep has room for a value
    obtain ⟨room, rfl⟩ : ∃ r, room = r + 1 := by
      have hroom := hstack.room_add_length
      exact ⟨room - 1, by omega⟩
    split at h
    · rw [← Option.some.inj h]
      exact sound_complete (ht _ rfl room) hstack
    · rw [← Option.some.inj h]
      exact ⟨room, hstack⟩
    · rw [← Option.some.inj h]
      exact ⟨room, hstack⟩
    · exact nomatch h

/-- **Step.** Each symbol keeps what is complete within the limits. -/
theorem sound_step {s s' : State} {t : Token} (hdepth : limits.depth = some depth)
    (hs : s.Sound maxLength depth) (ht : ∀ v, t = .scalar v → ∀ room, Fits maxLength (room + 1) v)
    (h : s.step limits t = some s') : s'.Sound maxLength depth := by
  unfold State.step at h
  split at h
  -- a value begins: at the top, or as the first item of a list
  case h_1 stack t =>
    obtain ⟨room, hstack⟩ := hs
    exact sound_begin hdepth hstack ht h
  case h_2 stack =>
    obtain ⟨room, hstack⟩ := hs
    rw [← Option.some.inj h]
    exact sound_complete (.arr (List.forall_mem_nil _)) hstack
  case h_3 stack t _ =>
    obtain ⟨room, hstack⟩ := hs
    exact sound_begin hdepth (.list hstack (List.forall_mem_nil _)) ht h
  case h_4 done stack =>
    rw [← Option.some.inj h]
    exact hs
  -- the list is closed: its items fitted one level further inside
  case h_5 done stack =>
    obtain ⟨room, hframe⟩ := hs
    rw [← Option.some.inj h]
    cases hframe with
    | list hstack hdone =>
      exact sound_complete (.arr fun v hv => hdone v (List.mem_reverse.1 hv)) hstack
  case h_6 stack =>
    obtain ⟨room, hstack⟩ := hs
    rw [← Option.some.inj h]
    exact sound_complete (.obj List.nodup_nil (List.forall_mem_nil _)) hstack
  case h_7 stack name =>
    obtain ⟨room, hstack⟩ := hs
    rw [← Option.some.inj h]
    exact ⟨room, .object hstack (List.forall_mem_nil _)⟩
  -- the name behind a comma opens the next member
  case h_8 done stack name =>
    obtain ⟨room, hframe⟩ := hs
    rw [← Option.some.inj h]
    exact ⟨room, hframe name⟩
  case h_9 done name stack =>
    rw [← Option.some.inj h]
    exact hs
  case h_10 done stack =>
    rw [← Option.some.inj h]
    exact hs
  case h_11 done stack =>
    obtain ⟨room, hframe⟩ := hs
    rw [← Option.some.inj h]
    -- the frame holds under any name, so also without one
    cases hframe "" with
    | object hstack hdone =>
      refine sound_complete (.obj (Table.nodup_keys_ofEntries _) fun m hm => ?_) hstack
      exact hdone m (List.mem_reverse.1 (Table.mem_of_mem_ofEntries hm))
  case h_12 => exact nomatch h

/-- **Run.** So does a row of symbols. -/
theorem sound_run {s s' : State} {ts : List Token} (hdepth : limits.depth = some depth)
    (hs : s.Sound maxLength depth)
    (hts : ∀ v, .scalar v ∈ ts → ∀ room, Fits maxLength (room + 1) v)
    (h : State.run limits s ts = some s') : s'.Sound maxLength depth := by
  induction ts generalizing s with
  | nil =>
    rw [← Option.some.inj h]
    exact hs
  | cons t ts ih =>
    rw [State.run] at h
    split at h
    · exact nomatch h
    · rename_i s₁ hstep
      have hs₁ : s₁.Sound maxLength depth :=
        sound_step hdepth hs (fun v hv => hts v (hv ▸ List.mem_cons_self)) hstep
      exact ih hs₁ (fun v hv => hts v (List.mem_cons_of_mem t hv)) h

/-- **What is read.** A value that is read is within the limits of the reader. -/
theorem fits_of_parse? {cs : List Char} {v : Json} (hdepth : limits.depth = some depth)
    (h : parse? limits cs = some v) : Fits limits.numberLength (depth + 1) v := by
  obtain ⟨ts, htokens, hvalue⟩ := Option.bind_eq_some_iff.1 h
  have hts : ∀ w, .scalar w ∈ ts → ∀ room, Fits limits.numberLength (room + 1) w :=
    fun w hw room => fits_of_mem_tokensWithin htokens hw
  unfold ofTokens? at hvalue
  split at hvalue
  · rename_i w hrun
    have hstart : (State.value []).Sound limits.numberLength depth := ⟨depth + 1, .nil⟩
    have hsound := sound_run hdepth hstart hts hrun
    rw [← Option.some.inj hvalue]
    exact hsound
  · exact nomatch hvalue

end

-- ---------------------------------------------------------------------------
-- Stored records
-- ---------------------------------------------------------------------------

/-- Whether a value is within the limits for stored records, at a place with so much room. -/
abbrev Storable (room : Nat) (v : Json) : Prop := Fits (some Decimal.maxDigits) room v

/-- What is read from stored bytes can be stored. -/
theorem storable_of_ofOctets? {value : Octets} {v : Json}
    (h : ofOctets? .stored value = some v) : Storable 201 v := by
  obtain ⟨s, -, hparse⟩ := Option.bind_eq_some_iff.1 h
  have hdepth : Limits.stored.depth = some 200 := rfl
  exact fits_of_parse? hdepth hparse

/-- A storable value without doubles is read back. -/
theorem ofOctets?_stored {v : Json} (h : Storable 201 v) (hfloat : v.floatFree = true) :
    ofOctets? .stored (Octets.ofText (stored v)) = some v := by
  have hroom : HasRoom .stored [] 201 := fun d hd => Option.some.inj hd ▸ le_rfl
  have hparse : parse? .stored (compactChars .stored v) = some v :=
    parse?_compactChars readsBack_writeChar h hroom hfloat
  rw [ofOctets?, Octets.toText?_ofText, Option.bind_eq_bind, Option.bind_some, stored,
    String.toList_ofList]
  exact hparse

end Regenesis.Json

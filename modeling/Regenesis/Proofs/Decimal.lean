import Mathlib
import Regenesis.Failure
import Regenesis.Proofs.Outcome

/-!
# Proofs.Decimal — decimal notation is read back

The digits of a natural number are ASCII digits, and their value is the number. A row of decimal
digits of any scripts that is not too long is a numeral of its value; digits that are not decimal
end the row, and what is left then is no number, since no digit is a blank. So reading the notation
of an integer gives the integer, as long as it has few enough digits to be written at all; and two
integers never share their notation. Integers are printed together if each of them can be written.

* `Decimal.readText_eq_ok_iff` — a text of digits is read exactly if it is a numeral.
* `Decimal.read_ofInt` — an integer is read from its notation.
-/

namespace Regenesis

-- ---------------------------------------------------------------------------
-- Characters
-- ---------------------------------------------------------------------------

namespace Text

variable {c : Char}

/-- Only digits have a value. -/
theorem isDigit_of_decimalValue {d : Nat} (h : decimalValue? c = some d) : isDigit c = true := by
  rw [isDigit, h]
  rfl

/-- The value of a digit is less than ten. -/
theorem decimalValue_lt {d : Nat} (h : decimalValue? c = some d) : d < 10 := by
  obtain ⟨z, hz, rfl⟩ := Option.map_eq_some_iff.1 h
  have hrun := List.find?_some hz
  rw [Bool.and_eq_true, decide_eq_true_eq, decide_eq_true_eq] at hrun
  omega

/-- The code points of white space. -/
def blankPoints : List Nat :=
  [9, 10, 11, 12, 13, 32, 0x85, 0xA0, 0x1680, 0x2000, 0x2001, 0x2002, 0x2003, 0x2004, 0x2005,
    0x2006, 0x2007, 0x2008, 0x2009, 0x200A, 0x2028, 0x2029, 0x202F, 0x205F, 0x3000]

theorem mem_blankPoints (h : isBlank c = true) : c.toNat ∈ blankPoints := by
  simp only [isBlank, isAsciiBlank, blankRanges, List.any_cons, List.any_nil, Bool.or_eq_true,
    Bool.and_eq_true, beq_iff_eq, decide_eq_true_eq, Bool.or_false] at h
  simp only [blankPoints, List.mem_cons, List.not_mem_nil, or_false]
  omega

/-- No digit is a blank, although both kinds reach beyond ASCII. -/
theorem not_isBlank_of_isDigit (h : isDigit c = true) : isBlank c = false := by
  have hblank : ∀ n ∈ blankPoints, isDigit (Char.ofNat n) = false := by decide +kernel
  by_contra hc
  rw [Bool.not_eq_false] at hc
  have hnone := hblank c.toNat (mem_blankPoints hc)
  rw [Char.ofNat_toNat, h] at hnone
  exact nomatch hnone

/-- Signs, points and underscores are no digits. -/
theorem ne_of_isDigit (h : isDigit c = true) : c ≠ '-' ∧ c ≠ '+' ∧ c ≠ '.' ∧ c ≠ '_' := by
  refine ⟨?_, ?_, ?_, ?_⟩
  all_goals
    rintro rfl
    exact absurd h (by decide +kernel)

end Text

namespace Decimal

-- ---------------------------------------------------------------------------
-- Digits
-- ---------------------------------------------------------------------------

theorem isDigit_of_mem_natDigits {n : Nat} {c : Char} (h : c ∈ natDigits n) :
    c.isDigit = true :=
  Nat.isDigit_of_mem_toDigits (by omega) (by omega) h

theorem natDigits_ne_nil (n : Nat) : natDigits n ≠ [] := Nat.toDigits_ne_nil

/-- The code points of the ASCII digits. -/
theorem isDigit_bounds {c : Char} (h : c.isDigit = true) : 48 ≤ c.toNat ∧ c.toNat ≤ 57 := by
  simp only [Char.isDigit, Bool.and_eq_true, decide_eq_true_eq, ge_iff_le, UInt32.le_iff_toNat_le]
    at h
  exact h

/-- The number that the digits of a natural number stand for. -/
theorem valueFrom_natDigits (n : Nat) :
    valueFrom 0 ((natDigits n).map fun c => c.toNat - '0'.toNat) = n := by
  have h : valueFrom 0 ((natDigits n).map fun c => c.toNat - '0'.toNat) =
      Nat.ofDigitChars 10 (Nat.toDigits 10 n) 0 := by
    simp only [valueFrom, natDigits, Nat.ofDigitChars, List.foldl_map, Nat.mul_comm 10]
  rw [h, Nat.ofDigitChars_ten_toDigits]

/-- Natural numbers never share their digits. -/
theorem natDigits_injective {m n : Nat} (h : natDigits m = natDigits n) : m = n := by
  rw [← valueFrom_natDigits m, h, valueFrom_natDigits]

/-- A greater number does not have fewer digits. -/
theorem length_natDigits_le_of_le {m n : Nat} (h : m ≤ n) :
    (natDigits m).length ≤ (natDigits n).length := by
  have hpos : 0 < (natDigits n).length := Nat.length_toDigits_pos
  refine (Nat.length_toDigits_le_iff (by omega) hpos).2 (lt_of_le_of_lt h ?_)
  exact (Nat.length_toDigits_le_iff (by omega) hpos).1 le_rfl

/-- Digits stand for a number that has no more digits. -/
theorem valueFrom_lt {ds : List Nat} (h : ∀ d ∈ ds, d < 10) : valueFrom 0 ds < 10 ^ ds.length := by
  induction ds using List.reverseRecOn with
  | nil => exact Nat.one_pos
  | append_singleton ds d ih =>
    have hhead := ih fun x hx => h x (List.mem_append_left _ hx)
    have hlast := h d (List.mem_append_right _ List.mem_cons_self)
    have hstep : valueFrom 0 (ds ++ [d]) = valueFrom 0 ds * 10 + d := by
      rw [valueFrom, List.foldl_append]
      rfl
    rw [hstep, List.length_append, List.length_singleton, Nat.pow_succ]
    omega

/-- A numeral has at least as many digits as the number that it stands for. -/
theorem length_natDigits_valueFrom_le {ds : List Nat} (hne : ds ≠ []) (h : ∀ d ∈ ds, d < 10) :
    (natDigits (valueFrom 0 ds)).length ≤ ds.length :=
  (Nat.length_toDigits_le_iff (by omega) (List.length_pos_iff.2 hne)).2 (valueFrom_lt h)

/-- An integer can be written if its value is below ten to the number of digits that are allowed. -/
theorem fits_iff {n : Int} : fits n = true ↔ n.natAbs < 10 ^ maxDigits := by
  rw [fits, decide_eq_true_eq, natDigits,
    Nat.length_toDigits_le_iff (by omega) (by rw [maxDigits]; omega)]

/-- From `10 ^ maxDigits` on, a number cannot be written. -/
theorem fits_eq_false {n : Int} (h : 10 ^ maxDigits ≤ n.natAbs) : fits n = false := by
  rw [← Bool.not_eq_true, fits_iff]
  exact Nat.not_lt.2 h

/-- Whatever its sign, a number can be written if one that is no smaller can. -/
theorem fits_of_natAbs_le {m n : Int} (hle : m.natAbs ≤ n.natAbs) (h : fits n = true) :
    fits m = true := by
  rw [fits, decide_eq_true_eq] at h ⊢
  exact le_trans (length_natDigits_le_of_le hle) h

/-- A number can be written if a greater one can. -/
theorem fits_of_le {m n : Int} (hm : 0 ≤ m) (hle : m ≤ n) (h : fits n = true) : fits m = true :=
  fits_of_natAbs_le (by omega) h

-- ---------------------------------------------------------------------------
-- Numerals
-- ---------------------------------------------------------------------------

/-- Whether a row of decimal digits, of any scripts and not too long, stands for a number. -/
def IsNumeral (cs : List Char) (n : Nat) : Prop :=
  cs ≠ [] ∧ cs.length ≤ maxDigits ∧
    ∃ ds, cs.mapM Text.decimalValue? = some ds ∧ valueFrom 0 ds = n

variable {cs : List Char} {n : Nat}

/-- Characters that all have a value are digits, and their values are less than ten. -/
theorem values_of_mapM {ds : List Nat} (h : cs.mapM Text.decimalValue? = some ds) :
    ds.length = cs.length ∧ (∀ d ∈ ds, d < 10) ∧ ∀ c ∈ cs, Text.isDigit c = true := by
  induction cs generalizing ds with
  | nil =>
    obtain rfl := Option.some.inj h
    exact ⟨rfl, nofun, nofun⟩
  | cons c rest ih =>
    rw [List.mapM_cons, Option.bind_eq_bind, Option.bind_eq_some_iff] at h
    obtain ⟨d, hd, h⟩ := h
    obtain ⟨ds, hds, h⟩ := Option.bind_eq_some_iff.1 h
    obtain rfl := Option.some.inj h
    obtain ⟨hlength, hlt, hdigits⟩ := ih hds
    exact ⟨by rw [List.length_cons, List.length_cons, hlength],
      List.forall_mem_cons.2 ⟨Text.decimalValue_lt hd, hlt⟩,
      List.forall_mem_cons.2 ⟨Text.isDigit_of_decimalValue hd, hdigits⟩⟩

theorem ne_nil_of_mapM {ds : List Nat} (hne : cs ≠ []) (h : cs.mapM Text.decimalValue? = some ds) :
    ds ≠ [] := by
  rw [← List.length_pos_iff, (values_of_mapM h).1]
  exact List.length_pos_iff.2 hne

/-- A numeral is made of digits. -/
theorem IsNumeral.isDigit (h : IsNumeral cs n) : ∀ c ∈ cs, Text.isDigit c = true := by
  obtain ⟨-, -, ds, hds, -⟩ := h
  exact (values_of_mapM hds).2.2

/-- A number that is stated by a numeral can be written. -/
theorem IsNumeral.fits (h : IsNumeral cs n) : fits n = true := by
  obtain ⟨hne, hlength, ds, hds, rfl⟩ := h
  obtain ⟨hsame, hlt, -⟩ := values_of_mapM hds
  rw [Decimal.fits, decide_eq_true_eq, Int.natAbs_natCast]
  exact (length_natDigits_valueFrom_le (ne_nil_of_mapM hne hds) hlt).trans (hsame.trans_le hlength)

/-- The ASCII digits are the first of the runs of decimal digits. -/
theorem decimalValue_of_isDigit {c : Char} (h : c.isDigit = true) :
    Text.decimalValue? c = some (c.toNat - '0'.toNat) := by
  obtain ⟨hlow, hhigh⟩ := isDigit_bounds h
  have hrun : (decide (0x30 ≤ c.toNat) && decide (c.toNat < 0x30 + 10)) = true := by
    rw [Bool.and_eq_true, decide_eq_true_eq, decide_eq_true_eq]
    omega
  rw [Text.decimalValue?, show Text.zeros = 0x30 :: Text.zeros.tail from rfl, List.find?_cons,
    hrun]
  rfl

/-- The value of an ASCII digit is its distance from the digit zero. -/
theorem mapM_decimalValue_of_isDigit (h : ∀ c ∈ cs, c.isDigit = true) :
    cs.mapM Text.decimalValue? = some (cs.map fun c => c.toNat - '0'.toNat) := by
  induction cs with
  | nil => rfl
  | cons c rest ih =>
    obtain ⟨hc, hrest⟩ := List.forall_mem_cons.1 h
    rw [List.mapM_cons, decimalValue_of_isDigit hc, ih hrest]
    rfl

/-- What a number is written with are digits of the reader. -/
theorem isDigit_natDigits (n : Nat) : ∀ c ∈ natDigits n, Text.isDigit c = true :=
  fun _ hc => Text.isDigit_of_decimalValue (decimalValue_of_isDigit (isDigit_of_mem_natDigits hc))

/-- The notation of a number that can be written is a numeral of it. -/
theorem isNumeral_natDigits (h : fits n = true) : IsNumeral (natDigits n) n := by
  rw [fits, decide_eq_true_eq, Int.natAbs_natCast] at h
  exact ⟨natDigits_ne_nil n, h, _,
    mapM_decimalValue_of_isDigit fun c => isDigit_of_mem_natDigits, valueFrom_natDigits n⟩

-- ---------------------------------------------------------------------------
-- Reading
-- ---------------------------------------------------------------------------

/-- A row of digits is read up to the first that is not decimal. -/
theorem digitRun_of_digits (h : ∀ c ∈ cs, Text.isDigit c = true) :
    ∃ ds rest, digitRun cs = some (ds, rest) ∧
      (rest = [] ∧ cs.mapM Text.decimalValue? = some ds ∨
        (∃ c ∈ rest, Text.isBlank c = false) ∧ cs.mapM Text.decimalValue? = none) := by
  induction cs with
  | nil => exact ⟨[], [], rfl, Or.inl ⟨rfl, rfl⟩⟩
  | cons c rest ih =>
    obtain ⟨hc, hrest⟩ := List.forall_mem_cons.1 h
    have hunderscore := (Text.ne_of_isDigit hc).2.2.2
    cases hvalue : Text.decimalValue? c with
    | none =>
      -- a digit that has no decimal value ends the run, and what is left of the text is no blank
      have hstop : digitRun (c :: rest) = some ([], c :: rest) := by
        rw [digitRun, hvalue]
        · exact if_neg (by simpa using hunderscore)
        · exact fun _ _ hcons => absurd hcons hunderscore
      refine ⟨[], c :: rest, hstop, Or.inr ⟨⟨c, List.mem_cons_self, ?_⟩, ?_⟩⟩
      · exact Text.not_isBlank_of_isDigit hc
      · rw [List.mapM_cons, hvalue]
        rfl
    | some d =>
      obtain ⟨ds, tail, hrun, hcases⟩ := ih hrest
      have hgo : digitRun (c :: rest) = some (d :: ds, tail) := by
        rw [digitRun, hvalue, hrun]
        · rfl
        · exact fun _ _ hcons => absurd hcons hunderscore
      refine ⟨d :: ds, tail, hgo, ?_⟩
      rw [List.mapM_cons, hvalue]
      rcases hcases with ⟨rfl, hds⟩ | ⟨hblank, hnone⟩
      · exact Or.inl ⟨rfl, by rw [hds]; rfl⟩
      · exact Or.inr ⟨hblank, by rw [hnone]; rfl⟩

/-- A text of digits is taken as it is: there is no blank and no sign to take off. -/
theorem takeSign_of_digits (h : ∀ c ∈ cs, Text.isDigit c = true) :
    takeSign (cs.dropWhile Text.isBlank) = (false, cs) := by
  cases cs with
  | nil => rfl
  | cons c rest =>
    have hc := h c List.mem_cons_self
    obtain ⟨hminus, hplus, -⟩ := Text.ne_of_isDigit hc
    rw [List.dropWhile_cons_of_neg (by rw [Text.not_isBlank_of_isDigit hc]; decide)]
    unfold takeSign
    split
    · rename_i hcons
      exact absurd (List.cons.inj hcons).1 hminus
    · rename_i hcons
      exact absurd (List.cons.inj hcons).1 hplus
    · rfl

/-- What is read is decided by the digits behind the sign and by what stands behind them. -/
theorem read_of_takeSign {s : String} {negative : Bool} {ds : List Nat} {rest : List Char}
    (hne : cs ≠ []) (h : ∀ c ∈ cs, Text.isDigit c = true)
    (hsign : takeSign (s.toList.dropWhile Text.isBlank) = (negative, cs))
    (hrun : digitRun cs = some (ds, rest)) :
    read s = if maxDigits < ds.length then .error (.tooManyDigits ds.length)
      else if ds.isEmpty || !rest.all Text.isBlank then .error (.notInteger s)
      else .ok (if negative then -(valueFrom 0 ds : Int) else valueFrom 0 ds) := by
  obtain ⟨c, tail, rfl⟩ := List.exists_cons_of_ne_nil hne
  have hunderscore := (Text.ne_of_isDigit (h c List.mem_cons_self)).2.2.2
  rw [read, hsign]
  dsimp only
  split
  · rename_i hnil
    cases hnil
  · rename_i hcons
    exact absurd (List.cons.inj hcons).1 hunderscore
  · rw [hrun]

/-- A numeral is read, whatever the sign in front of it, which must have been taken off. -/
theorem read_of_isNumeral {s : String} {negative : Bool} (h : IsNumeral cs n)
    (hsign : takeSign (s.toList.dropWhile Text.isBlank) = (negative, cs)) :
    read s = .ok (if negative then -(n : Int) else n) := by
  obtain ⟨ds, rest, hrun, hcases⟩ := digitRun_of_digits h.isDigit
  have hread := read_of_takeSign h.1 h.isDigit hsign hrun
  obtain ⟨hne, hlength, ds', hds', rfl⟩ := h
  obtain ⟨rfl, hds⟩ | ⟨-, hnone⟩ := hcases
  · obtain rfl := Option.some.inj (hds.symm.trans hds')
    obtain ⟨hsame, -, -⟩ := values_of_mapM hds
    have hempty := List.isEmpty_eq_false_iff.2 (ne_nil_of_mapM hne hds)
    simpa [hempty, Nat.not_lt.2 (hsame.trans_le hlength)] using hread
  · cases hnone.symm.trans hds'

/-- **Numerals.** A text of digits is read exactly if it is the numeral of a number. -/
theorem readText_eq_ok_iff {s : String} {k : Int} (hne : s.toList ≠ [])
    (h : ∀ c ∈ s.toList, Text.isDigit c = true) :
    readText s = .ok k ↔ ∃ n : Nat, IsNumeral s.toList n ∧ k = n := by
  constructor
  · intro hk
    obtain ⟨ds, rest, hrun, hcases⟩ := digitRun_of_digits h
    rw [readText, read_of_takeSign hne h (takeSign_of_digits h) hrun] at hk
    by_cases hmany : maxDigits < ds.length
    · rw [if_pos hmany] at hk
      cases hk
    rw [if_neg hmany] at hk
    rcases hcases with ⟨rfl, hds⟩ | ⟨⟨c, hc, hblank⟩, -⟩
    · obtain ⟨hsame, -, -⟩ := values_of_mapM hds
      rw [List.isEmpty_eq_false_iff.2 (ne_nil_of_mapM hne hds)] at hk
      exact ⟨_, ⟨hne, hsame ▸ Nat.not_lt.1 hmany, ds, hds, rfl⟩, (Except.ok.inj hk).symm⟩
    · -- a digit that is not decimal is no blank either
      have hall : rest.all Text.isBlank = false :=
        List.all_eq_false.2 ⟨c, hc, by rw [hblank]; decide⟩
      rw [hall, Bool.not_false, Bool.or_true, if_pos rfl] at hk
      cases hk
  · rintro ⟨n, hn, rfl⟩
    rw [readText, read_of_isNumeral hn (takeSign_of_digits h)]
    rfl

/-- A text that is no integer is a fault of the value. -/
theorem failsWithin_readText (s : String) :
    Outcome.FailsWithin (fun e => ∃ fault, e = .value fault) (readText s) := by
  rw [readText]
  split
  · exact .ok _
  · exact .error ⟨_, rfl⟩

/-- The notation of an integer is the digits of its value, behind a minus sign if it is negative. -/
theorem takeSign_ofInt (n : Int) : takeSign ((ofInt n).toList.dropWhile Text.isBlank) =
    (decide (n < 0), natDigits n.natAbs) := by
  cases n with
  | ofNat n =>
    rw [ofInt, String.toList_ofList]
    exact takeSign_of_digits (isDigit_natDigits n)
  | negSucc n =>
    rw [ofInt, String.toList_ofList, intDigits, List.dropWhile_cons_of_neg (by decide),
      decide_eq_true (Int.negSucc_lt_zero n)]
    rfl

/-- Reading the notation of an integer gives the integer. -/
theorem read_ofInt {n : Int} (h : fits n = true) : read (ofInt n) = .ok n := by
  have hvalue : fits n.natAbs = true := fits_of_natAbs_le (Int.natAbs_natCast _).le h
  rw [read_of_isNumeral (isNumeral_natDigits hvalue) (takeSign_ofInt n)]
  by_cases hneg : n < 0
  · rw [decide_eq_true hneg, if_pos rfl, Int.ofNat_natAbs_of_nonpos hneg.le, neg_neg]
  · rw [decide_eq_false hneg, if_neg Bool.false_ne_true,
      Int.natAbs_of_nonneg (Int.not_lt.1 hneg)]

/-- The notation of an integer with too many digits is not read. -/
theorem read_ofInt_of_not_fits {n : Int} (h : fits n = false) :
    read (ofInt n) = .error (.tooManyDigits (natDigits n.natAbs).length) := by
  obtain ⟨ds, rest, hrun, hcases⟩ := digitRun_of_digits (isDigit_natDigits n.natAbs)
  have hvalues := mapM_decimalValue_of_isDigit fun c => isDigit_of_mem_natDigits (n := n.natAbs)
  obtain ⟨-, hds⟩ | ⟨-, hnone⟩ := hcases
  · have hlength := (values_of_mapM hds).1
    rw [fits, decide_eq_false_iff_not, not_le, ← hlength] at h
    rw [read_of_takeSign (natDigits_ne_nil _) (isDigit_natDigits _) (takeSign_ofInt n) hrun,
      if_pos h, hlength]
  · cases hvalues.symm.trans hnone

/-- An integer is read from its notation. -/
theorem readText_ofInt {n : Int} (h : fits n = true) : readText (ofInt n) = .ok n := by
  rw [readText, read_ofInt h]

/-- Nothing but the integer is read of its notation, and that only if it is not too long. -/
theorem readText_ofInt_eq_ok {n k : Int} : readText (ofInt n) = .ok k ↔ fits n = true ∧ k = n := by
  cases h : fits n with
  | true =>
    rw [readText_ofInt h]
    exact ⟨fun hk => ⟨rfl, (Except.ok.inj hk).symm⟩, fun hk => hk.2 ▸ rfl⟩
  | false =>
    rw [readText, read_ofInt_of_not_fits h]
    exact iff_of_false nofun fun hk => nomatch hk.1

/-- The digits of a run are decimal. -/
theorem lt_of_mem_digitRun {cs : List Char} {ds : List Nat} {rest : List Char}
    (h : digitRun cs = some (ds, rest)) : ∀ d ∈ ds, d < 10 := by
  fun_induction digitRun cs generalizing ds with
  | case1 =>
    obtain ⟨rfl, -⟩ := Prod.mk.inj (Option.some.inj h)
    exact nofun
  | case2 | case4 => exact nomatch h
  | case5 =>
    obtain ⟨rfl, -⟩ := Prod.mk.inj (Option.some.inj h)
    exact nofun
  | case3 c rest d hvalue ih =>
    obtain ⟨⟨tail, _⟩, hrun, htail⟩ := Option.map_eq_some_iff.1 h
    obtain ⟨rfl, rfl⟩ := Prod.mk.inj htail
    exact List.forall_mem_cons.2 ⟨Text.decimalValue_lt hvalue, ih hrun⟩
  | case6 c rest _ d hvalue ih =>
    obtain ⟨⟨tail, _⟩, hrun, htail⟩ := Option.map_eq_some_iff.1 h
    obtain ⟨rfl, rfl⟩ := Prod.mk.inj htail
    exact List.forall_mem_cons.2 ⟨Text.decimalValue_lt hvalue, ih hrun⟩

/-- What is read can be written. -/
theorem fits_of_read {s : String} {k : Int} (h : read s = .ok k) : fits k = true := by
  unfold read at h
  dsimp only at h
  split at h
  · exact nomatch h
  · exact nomatch h
  · split at h
    · exact nomatch h
    · rename_i ds rest hrun
      split at h
      · exact nomatch h
      · rename_i hmany
        split at h
        · exact nomatch h
        · rename_i hclean
          -- the digits were counted before they were read, so the number has no more than that
          have hne : ds ≠ [] := fun hnil => hclean (by rw [hnil]; rfl)
          have hvalue : fits (valueFrom 0 ds : Nat) = true := by
            rw [fits, decide_eq_true_eq, Int.natAbs_natCast]
            exact (length_natDigits_valueFrom_le hne (lt_of_mem_digitRun hrun)).trans
              (Nat.not_lt.1 hmany)
          refine fits_of_natAbs_le ?_ hvalue
          rw [← Except.ok.inj h]
          split
          · exact (Int.natAbs_neg _).le
          · exact le_rfl

/-- What can be read can be written. -/
theorem fits_of_readText {s : String} {k : Int} (h : readText s = .ok k) : fits k = true := by
  rw [readText] at h
  split at h
  · rename_i hread
    exact fits_of_read (hread.trans (congrArg _ (Except.ok.inj h)))
  · exact nomatch h

-- ---------------------------------------------------------------------------
-- Writing
-- ---------------------------------------------------------------------------

/-- An integer is written if it has few enough digits, and then in decimal notation. -/
theorem writeText_eq_ok {n : Int} {s : String} :
    writeText n = .ok s ↔ fits n = true ∧ s = ofInt n := by
  rw [writeText, write]
  by_cases h : fits n = true
  · simp [h, eq_comm]
  · simp [h]

theorem writeText_of_fits {n : Int} (h : fits n = true) : writeText n = .ok (ofInt n) :=
  writeText_eq_ok.2 ⟨h, rfl⟩

/-- An integer with too many digits is not written. -/
theorem writeText_of_not_fits {n : Int} (h : fits n = false) :
    writeText n = .error (.value (.integer .tooLarge)) := by
  rw [writeText, write, h]
  rfl

/-- What is written of an integer is read as the integer. -/
theorem readText_of_writeText {n : Int} {s : String} (h : writeText n = .ok s) :
    readText s = .ok n := by
  obtain ⟨hfits, rfl⟩ := writeText_eq_ok.1 h
  exact readText_ofInt hfits

/-- An integer is not written only if it has too many digits. -/
theorem failsWithin_writeText {P : Failure → Prop} {n : Int}
    (h : fits n = false → P (.value (.integer .tooLarge))) :
    Outcome.FailsWithin P (writeText n) := by
  rw [writeText, write]
  cases hfits : fits n with
  | true => exact .ok _
  | false => exact .error (h hfits)

-- ---------------------------------------------------------------------------
-- Printing
-- ---------------------------------------------------------------------------

section
variable {ns : List Int}

/-- Printing fails only where one of the integers has too many digits. -/
theorem failsWithin_print {P : Failure → Prop}
    (h : ∀ n ∈ ns, fits n = false → P (.value (.integer .tooLarge))) :
    Outcome.FailsWithin P (print ns) :=
  Outcome.FailsWithin.bind (.mapM fun n hn => failsWithin_writeText (h n hn)) fun _ _ => .ok ()

/-- Integers are printed if each of them has few enough digits. -/
theorem print_of_fits (h : ∀ n ∈ ns, fits n = true) : print ns = .ok () := by
  rw [print, Outcome.mapM_eq_map fun n hn => writeText_of_fits (h n hn)]
  rfl

/-- One integer with too many digits keeps all from being printed. -/
theorem print_of_not_fits {n : Int} (hn : n ∈ ns) (h : fits n = false) :
    print ns = .error (.value (.integer .tooLarge)) := by
  have hfails : Outcome.FailsWithin (· = Failure.value (.integer .tooLarge)) (print ns) :=
    failsWithin_print fun _ _ _ => rfl
  obtain ⟨_, herror, rfl⟩ := hfails.exists_error fun _ hok => by
    obtain ⟨texts, htexts, -⟩ := Outcome.bind_eq_ok.1 hok
    obtain ⟨text, -, htext⟩ := Outcome.exists_of_mem htexts hn
    rw [writeText_of_not_fits h] at htext
    exact nomatch htext
  exact herror

/-- Integers are printed exactly if each of them can be written. -/
theorem print_eq_ok : print ns = .ok () ↔ ∀ n ∈ ns, fits n = true := by
  refine ⟨fun h n hn => ?_, print_of_fits⟩
  by_contra hfits
  rw [print_of_not_fits hn (Bool.eq_false_iff.2 hfits)] at h
  exact nomatch h

end

end Decimal

end Regenesis

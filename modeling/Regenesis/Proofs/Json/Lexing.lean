import Mathlib
import Regenesis.Proofs.Json.Scalars

/-!
# Proofs.Json.Lexing — rows of symbols

A text is the row of its symbols, with blanks between them. `Lexes` says so without a bound on the
length, and `tokens?_of_lexes` that the symbols are then found. A row is built from its end: each
kind of symbol that the writer puts out may stand in front of a row.
-/

namespace Regenesis.Json.Token

-- ---------------------------------------------------------------------------
-- First symbols
-- ---------------------------------------------------------------------------

section
variable {maxLength : Option Nat} {rest : List Char}

/-- A text is read as its token. -/
theorem first?_text {style : Style} (h : ReadsBack style.char) (s : String) :
    first? maxLength (style.text s ++ rest) = some (.scalar (.str s), rest) := by
  have hform : style.text s ++ rest = '"' :: (s.toList.flatMap style.char ++ '"' :: rest) := by
    rw [Style.text, List.cons_append, List.cons_append, List.append_assoc, List.singleton_append]
  rw [hform, first?, textBody_flatMap h]
  simp only [Option.map_some, String.ofList_toList]

theorem expect?_cons_of_ne {e c : Char} (h : e ≠ c) (es cs : List Char) :
    expect? (e :: es) (c :: cs) = none := by
  rw [expect?, if_neg h]

/-- No word begins with a digit. -/
theorem word?_digit {c : Char} (h : c.isDigit = true) (cs : List Char) :
    word? (c :: cs) = none := by
  have hne : ∀ e : Char, e.isDigit = false → e ≠ c := by
    rintro e he rfl
    rw [he] at h
    exact nomatch h
  rw [word?, List.findSome?_eq_none_iff]
  intro w hw
  simp only [words, List.mem_cons, List.not_mem_nil, or_false] at hw
  rcases hw with rfl | rfl | rfl | rfl | rfl | rfl
  all_goals
    refine Option.map_eq_none_iff.2 (expect?_cons_of_ne (hne _ ?_) _ _)
    decide

/-- No word begins with a minus sign and a digit. -/
theorem word?_minus_digit {c : Char} (h : c.isDigit = true) (cs : List Char) :
    word? ('-' :: c :: cs) = none := by
  have hne : 'I' ≠ c := by
    rintro rfl
    exact nomatch h
  rw [word?, List.findSome?_eq_none_iff]
  intro w hw
  simp only [words, List.mem_cons, List.not_mem_nil, or_false] at hw
  rcases hw with rfl | rfl | rfl | rfl | rfl | rfl
  case inr.inr.inr.inr.inr =>
    have hword : "-Infinity".toList = '-' :: 'I' :: "nfinity".toList := by decide
    rw [Option.map_eq_none_iff, hword, expect?, if_pos rfl, expect?_cons_of_ne hne]
  all_goals
    refine Option.map_eq_none_iff.2 (expect?_cons_of_ne ?_ _ _)
    decide

/-- The characters by which a symbol is told at once. -/
def marks : List Char := ['[', ']', '{', '}', ':', ',', '"']

/-- What is not told by its first character is a word or a number. -/
theorem first?_of_not_mem_marks {c : Char} {cs : List Char} (hc : c ∉ marks) :
    first? maxLength (c :: cs) =
      match word? (c :: cs) with
      | some (v, rest) => some (.scalar v, rest)
      | none =>
        (match c :: cs with
          | '-' :: cs => number? maxLength true cs
          | cs => number? maxLength false cs).map fun (v, rest) => (.scalar v, rest) := by
  have hne : ∀ {m : Char} {tail : List Char}, m ∈ marks → c :: cs ≠ m :: tail := by
    intro m tail hm heq
    exact hc ((List.cons.inj heq).1 ▸ hm)
  unfold first?
  split
  case h_1 heq => exact absurd heq (List.cons_ne_nil c cs)
  case h_9 => rfl
  all_goals
    rename_i heq
    exact absurd heq (hne (by decide))

theorem not_mem_marks_of_isDigit {c : Char} (h : c.isDigit = true) : c ∉ marks := by
  intro hc
  simp only [marks, List.mem_cons, List.not_mem_nil, or_false] at hc
  rcases hc with rfl | rfl | rfl | rfl | rfl | rfl | rfl
  all_goals exact nomatch h

/-- An integer is read as its token, if a number ends behind it. -/
theorem first?_int {n : Int}
    (hlength : maxLength.any (· < (Decimal.natDigits n.natAbs).length) = false)
    (hrest : EndsNumber rest) :
    first? maxLength (Decimal.intDigits n ++ rest) = some (.scalar (.int n), rest) := by
  -- the first digit tells a number from a mark or a word
  obtain ⟨d, ds, hds⟩ := List.exists_cons_of_ne_nil (Decimal.natDigits_ne_nil n.natAbs)
  have hd : d.isDigit = true := Decimal.isDigit_of_mem_natDigits (hds ▸ List.mem_cons_self)
  cases n with
  | ofNat n =>
    have hnumber := number?_natDigits hlength false hrest
    have hform : Decimal.intDigits (.ofNat n) = d :: ds := hds
    change Decimal.natDigits n = d :: ds at hds
    change number? maxLength false (Decimal.natDigits n ++ rest) = _ at hnumber
    rw [hform, List.cons_append, first?_of_not_mem_marks (not_mem_marks_of_isDigit hd),
      word?_digit hd]
    dsimp only
    rw [hds, List.cons_append] at hnumber
    split
    · rename_i heq
      rw [(List.cons.inj heq).1] at hd
      exact nomatch hd
    · rw [hnumber]
      rfl
  | negSucc n =>
    have hnumber := number?_natDigits hlength true hrest
    have hform : Decimal.intDigits (.negSucc n) = '-' :: d :: ds := congrArg ('-' :: ·) hds
    change Decimal.natDigits (n + 1) = d :: ds at hds
    change number? maxLength true (Decimal.natDigits (n + 1) ++ rest) = _ at hnumber
    rw [hds, List.cons_append] at hnumber
    rw [hform, List.cons_append, List.cons_append, first?_of_not_mem_marks (by decide),
      word?_minus_digit hd]
    show (number? maxLength true (d :: (ds ++ rest))).map _ = _
    rw [hnumber]
    rfl

end

-- ---------------------------------------------------------------------------
-- Rows of symbols
-- ---------------------------------------------------------------------------

/-- Whether a text is the row of some symbols, with blanks between them. -/
inductive Lexes (maxLength : Option Nat) : List Char → List Token → Prop where
  | nil : Lexes maxLength [] []
  | blank {c : Char} {cs : List Char} {ts : List Token} :
      isSpace c = true → Lexes maxLength cs ts → Lexes maxLength (c :: cs) ts
  | symbol {c : Char} {cs rest : List Char} {t : Token} {ts : List Token} :
      isSpace c = false → first? maxLength (c :: cs) = some (t, rest) →
      rest.length ≤ cs.length → Lexes maxLength rest ts → Lexes maxLength (c :: cs) (t :: ts)

section
variable {maxLength : Option Nat} {style : Style}

/-- Fuel for every character is enough to read all tokens. -/
theorem tokensWithin_of_lexes {cs : List Char} {ts : List Token} (h : Lexes maxLength cs ts)
    {fuel : Nat} (hfuel : cs.length ≤ fuel) : tokensWithin maxLength fuel cs = some ts := by
  induction h generalizing fuel with
  | nil => rw [tokensWithin]
  | @blank c cs ts hspace _ ih =>
    obtain ⟨fuel, rfl⟩ := Nat.exists_eq_add_one.2 (Nat.lt_of_lt_of_le (Nat.succ_pos _) hfuel)
    rw [tokensWithin, if_pos hspace, ih (Nat.le_of_succ_le_succ hfuel)]
  | @symbol c cs rest t ts hspace hfirst hshorter _ ih =>
    obtain ⟨fuel, rfl⟩ := Nat.exists_eq_add_one.2 (Nat.lt_of_lt_of_le (Nat.succ_pos _) hfuel)
    have hrest := ih (hshorter.trans (Nat.le_of_succ_le_succ hfuel))
    rw [tokensWithin, if_neg (by rw [hspace]; decide), hfirst]
    simp only [Option.bind_eq_bind, Option.bind_some, hrest]
    rfl

/-- The symbols of a text are found. -/
theorem tokens?_of_lexes {cs : List Char} {ts : List Token} (h : Lexes maxLength cs ts) :
    tokens? maxLength cs = some ts :=
  tokensWithin_of_lexes h le_rfl

/-- Whether an integer has no more digits than are read. -/
def isShort (maxLength : Option Nat) (n : Int) : Bool :=
  !maxLength.any (· < (Decimal.natDigits n.natAbs).length)

/-- A symbol stands in front of the row of the rest. -/
theorem lexes_append {c : Char} {cs rest : List Char} {t : Token} {ts : List Token}
    (hspace : isSpace c = false) (hfirst : first? maxLength (c :: cs ++ rest) = some (t, rest))
    (h : Lexes maxLength rest ts) : Lexes maxLength (c :: cs ++ rest) (t :: ts) := by
  refine .symbol hspace hfirst ?_ h
  show rest.length ≤ (cs ++ rest).length
  rw [List.length_append]
  omega

/-- A bracket, a brace, a colon or a comma. -/
theorem lexes_mark {c : Char} {rest : List Char} {t : Token} {ts : List Token}
    (hspace : isSpace c = false) (hfirst : first? maxLength (c :: rest) = some (t, rest))
    (h : Lexes maxLength rest ts) : Lexes maxLength (c :: rest) (t :: ts) :=
  .symbol hspace hfirst le_rfl h

/-- A text in front is one token more. -/
theorem lexes_text (hstyle : ReadsBack style.char) (s : String) {rest : List Char}
    {ts : List Token} (h : Lexes maxLength rest ts) :
    Lexes maxLength (style.text s ++ rest) (.scalar (.str s) :: ts) :=
  lexes_append (by decide) (first?_text hstyle s) h

theorem isSpace_of_isDigit {c : Char} (h : c.isDigit = true) : isSpace c = false := by
  rw [isSpace, decide_eq_false_iff_not]
  rintro (rfl | rfl | rfl | rfl)
  all_goals exact nomatch h

/-- An integer in front is one token more. -/
theorem lexes_int {n : Int} (hshort : isShort maxLength n = true) {rest : List Char}
    {ts : List Token} (hrest : EndsNumber rest) (h : Lexes maxLength rest ts) :
    Lexes maxLength (Decimal.intDigits n ++ rest) (.scalar (.int n) :: ts) := by
  have hfirst : first? maxLength (Decimal.intDigits n ++ rest) = some (.scalar (.int n), rest) :=
    first?_int (by rwa [isShort, Bool.not_eq_true'] at hshort) hrest
  have hhead : ∃ c cs, Decimal.intDigits n = c :: cs ∧ isSpace c = false := by
    cases n with
    | ofNat n =>
      obtain ⟨d, ds, hds⟩ := List.exists_cons_of_ne_nil (Decimal.natDigits_ne_nil n)
      have hd : d.isDigit = true := Decimal.isDigit_of_mem_natDigits (hds ▸ List.mem_cons_self)
      exact ⟨d, ds, hds, isSpace_of_isDigit hd⟩
    | negSucc n => exact ⟨'-', _, rfl, by decide⟩
  obtain ⟨c, cs, hform, hspace⟩ := hhead
  rw [hform] at hfirst ⊢
  exact lexes_append hspace hfirst h

end

end Regenesis.Json.Token

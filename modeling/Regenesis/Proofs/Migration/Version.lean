import Mathlib
import Regenesis.Migration.Version
import Regenesis.Proofs.Decimal

/-!
# Proofs.Migration.Version — which texts state a version

A version is read from three numerals with points between them, each of at most 4300 decimal digits
of any scripts, leading zeros included. The digits that are not decimal pass the first check, but
then they are no number, so they are refused all the same. What is written is one of the texts of a
version, so that it is read back if the version was read from a text; and no two versions, however
large, are written alike.

* `Version.ofText_eq_ok_iff` — the texts of a version.
* `Version.ofText_text` — a version is read from its text, unless it has too many digits.
* `Version.text_injective` — different versions have different texts.
-/

namespace Regenesis

-- ---------------------------------------------------------------------------
-- Texts
-- ---------------------------------------------------------------------------

namespace Version

open Decimal (IsNumeral)

variable {s : String} {v w : Version}

/-- A part is a number if it has digits and nothing else. -/
theorem isNumberPart_iff :
    isNumberPart s = true ↔ s.toList ≠ [] ∧ ∀ c ∈ s.toList, Text.isDigit c = true := by
  rw [isNumberPart, Bool.and_eq_true, Bool.not_eq_true', List.all_eq_true,
    ← Bool.not_eq_true, String.isEmpty_iff, ← String.toList_eq_nil_iff]

/-- A text of three parts has two dots between them. -/
theorem toList_of_parts {a b c : String} (h : parts s = [a, b, c]) :
    s.toList = a.toList ++ '.' :: (b.toList ++ '.' :: c.toList) := by
  have hsplit : s.toList.splitOn '.' = (parts s).map String.toList := by
    rw [parts, List.map_map]
    exact ((List.map_congr_left fun _ _ => String.toList_ofList).trans (List.map_id _)).symm
  have hjoin : ['.'].intercalate (s.toList.splitOn '.') = s.toList := List.intercalate_splitOn '.'
  rw [← hjoin, hsplit, h]
  simp [List.intercalate]

/-- Two dots make three parts, if the parts have no dots. -/
theorem parts_of_toList {a b c : List Char} (h : s.toList = a ++ '.' :: (b ++ '.' :: c))
    (ha : '.' ∉ a) (hb : '.' ∉ b) (hc : '.' ∉ c) :
    parts s = [String.ofList a, String.ofList b, String.ofList c] := by
  have hjoin : s.toList = ['.'].intercalate [a, b, c] := by
    rw [h]
    simp [List.intercalate]
  rw [parts, hjoin, List.splitOn_intercalate '.' (by simp [ha, hb, hc]) (by simp)]
  rfl

/-- A part of digits is read as the number that it stands for. -/
theorem readText_part {n : Int} (h : isNumberPart s = true) :
    Decimal.readText s = .ok n ↔ IsNumeral s.toList n.toNat ∧ 0 ≤ n := by
  rw [isNumberPart_iff] at h
  rw [Decimal.readText_eq_ok_iff h.1 h.2]
  constructor
  · rintro ⟨m, hm, rfl⟩
    exact ⟨hm, Int.natCast_nonneg m⟩
  · rintro ⟨hn, hzero⟩
    exact ⟨n.toNat, hn, (Int.toNat_of_nonneg hzero).symm⟩

/-- A numeral is a part, and is read as its number. -/
theorem part_of_isNumeral {cs : List Char} {n : Nat} (h : IsNumeral cs n) :
    isNumberPart (String.ofList cs) = true ∧ Decimal.readText (String.ofList cs) = .ok n := by
  have hpart : isNumberPart (String.ofList cs) = true := by
    rw [isNumberPart_iff, String.toList_ofList]
    exact ⟨h.1, h.isDigit⟩
  refine ⟨hpart, (readText_part hpart).2 ⟨?_, Int.natCast_nonneg n⟩⟩
  rw [String.toList_ofList]
  exact h

/-- **Texts of a version.** A version is read from three numerals with points between them. -/
theorem ofText_eq_ok_iff :
    ofText s = .ok v ↔ ∃ a b c, s.toList = a ++ '.' :: (b ++ '.' :: c) ∧
      IsNumeral a v.major ∧ IsNumeral b v.minor ∧ IsNumeral c v.patch := by
  constructor
  · intro h
    rw [ofText] at h
    split at h
    · rename_i a b c hparts
      split at h
      · rename_i hall
        -- the parts are digits of some kind, and each that is read has decimal digits only
        simp only [List.all_cons, List.all_nil, Bool.and_true, Bool.and_eq_true] at hall
        obtain ⟨major, ha, h⟩ := Outcome.bind_eq_ok.1 h
        obtain ⟨minor, hb, h⟩ := Outcome.bind_eq_ok.1 h
        obtain ⟨patch, hc, h⟩ := Outcome.bind_eq_ok.1 h
        obtain rfl := Except.ok.inj h
        exact ⟨a.toList, b.toList, c.toList, toList_of_parts hparts,
          ((readText_part hall.1).1 ha).1, ((readText_part hall.2.1).1 hb).1,
          ((readText_part hall.2.2).1 hc).1⟩
      · exact nomatch h
    · exact nomatch h
  · rintro ⟨a, b, c, hs, ha, hb, hc⟩
    have hpoint : ∀ {cs : List Char} {n : Nat}, IsNumeral cs n → '.' ∉ cs :=
      fun h hmem => (Text.ne_of_isDigit (h.isDigit _ hmem)).2.2.1 rfl
    rw [ofText, parts_of_toList hs (hpoint ha) (hpoint hb) (hpoint hc)]
    simp only [List.all_cons, List.all_nil, (part_of_isNumeral ha).1, (part_of_isNumeral hb).1,
      (part_of_isNumeral hc).1, Bool.and_self, if_true, (part_of_isNumeral ha).2,
      (part_of_isNumeral hb).2, (part_of_isNumeral hc).2, Outcome.ok_bind]
    rfl

/-- A text that states no version is a wrong value. -/
theorem failsWithin_ofText (s : String) :
    Outcome.FailsWithin (fun e => ∃ fault, e = .value fault) (ofText s) := by
  rw [ofText]
  split
  · split
    · exact (Decimal.failsWithin_readText _).bind fun _ _ =>
        (Decimal.failsWithin_readText _).bind fun _ _ =>
          (Decimal.failsWithin_readText _).bind fun _ _ => .ok _
    · exact .error ⟨_, rfl⟩
  · exact .error ⟨_, rfl⟩

theorem toList_text (v : Version) :
    v.text.toList = Decimal.natDigits v.major ++ '.' ::
      (Decimal.natDigits v.minor ++ '.' :: Decimal.natDigits v.patch) := by
  simp only [text, Decimal.ofInt, Decimal.intDigits, String.toList_append, String.toList_ofList,
    List.append_assoc]
  rfl

/-- The text of a version has three parts, which are the digits of its numbers. -/
theorem parts_text (v : Version) :
    parts v.text = [String.ofList (Decimal.natDigits v.major),
      String.ofList (Decimal.natDigits v.minor), String.ofList (Decimal.natDigits v.patch)] := by
  have hpoint : ∀ n, '.' ∉ Decimal.natDigits n :=
    fun n hmem => absurd (Decimal.isDigit_of_mem_natDigits hmem) (by decide)
  exact parts_of_toList (toList_text v) (hpoint _) (hpoint _) (hpoint _)

/-- **Texts.** Different versions are written differently, however large their numbers. -/
theorem text_injective (h : v.text = w.text) : v = w := by
  have hparts := parts_text v
  rw [h, parts_text w] at hparts
  simp only [List.cons.injEq, String.ofList_inj, and_true] at hparts
  obtain ⟨hmajor, hminor, hpatch⟩ := hparts
  cases v
  cases w
  simp only [Version.mk.injEq]
  exact ⟨(Decimal.natDigits_injective hmajor).symm, (Decimal.natDigits_injective hminor).symm,
    (Decimal.natDigits_injective hpatch).symm⟩

/-- **Reading after writing.** What a text states is read from its own text. -/
theorem ofText_text (h : ofText s = .ok v) : ofText v.text = .ok v := by
  obtain ⟨a, b, c, -, ha, hb, hc⟩ := ofText_eq_ok_iff.1 h
  exact ofText_eq_ok_iff.2 ⟨_, _, _, toList_text v, Decimal.isNumeral_natDigits ha.fits,
    Decimal.isNumeral_natDigits hb.fits, Decimal.isNumeral_natDigits hc.fits⟩

/-- The text of a version has digits and points only. -/
theorem not_mem_text (v : Version) {c : Char} (hdigit : c.isDigit = false) (hpoint : c ≠ '.') :
    c ∉ v.text.toList := by
  have hdigits : ∀ n, c ∉ Decimal.natDigits n := by
    intro n hmem
    rw [Decimal.isDigit_of_mem_natDigits hmem] at hdigit
    exact nomatch hdigit
  simp [toList_text, hdigits, hpoint]

-- ---------------------------------------------------------------------------
-- Order
-- ---------------------------------------------------------------------------

/-- The numbers of a version, compared from the first. -/
def triple (v : Version) : ℕ ×ₗ ℕ ×ₗ ℕ := toLex (v.major, toLex (v.minor, v.patch))

theorem triple_injective : Function.Injective triple := by
  rintro ⟨a, b, c⟩ ⟨a', b', c'⟩ h
  simpa [triple] using h

/-- Versions are compared number by number. -/
theorem lt_iff : v.lt w = true ↔ v.triple < w.triple := by
  simp only [lt, triple, Prod.Lex.toLex_lt_toLex, Bool.or_eq_true, Bool.and_eq_true,
    decide_eq_true_eq, beq_iff_eq]

theorem le_iff : v.le w = true ↔ v.triple ≤ w.triple := by
  rw [le, Bool.or_eq_true, lt_iff, beq_iff_eq, le_iff_lt_or_eq, triple_injective.eq_iff]

end Version

end Regenesis

import Regenesis.Failure

/-!
# Migration.Version — versions of the protocol

A version is three numbers: major, minor and patch. It is written with points between them, and
versions are ordered by the first number in which they differ. A new major version is a new
protocol.
-/

namespace Regenesis

/-- A version of the protocol. -/
structure Version where
  major : Nat
  minor : Nat
  patch : Nat
deriving DecidableEq, Repr

namespace Version

/-- The text of a version. -/
def text (v : Version) : String :=
  Decimal.ofInt v.major ++ "." ++ Decimal.ofInt v.minor ++ "." ++ Decimal.ofInt v.patch

/-- The parts of a text between its points. -/
def parts (s : String) : List String := (s.toList.splitOn '.').map String.ofList

/-- Whether a part is made of digits, at least one. Digits that are not decimal pass here. -/
def isNumberPart (s : String) : Bool := !s.isEmpty && s.toList.all Text.isDigit

/-- The version that a text states. -/
def ofText (s : String) : Except Failure Version :=
  match parts s with
  | [a, b, c] =>
    if [a, b, c].all isNumberPart then do
      let major ← Decimal.readText a
      let minor ← Decimal.readText b
      let patch ← Decimal.readText c
      return ⟨major.toNat, minor.toNat, patch.toNat⟩
    else .error (.value (.version s))
  | _ => .error (.value (.version s))

/-- Whether a version comes before another. -/
def lt (v w : Version) : Bool :=
  decide (v.major < w.major) ||
    (v.major == w.major &&
      (decide (v.minor < w.minor) || (v.minor == w.minor && decide (v.patch < w.patch))))

/-- Whether a version comes no later than another. -/
def le (v w : Version) : Bool := v.lt w || v == w

end Version

end Regenesis

/-!
# Binary64 — double-precision numbers

A double is not a number, an infinity, or a sign with a significand below 2^53 and a power of two.
Decimal notation is read to the nearest double by exact arithmetic on natural numbers: of two
equally near doubles the one with an even significand is taken, and what is too large becomes an
infinity.
-/

namespace Regenesis

/-- A double. `finite negative m e` is `m * 2 ^ e` with its sign, where `m < 2 ^ 53`, `-1074 ≤ e`,
and either `2 ^ 52 ≤ m` or `e = -1074`. -/
inductive Binary64 where
  | nan
  | infinite (negative : Bool)
  | finite (negative : Bool) (significand : Nat) (exponent : Int)
deriving DecidableEq, Repr

namespace Binary64

/-- The least exponent of a double. -/
def leastExponent : Int := -1074

/-- The greatest exponent of a double. -/
def greatestExponent : Int := 971

/-- The least significand of a double whose exponent is not the least one. -/
def leastNormal : Nat := Nat.pow 2 52

/-- The fraction of natural numbers that is equal to `num / (den * 2 ^ e)`. -/
def scale (num den : Nat) (e : Int) : Nat × Nat :=
  if 0 ≤ e then (num, den * Nat.pow 2 e.toNat) else (num * Nat.pow 2 (-e).toNat, den)

/-- The natural number nearest to a fraction, the even one of two equally near. -/
def roundHalfEven (num den : Nat) : Nat :=
  let q := num / den
  let r := num % den
  if den < 2 * r || (2 * r == den && q % 2 == 1) then q + 1 else q

/-- The double nearest to the fraction `num / den` of positive numbers. -/
def ofFraction (negative : Bool) (num den : Nat) : Binary64 :=
  let e := (num.log2 : Int) - den.log2 - 52
  let (n, d) := scale num den e
  let e := max (if n / d < leastNormal then e - 1 else e) leastExponent
  let (n, d) := scale num den e
  let m := roundHalfEven n d
  let (m, e) := if m == 2 * leastNormal then (leastNormal, e + 1) else (m, e)
  if greatestExponent < e then .infinite negative else .finite negative m e

/-- The double nearest to `digits * 10 ^ exponent`. Numbers beyond `10 ^ 400` and below `10 ^
(-400)` are recognised by their length, so that a huge exponent costs nothing. -/
def ofDecimal (negative : Bool) (digits : Nat) (exponent : Int) : Binary64 :=
  let point := (Nat.toDigits 10 digits).length + exponent
  if digits == 0 || point < -400 then .finite negative 0 leastExponent
  else if 400 < point then .infinite negative
  else if 0 ≤ exponent then ofFraction negative (digits * Nat.pow 10 exponent.toNat) 1
  else ofFraction negative digits (Nat.pow 10 (-exponent).toNat)

/-- The size of a finite double as a fraction. -/
def magnitude (m : Nat) (e : Int) : Nat × Nat :=
  if 0 ≤ e then (m * Nat.pow 2 e.toNat, 1) else (m, Nat.pow 2 (-e).toNat)

/-- The integer that a finite double is equal to, if there is one. -/
def toInt? : Binary64 → Option Int
  | .finite negative m e =>
    let (num, den) := magnitude m e
    let quotient : Int := (num / den : Nat)
    if num % den == 0 then some (if negative then -quotient else quotient) else none
  | _ => none

end Binary64

end Regenesis

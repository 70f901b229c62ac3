import Regenesis.Decimal.Binary64

/-!
# Shortest — the fewest digits that read back

A double is written with the fewest decimal digits that are nearer to it than to any other double,
and of the numbers with that many digits with the nearest one. On each grid of decimal numbers,
from one digit up to seventeen, the two neighbours of the double are tried; the first grid with a
neighbour inside the double's rounding interval wins. `Layout` then says how digits and the place
of the point become text.
-/

namespace Regenesis.Decimal

/-- Digits and the place of the point: `d₁d₂…dₙ` and `p` stand for `0.d₁d₂…dₙ * 10 ^ p`. -/
structure Digits where
  digits : List Char
  point : Int
deriving DecidableEq, Repr

/-- The interval of the fractions that round to `m * 2 ^ e`, as numerators over one denominator with
the number itself in the middle: lower end, number, upper end, denominator. Below a power of two the
next double is only half as far away as above it. -/
def roundingInterval (m : Nat) (e : Int) : Nat × Nat × Nat × Nat :=
  let (num, den) := Binary64.magnitude 1 (e - 2)
  let isBinadeStart := m == Binary64.leastNormal && Binary64.leastExponent < e
  let below := if isBinadeStart then 4 * m - 1 else 4 * m - 2
  (below * num, 4 * m * num, (4 * m + 2) * num, den)

/-- The number `p` of digits before the point of a positive fraction: the least `p` with
`num / den < 10 ^ p`. -/
def pointOf (num den : Nat) : Int :=
  if den ≤ num then (Nat.toDigits 10 (num / den)).length
  else 1 - (Nat.toDigits 10 ((den - 1) / num)).length

/-- The neighbour of the number on the grid of `count` digits that lies in the rounding interval,
the nearer one of two. -/
def onGrid (m : Nat) (e : Int) (point : Int) (count : Nat) : Option Nat :=
  let (low, value, high, den) := roundingInterval m e
  let step := point - count
  -- everything is scaled so that one unit of the grid is `unit`
  let (unit, factor) :=
    if 0 ≤ step then (den * Nat.pow 10 step.toNat, 1) else (den, Nat.pow 10 (-step).toNat)
  let (low, value, high) := (low * factor, value * factor, high * factor)
  let closed := m % 2 == 0
  let inside (x : Nat) : Bool :=
    if closed then low ≤ x * unit && x * unit ≤ high else low < x * unit && x * unit < high
  let floor := value / unit
  let rest := value % unit
  if inside floor && inside (floor + 1) then
    some (if 2 * rest < unit || (2 * rest == unit && floor % 2 == 0) then floor else floor + 1)
  else if inside floor then some floor
  else if inside (floor + 1) then some (floor + 1)
  else none

/-- The digits of a number without the zeros at its end. -/
def significantDigits (n : Nat) : List Char :=
  ((Nat.toDigits 10 n).reverse.dropWhile (· == '0')).reverse

/-- The shortest digits of `m * 2 ^ e`. -/
def shortest (m : Nat) (e : Int) : Digits :=
  if m == 0 then ⟨['0'], 1⟩
  else
    let (num, den) := Binary64.magnitude m e
    let point := pointOf num den
    match (List.range 17).findSome? fun i => (onGrid m e point (i + 1)).map ((i + 1), ·) with
    | some (count, n) =>
      ⟨significantDigits n, point + ((Nat.toDigits 10 n).length - count : Int)⟩
    | none => ⟨significantDigits num, point⟩

-- ---------------------------------------------------------------------------
-- Layout
-- ---------------------------------------------------------------------------

/-- How a double is laid out as text. -/
structure Layout where
  /-- The least place of the point that is written without an exponent. -/
  leastPoint : Int
  /-- The greatest such place. -/
  greatestPoint : Int
  /-- Whether an exponent that is not negative has a plus sign. -/
  plusSign : Bool
  /-- The least number of digits of an exponent. -/
  exponentWidth : Nat
  /-- The text of what is not a number. -/
  nan : String
  /-- The text of the infinity, by sign. -/
  infinity : Bool → String

/-- Pads digits with zeros in front to a width. -/
def padZeros (width : Nat) (ds : List Char) : List Char :=
  List.replicate (width - ds.length) '0' ++ ds

/-- Digits with the point at its place: always with a digit before and after it. -/
def positional (d : Digits) : List Char :=
  if d.point ≤ 0 then '0' :: '.' :: (List.replicate (-d.point).toNat '0' ++ d.digits)
  else
    let whole := d.digits.take d.point.toNat
    let fraction := d.digits.drop d.point.toNat
    whole ++ List.replicate (d.point.toNat - whole.length) '0' ++
      '.' :: (if fraction.isEmpty then ['0'] else fraction)

/-- Digits with the point after the first one, and an exponent. -/
def scientific (layout : Layout) (d : Digits) : List Char :=
  let exponent := d.point - 1
  let sign := if exponent < 0 then ['-'] else if layout.plusSign then ['+'] else []
  let mantissa :=
    match d.digits with
    | [] => []
    | [x] => [x]
    | x :: rest => x :: '.' :: rest
  mantissa ++ 'e' :: sign ++ padZeros layout.exponentWidth (Nat.toDigits 10 exponent.natAbs)

/-- The text of a double. -/
def Layout.write (layout : Layout) : Binary64 → List Char
  | .nan => layout.nan.toList
  | .infinite negative => (layout.infinity negative).toList
  | .finite negative m e =>
    let d := shortest m e
    (if negative then ['-'] else []) ++
      (if layout.leastPoint ≤ d.point && d.point ≤ layout.greatestPoint then positional d
       else scientific layout d)

end Regenesis.Decimal

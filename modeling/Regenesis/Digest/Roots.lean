/-!
# Digest.Roots — the constants of the SHA-2 family

The initial words and the round constants of the SHA-2 digests are the first bits of the fractional
parts of the square and cube roots of the first primes. They are computed here from that definition.
-/

namespace Regenesis.Digest

/-- The greatest `r` below `2 ^ bits` with `r ^ k ≤ n`, found bit by bit. -/
def root (k n bits : Nat) : Nat :=
  (List.range bits).reverse.foldl
    (fun r i => if Nat.pow (r + Nat.pow 2 i) k ≤ n then r + Nat.pow 2 i else r) 0

/-- Whether a number has exactly two divisors. -/
def isPrime (n : Nat) : Bool :=
  2 ≤ n && (List.range n).all fun d => d < 2 || n % d != 0

/-- The first eighty primes. -/
def primes : List Nat := (List.range 410).filter isPrime

/-- The first 64 bits of the fractional part of the `k`-th root of `p`. -/
def rootFraction (k p : Nat) : Nat := root k (p * Nat.pow 2 (64 * k)) 69 % Nat.pow 2 64

end Regenesis.Digest

import Regenesis.Digest.Sha512

/-!
# Ed25519 — the public key of a private key

The private key is a seed of 32 bytes. The first half of its SHA-512 digest, with some bits fixed,
is a scalar; the public key is that multiple of the base point of the curve −x² + y² = 1 + d·x²·y²
modulo 2^255 − 19, written as the little-endian y-coordinate with the parity of x in its top bit.
-/

namespace Regenesis.Ed25519

/-- The prime of the field. -/
def p : Nat := Nat.pow 2 255 - 19

/-- The power `b ^ e` modulo `p`, by squaring; `bits` bounds the length of the exponent. -/
def power : Nat → Nat → Nat → Nat
  | 0, _, _ => 1
  | bits + 1, b, e =>
    let half := power bits (b * b % p) (e / 2)
    if e % 2 == 1 then half * b % p else half

/-- The inverse modulo `p`. -/
def inverse (a : Nat) : Nat := power 255 a (p - 2)

/-- The coefficient `d` of the curve. -/
def d : Nat := (p - 121665) * inverse 121666 % p

/-- A point in extended coordinates: `x = X / Z`, `y = Y / Z`, `x * y = T / Z`. -/
structure Point where
  x : Nat
  y : Nat
  z : Nat
  t : Nat

/-- The neutral point. -/
def Point.zero : Point := ⟨0, 1, 1, 0⟩

/-- The sum of two points. -/
def Point.add (a b : Point) : Point :=
  let m := (a.y + p - a.x) * (b.y + p - b.x) % p
  let n := (a.y + a.x) * (b.y + b.x) % p
  let c := a.t * (2 * d) % p * b.t % p
  let w := a.z * 2 * b.z % p
  let e := n + p - m
  let f := w + p - c
  let g := w + c
  let h := n + m
  ⟨e * f % p, g * h % p, f * g % p, e * h % p⟩

/-- A multiple of a point, by doubling; `bits` bounds the length of the scalar. -/
def Point.times : Nat → Nat → Point → Point
  | 0, _, _ => .zero
  | bits + 1, n, a =>
    let rest := Point.times bits (n / 2) (a.add a)
    if n % 2 == 1 then rest.add a else rest

/-- The square root modulo `p` that is even. -/
def evenRoot (a : Nat) : Nat :=
  let r := power 255 a ((p + 3) / 8)
  let r := if r * r % p == a then r else r * power 255 2 ((p - 1) / 4) % p
  if r % 2 == 0 then r else p - r

/-- The base point: its y-coordinate is 4/5, its x-coordinate even. -/
def base : Point :=
  let y := 4 * inverse 5 % p
  let yy := y * y % p
  let x := evenRoot ((yy + p - 1) * inverse (d * yy + 1) % p)
  ⟨x, y, 1, x * y % p⟩

/-- The little-endian form of a number in 32 bytes. -/
def littleEndian (n : Nat) : Octets := (Octets.bigEndian 32 n).reverse

/-- The encoding of a point. -/
def Point.encode (a : Point) : Octets :=
  let zi := inverse a.z
  let x := a.x * zi % p
  let y := a.y * zi % p
  littleEndian (y + (x % 2) * Nat.pow 2 255)

/-- The scalar of a seed: the lower half of its digest, less its three lowest bits, the highest bit
cleared and the second highest set. -/
def scalar (seed : Octets) : Nat :=
  let n := Octets.toNat ((Digest.sha512 seed).take 32).reverse
  n % Nat.pow 2 254 / 8 * 8 + Nat.pow 2 254

/-- The length of a private key. -/
def seedLength : Nat := 32

/-- The public key of a private key; for a key of another length, that length. -/
def publicKey (seed : Octets) : Except Nat Octets :=
  if seed.length = seedLength then .ok (Point.times 255 (scalar seed) base).encode
  else .error seed.length

end Regenesis.Ed25519

import Regenesis.Octets
import Regenesis.Digest.Roots

/-!
# Digest.Sha512 — the digest behind Ed25519 keys

SHA-512 of a byte string, a string of 64 bytes. It is built like SHA-256, from 64-bit words, with
eighty rounds to a block.
-/

namespace Regenesis.Digest.Sha512

/-- The state between blocks. -/
structure State where
  a : UInt64
  b : UInt64
  c : UInt64
  d : UInt64
  e : UInt64
  f : UInt64
  g : UInt64
  h : UInt64

/-- The words of a state in order. -/
def State.words (s : State) : List UInt64 := [s.a, s.b, s.c, s.d, s.e, s.f, s.g, s.h]

/-- The state before the first block. -/
def initial : State :=
  match (Digest.primes.take 8).map fun p => (rootFraction 2 p).toUInt64 with
  | [a, b, c, d, e, f, g, h] => ⟨a, b, c, d, e, f, g, h⟩
  | _ => ⟨0, 0, 0, 0, 0, 0, 0, 0⟩

/-- The constants of the eighty rounds. -/
def roundConstants : List UInt64 := Digest.primes.map fun p => (rootFraction 3 p).toUInt64

/-- Rotation to the right. -/
def rotate (x : UInt64) (n : UInt64) : UInt64 := (x >>> n) ||| (x <<< (64 - n))

/-- One round: a state, a round constant and a word of the schedule. -/
def round (s : State) (k w : UInt64) : State :=
  let s1 := rotate s.e 14 ^^^ rotate s.e 18 ^^^ rotate s.e 41
  let choice := (s.e &&& s.f) ^^^ (~~~s.e &&& s.g)
  let t1 := s.h + s1 + choice + k + w
  let s0 := rotate s.a 28 ^^^ rotate s.a 34 ^^^ rotate s.a 39
  let majority := (s.a &&& s.b) ^^^ (s.a &&& s.c) ^^^ (s.b &&& s.c)
  ⟨t1 + (s0 + majority), s.a, s.b, s.c, s.d + t1, s.e, s.f, s.g⟩

/-- The schedule of a block: its sixteen words, and 64 more, each made of four before it. -/
def schedule (block : Array UInt64) : Array UInt64 :=
  (List.range 64).foldl (fun ws i =>
    let w15 := ws.getD (i + 1) 0
    let w2 := ws.getD (i + 14) 0
    let s0 := rotate w15 1 ^^^ rotate w15 8 ^^^ (w15 >>> 7)
    let s1 := rotate w2 19 ^^^ rotate w2 61 ^^^ (w2 >>> 6)
    ws.push (ws.getD i 0 + s0 + ws.getD (i + 9) 0 + s1)) block

/-- The state after one more block. -/
def compress (s : State) (block : Array UInt64) : State :=
  let r := (roundConstants.zip (schedule block).toList).foldl (fun s (k, w) => round s k w) s
  ⟨s.a + r.a, s.b + r.b, s.c + r.c, s.d + r.d, s.e + r.e, s.f + r.f, s.g + r.g, s.h + r.h⟩

/-- The message with its closing bytes. -/
def pad (message : Octets) : Octets :=
  let zeros := (239 - message.length % 128) % 128
  message ++ 0x80 :: List.replicate zeros 0 ++ Octets.bigEndian 16 (8 * message.length)

/-- The words of a byte string. -/
def wordsOf : Octets → List UInt64
  | a :: b :: c :: d :: e :: f :: g :: h :: rest =>
    (Octets.toNat [a, b, c, d, e, f, g, h]).toUInt64 :: wordsOf rest
  | _ => []

/-- Takes one more word into the block that is being filled; a full block is compressed. -/
def absorb (s : State × Array UInt64) (w : UInt64) : State × Array UInt64 :=
  let block := s.2.push w
  if block.size == 16 then (compress s.1 block, #[]) else (s.1, block)

/-- The final state of a message. -/
def finalState (message : Octets) : State :=
  ((wordsOf (pad message)).foldl absorb (initial, #[])).1

end Regenesis.Digest.Sha512

namespace Regenesis.Digest

/-- The SHA-512 digest of a byte string. -/
def sha512 (message : Octets) : Octets :=
  (Sha512.finalState message).words.flatMap fun w => Octets.bigEndian 8 w.toNat

end Regenesis.Digest

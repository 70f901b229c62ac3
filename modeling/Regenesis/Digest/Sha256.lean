import Regenesis.Octets
import Regenesis.Digest.Roots

/-!
# Digest.Sha256 — the digest of keys, addresses and canonical texts

SHA-256 of a byte string, a string of 32 bytes. The message is closed by a one bit, zeros and its
length in bits, so that it fills blocks of sixteen 32-bit words, and every block is compressed into
a state of eight words.
-/

namespace Regenesis.Digest.Sha256

/-- The state between blocks. -/
structure State where
  a : UInt32
  b : UInt32
  c : UInt32
  d : UInt32
  e : UInt32
  f : UInt32
  g : UInt32
  h : UInt32

/-- The words of a state in order. -/
def State.words (s : State) : List UInt32 := [s.a, s.b, s.c, s.d, s.e, s.f, s.g, s.h]

/-- The state before the first block. -/
def initial : State :=
  match (Digest.primes.take 8).map fun p => (rootFraction 2 p >>> 32).toUInt32 with
  | [a, b, c, d, e, f, g, h] => ⟨a, b, c, d, e, f, g, h⟩
  | _ => ⟨0, 0, 0, 0, 0, 0, 0, 0⟩

/-- The constants of the 64 rounds. -/
def roundConstants : List UInt32 :=
  (Digest.primes.take 64).map fun p => (rootFraction 3 p >>> 32).toUInt32

/-- Rotation to the right. -/
def rotate (x : UInt32) (n : UInt32) : UInt32 := (x >>> n) ||| (x <<< (32 - n))

/-- One round: a state, a round constant and a word of the schedule. -/
def round (s : State) (k w : UInt32) : State :=
  let s1 := rotate s.e 6 ^^^ rotate s.e 11 ^^^ rotate s.e 25
  let choice := (s.e &&& s.f) ^^^ (~~~s.e &&& s.g)
  let t1 := s.h + s1 + choice + k + w
  let s0 := rotate s.a 2 ^^^ rotate s.a 13 ^^^ rotate s.a 22
  let majority := (s.a &&& s.b) ^^^ (s.a &&& s.c) ^^^ (s.b &&& s.c)
  ⟨t1 + (s0 + majority), s.a, s.b, s.c, s.d + t1, s.e, s.f, s.g⟩

/-- The schedule of a block: its sixteen words, and 48 more, each made of four before it. -/
def schedule (block : Array UInt32) : Array UInt32 :=
  (List.range 48).foldl (fun ws i =>
    let w15 := ws.getD (i + 1) 0
    let w2 := ws.getD (i + 14) 0
    let s0 := rotate w15 7 ^^^ rotate w15 18 ^^^ (w15 >>> 3)
    let s1 := rotate w2 17 ^^^ rotate w2 19 ^^^ (w2 >>> 10)
    ws.push (ws.getD i 0 + s0 + ws.getD (i + 9) 0 + s1)) block

/-- The state after one more block. -/
def compress (s : State) (block : Array UInt32) : State :=
  let r := (roundConstants.zip (schedule block).toList).foldl (fun s (k, w) => round s k w) s
  ⟨s.a + r.a, s.b + r.b, s.c + r.c, s.d + r.d, s.e + r.e, s.f + r.f, s.g + r.g, s.h + r.h⟩

/-- The message with its closing bytes. -/
def pad (message : Octets) : Octets :=
  let zeros := (119 - message.length % 64) % 64
  message ++ 0x80 :: List.replicate zeros 0 ++ Octets.bigEndian 8 (8 * message.length)

/-- A word of four bytes. -/
def word (a b c d : UInt8) : UInt32 :=
  (a.toUInt32 <<< 24) ||| (b.toUInt32 <<< 16) ||| (c.toUInt32 <<< 8) ||| d.toUInt32

/-- The words of a byte string. -/
def wordsOf : Octets → List UInt32
  | a :: b :: c :: d :: rest => word a b c d :: wordsOf rest
  | _ => []

/-- Takes one more word into the block that is being filled; a full block is compressed. -/
def absorb (s : State × Array UInt32) (w : UInt32) : State × Array UInt32 :=
  let block := s.2.push w
  if block.size == 16 then (compress s.1 block, #[]) else (s.1, block)

/-- The four bytes of a word. -/
def bytesOf (w : UInt32) : Octets := Octets.bigEndian 4 w.toNat

/-- The final state of a message. -/
def finalState (message : Octets) : State :=
  ((wordsOf (pad message)).foldl absorb (initial, #[])).1

end Regenesis.Digest.Sha256

namespace Regenesis.Digest

/-- The SHA-256 digest of a byte string. -/
def sha256 (message : Octets) : Octets :=
  (Sha256.finalState message).words.flatMap Sha256.bytesOf

theorem length_sha256 (message : Octets) : (sha256 message).length = 32 := by
  simp [sha256, Sha256.State.words, Sha256.bytesOf, Octets.length_bigEndian]

end Regenesis.Digest

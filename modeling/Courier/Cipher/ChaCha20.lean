import Courier.Bytes

/-! # The ChaCha20 stream

A state of sixteen words is stirred by twenty rounds. Added to its own start it is a block
of the key stream; without that addition its outer words are a key derived from a long
nonce.
-/

namespace Courier.Cipher

/-- Sixteen words of 32 bits. -/
abbrev ChaChaState := Vector UInt32 16

/-- A string of octets as a number, least significant octet first. -/
def littleEndian (octets : Bytes) : Nat := Bytes.value octets.reverse

/-- The last `width` octets of a number, least significant first. -/
def littleEndianOctets (width n : Nat) : Bytes := (Bytes.ofNat width n).reverse

namespace ChaChaState

/-- Rotate a word towards its high end. -/
@[inline] def rotate (word bits : UInt32) : UInt32 := word <<< bits ||| word >>> (32 - bits)

/-- Stir four of the words. -/
def quarterRound (s : ChaChaState) (a b c d : Fin 16) : ChaChaState :=
  let s := s.set a (s[a] + s[b])
  let s := s.set d (rotate (s[d] ^^^ s[a]) 16)
  let s := s.set c (s[c] + s[d])
  let s := s.set b (rotate (s[b] ^^^ s[c]) 12)
  let s := s.set a (s[a] + s[b])
  let s := s.set d (rotate (s[d] ^^^ s[a]) 8)
  let s := s.set c (s[c] + s[d])
  s.set b (rotate (s[b] ^^^ s[c]) 7)

/-- A round over the columns and one over the diagonals. -/
def doubleRound (s : ChaChaState) : ChaChaState :=
  let s := s.quarterRound 0 4 8 12
  let s := s.quarterRound 1 5 9 13
  let s := s.quarterRound 2 6 10 14
  let s := s.quarterRound 3 7 11 15
  let s := s.quarterRound 0 5 10 15
  let s := s.quarterRound 1 6 11 12
  let s := s.quarterRound 2 7 8 13
  s.quarterRound 3 4 9 14

def doubleRounds : Nat → ChaChaState → ChaChaState
  | 0, s => s
  | n + 1, s => doubleRounds n s.doubleRound

/-- The state before the rounds: the fixed words, the key, and sixteen octets of counter and
nonce. -/
def start (key : Hash) (tail : Octets 16) : ChaChaState :=
  let octets := key.toList ++ tail.toList
  let word (i : Nat) := UInt32.ofNat (littleEndian ((octets.drop (4 * i)).take 4))
  Vector.ofFn fun i =>
    match i with
    | 0 => 0x61707865
    | 1 => 0x3320646e
    | 2 => 0x79622d32
    | 3 => 0x6b206574
    | i => word (i.val - 4)

/-- The octets of the words, least significant first. -/
def toOctets (words : List UInt32) : Bytes :=
  words.flatMap fun word => littleEndianOctets 4 word.toNat

end ChaChaState

/-- The block of the key stream with the given number, under a nonce of twelve octets. -/
def keyStreamBlock (key : Hash) (nonce : Octets 12) (counter : Nat) : Bytes :=
  let start := ChaChaState.start key
    ⟨littleEndianOctets 4 counter ++ nonce.toList, by
      simp [littleEndianOctets, nonce.length_toList]⟩
  ChaChaState.toOctets
    (List.zipWith (· + ·) (start.doubleRounds 10).toList start.toList)

/-- The key for the last eight octets of a long nonce, from its first sixteen. -/
def derivedKey (key : Hash) (nonce : Octets 16) : Hash :=
  let words := (ChaChaState.start key nonce).doubleRounds 10
  ⟨ChaChaState.toOctets
    [words[0], words[1], words[2], words[3], words[12], words[13], words[14], words[15]], by
    simp [ChaChaState.toOctets, littleEndianOctets]⟩

/-- Mix octets with the key stream from the given block on, for at most `blocks` blocks. -/
def mixKeyStream (key : Hash) (nonce : Octets 12) : (blocks counter : Nat) → Bytes → Bytes
  | 0, _, _ => []
  | blocks + 1, counter, octets =>
    List.zipWith (· ^^^ ·) octets (keyStreamBlock key nonce counter) ++
      mixKeyStream key nonce blocks (counter + 1) (octets.drop 64)

end Courier.Cipher

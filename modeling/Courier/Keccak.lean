import Courier.Bytes

/-! # Keccak-256

The sponge over 1600 bits with a rate of 136 octets and the padding of the first Keccak
submission (a single `1` bit, zeros, a final `1` bit). The state is five planes of five
lanes; each step of a round works on whole planes.
-/

namespace Courier.Keccak

/-- Five lanes of 64 bits. -/
structure Plane where
  l0 : UInt64
  l1 : UInt64
  l2 : UInt64
  l3 : UInt64
  l4 : UInt64

/-- Five planes: the whole state. -/
structure State where
  p0 : Plane
  p1 : Plane
  p2 : Plane
  p3 : Plane
  p4 : Plane

/-- Rotate a lane towards its high end. -/
@[inline] def rotate (lane : UInt64) (bits : UInt64) : UInt64 :=
  lane <<< bits ||| lane >>> (64 - bits)

namespace Plane

def zero : Plane := ⟨0, 0, 0, 0, 0⟩

/-- Combine two planes lane by lane. -/
@[inline] def xor (a b : Plane) : Plane :=
  ⟨a.l0 ^^^ b.l0, a.l1 ^^^ b.l1, a.l2 ^^^ b.l2, a.l3 ^^^ b.l3, a.l4 ^^^ b.l4⟩

/-- What each column adds to its lanes: the parity of the column before and of the rotated one
after. -/
@[inline] def spread (parity : Plane) : Plane :=
  ⟨parity.l4 ^^^ rotate parity.l1 1, parity.l0 ^^^ rotate parity.l2 1,
    parity.l1 ^^^ rotate parity.l3 1, parity.l2 ^^^ rotate parity.l4 1,
    parity.l3 ^^^ rotate parity.l0 1⟩

/-- The nonlinear step: each lane is flipped where the next is clear and the one after is set. -/
@[inline] def chi (p : Plane) : Plane :=
  ⟨p.l0 ^^^ (~~~p.l1 &&& p.l2), p.l1 ^^^ (~~~p.l2 &&& p.l3), p.l2 ^^^ (~~~p.l3 &&& p.l4),
    p.l3 ^^^ (~~~p.l4 &&& p.l0), p.l4 ^^^ (~~~p.l0 &&& p.l1)⟩

end Plane

namespace State

def zero : State := ⟨.zero, .zero, .zero, .zero, .zero⟩

/-- Mix the parity of the neighbouring columns into every lane. -/
@[inline] def theta (s : State) : State :=
  let d := ((((s.p0.xor s.p1).xor s.p2).xor s.p3).xor s.p4).spread
  ⟨s.p0.xor d, s.p1.xor d, s.p2.xor d, s.p3.xor d, s.p4.xor d⟩

/-- Rotate every lane by its offset and move it to its new place. -/
@[inline] def rhoPi (s : State) : State where
  p0 := ⟨s.p0.l0, rotate s.p1.l1 44, rotate s.p2.l2 43, rotate s.p3.l3 21, rotate s.p4.l4 14⟩
  p1 := ⟨rotate s.p0.l3 28, rotate s.p1.l4 20, rotate s.p2.l0 3, rotate s.p3.l1 45,
    rotate s.p4.l2 61⟩
  p2 := ⟨rotate s.p0.l1 1, rotate s.p1.l2 6, rotate s.p2.l3 25, rotate s.p3.l4 8,
    rotate s.p4.l0 18⟩
  p3 := ⟨rotate s.p0.l4 27, rotate s.p1.l0 36, rotate s.p2.l1 10, rotate s.p3.l2 15,
    rotate s.p4.l3 56⟩
  p4 := ⟨rotate s.p0.l2 62, rotate s.p1.l3 55, rotate s.p2.l4 39, rotate s.p3.l0 41,
    rotate s.p4.l1 2⟩

/-- The nonlinear step on every plane, and the round constant on the first lane. -/
@[inline] def chiIota (s : State) (constant : UInt64) : State :=
  let first := s.p0.chi
  ⟨{ first with l0 := first.l0 ^^^ constant }, s.p1.chi, s.p2.chi, s.p3.chi, s.p4.chi⟩

def round (s : State) (constant : UInt64) : State := s.theta.rhoPi.chiIota constant

end State

/-- The constants of the 24 rounds. -/
def roundConstants : List UInt64 :=
  [0x0000000000000001, 0x0000000000008082, 0x800000000000808a, 0x8000000080008000,
   0x000000000000808b, 0x0000000080000001, 0x8000000080008081, 0x8000000000008009,
   0x000000000000008a, 0x0000000000000088, 0x0000000080008009, 0x000000008000000a,
   0x000000008000808b, 0x800000000000008b, 0x8000000000008089, 0x8000000000008003,
   0x8000000000008002, 0x8000000000000080, 0x000000000000800a, 0x800000008000000a,
   0x8000000080008081, 0x8000000000008080, 0x0000000080000001, 0x8000000080008008]

def permute (s : State) : State := roundConstants.foldl State.round s

/-- The octets that one block takes up. -/
def rate : Nat := 136

/-- Eight octets as a lane, least significant octet first. -/
def laneOfOctets (octets : Bytes) : UInt64 :=
  octets.foldr (fun octet lane => lane <<< 8 ||| octet.toUInt64) 0

/-- The octets of a lane, least significant first. -/
def octetsOfLane (lane : UInt64) : Bytes :=
  (List.range 8).map fun i => (lane >>> (8 * i.toUInt64)).toUInt8

/-- A block of octets as lanes; missing octets count as zero. -/
def stateOfBlock (block : Bytes) : State :=
  let lane (i : Nat) := laneOfOctets ((block.drop (8 * i)).take 8)
  let plane (i : Nat) : Plane :=
    ⟨lane (5 * i), lane (5 * i + 1), lane (5 * i + 2), lane (5 * i + 3), lane (5 * i + 4)⟩
  ⟨plane 0, plane 1, plane 2, plane 3, plane 4⟩

def absorb (s : State) (block : Bytes) : State :=
  let b := stateOfBlock block
  permute ⟨s.p0.xor b.p0, s.p1.xor b.p1, s.p2.xor b.p2, s.p3.xor b.p3, s.p4.xor b.p4⟩

/-- The message with its padding, a whole number of blocks long. -/
def pad (message : Bytes) : Bytes :=
  match rate - message.length % rate with
  | 1 => message ++ [0x81]
  | missing => message ++ 0x01 :: List.replicate (missing - 2) 0 ++ [0x80]

/-- Mix `blocks` blocks of a padded message into the state, in order. -/
def absorbBlocks : (blocks : Nat) → State → Bytes → State
  | 0, s, _ => s
  | blocks + 1, s, message => absorbBlocks blocks (absorb s (message.take rate)) (message.drop rate)

end Courier.Keccak

namespace Courier

/-- The Keccak-256 digest of a message. -/
def keccak256 (message : Bytes) : Hash :=
  let padded := Keccak.pad message
  let s := Keccak.absorbBlocks (padded.length / Keccak.rate) .zero padded
  ⟨[s.p0.l0, s.p0.l1, s.p0.l2, s.p0.l3].flatMap Keccak.octetsOfLane, by
    simp [Keccak.octetsOfLane]⟩

end Courier

import Courier.Envelope.Codec

/-! # Proof of work

The work of a nonce is the number of leading zero bits of the digest of the sealed form and
the nonce. Admission weighs it against what the envelope asks of the network: twice the
score for each bit, in proportion to its life and in inverse proportion to its size.

Nonces are searched in order from zero, either for the first one that reaches a target or, round
after round while there is time, for the best one.
-/

namespace Courier

def octetLeadingZeros (octet : UInt8) : Nat := if octet = 0 then 8 else 7 - octet.toNat.log2

def leadingZeroBits : Bytes → Nat
  | [] => 0
  | octet :: rest => if octet = 0 then 8 + leadingZeroBits rest else octetLeadingZeros octet

namespace Work

/-- The highest target of a search by bits. -/
def maxBits : UInt32 := 24

def clamp (target : UInt32) : UInt32 := min target maxBits

/-- The work of a nonce under the digest of a sealed form, with digests made by `digest`. -/
def ofNonce (digest : Bytes → Hash) (sealHash : Hash) (nonce : UInt64) : Nat :=
  leadingZeroBits (digest (sealHash.toList ++ Bytes.ofNat 8 nonce.toNat)).toList

/-- The last nonce there is. -/
def lastNonce : UInt64 := 0xffffffffffffffff

theorem toNat_next {nonce : UInt64} (notLast : nonce ≠ lastNonce) :
    (nonce + 1).toNat = nonce.toNat + 1 := by
  have bound : nonce.toNat < UInt64.size := nonce.toNat_lt
  have last : lastNonce.toNat = UInt64.size - 1 := rfl
  have other : nonce.toNat ≠ lastNonce.toNat := fun same => notLast (UInt64.toNat_inj.1 same)
  rw [UInt64.toNat_add]
  exact Nat.mod_eq_of_lt (by simp only [UInt64.size] at *; simp; omega)

theorem left_next {nonce : UInt64} (notLast : nonce ≠ lastNonce) :
    UInt64.size - (nonce + 1).toNat < UInt64.size - nonce.toNat := by
  have bound : nonce.toNat < UInt64.size := nonce.toNat_lt
  rw [toNat_next notLast]
  omega

/-- The nonce after this one, if there is one. -/
def nextNonce? (nonce : UInt64) : Option UInt64 :=
  if nonce = lastNonce then none else some (nonce + 1)

/-- A nonce with its work. -/
structure Trial where
  nonce : UInt64
  bits : Nat

/-- The better of two trials, the earlier one if they are equally good. -/
def Trial.orBetter (best later : Trial) : Trial := if best.bits < later.bits then later else best

/-- Where a search for the best nonce stands. -/
structure Search where
  /-- The nonce to try next; the search is over when there is none. -/
  next? : Option UInt64
  /-- The best trial so far. -/
  best : Trial

/-- The nonces tried between two looks at the clock. -/
def noncesPerRound : Nat := 1024

-- Measuring the work of a nonce is an action, so that the measurements of a search can be counted.
variable {m : Type → Type} [Monad m]

/-- The first nonce from `nonce` on whose work reaches the target, or else the last nonce. -/
@[specialize] def firstReaching (work : UInt64 → m Nat) (target : Nat) (nonce : UInt64) :
    m Trial := do
  let bits ← work nonce
  if target ≤ bits then return ⟨nonce, bits⟩
  else if h : nonce = lastNonce then return ⟨nonce, bits⟩
  else firstReaching work target (nonce + 1)
termination_by UInt64.size - nonce.toNat
decreasing_by exact left_next h

namespace Search

/-- Try `count` nonces in turn, as far as there are any. -/
@[specialize] def tryNonces (work : UInt64 → m Nat) : (count : Nat) → Search → m Search
  | 0, search => return search
  | count + 1, search =>
    match search.next? with
    | none => return search
    | some nonce => do
      let bits ← work nonce
      tryNonces work count ⟨nextNonce? nonce, search.best.orBetter ⟨nonce, bits⟩⟩

/-- Go on for a number of rounds. -/
@[specialize] def tryRounds (work : UInt64 → m Nat) : (rounds : Nat) → Search → m Search
  | 0, search => return search
  | rounds + 1, search => do
    let search ← search.tryNonces work noncesPerRound
    tryRounds work rounds search

end Search

/-- The best nonce that a search of the given number of rounds finds; nonce zero is always tried. -/
@[specialize] def bestInRounds (work : UInt64 → m Nat) (rounds : Nat) : m Trial := do
  let bits ← work 0
  let search ← Search.tryRounds work rounds ⟨some 1, ⟨0, bits⟩⟩
  return search.best

end Work

namespace Envelope

section Digest

variable (digest : Bytes → Hash)

/-- The work that a nonce would prove for the envelope, with digests made by `digest`. -/
def workUnder (envelope : Envelope) (nonce : UInt64) : Nat :=
  Work.ofNonce digest (digest envelope.encodeSeal) nonce

def workProvedUnder (envelope : Envelope) : Nat := envelope.workUnder digest envelope.nonce

/-- Stamp an envelope with the best nonce that a number of rounds finds, and tell its work. -/
def proveWorkUnder (envelope : Envelope) (rounds : Nat) : Envelope × Nat :=
  let sealHash := digest envelope.encodeSeal
  let trial :=
    Id.run (Work.bestInRounds (fun nonce => pure (Work.ofNonce digest sealHash nonce)) rounds)
  ({ envelope with nonce := trial.nonce }, trial.bits)

/-- Stamp an envelope with the first nonce whose work reaches the target, and tell its work. -/
def proveWorkBitsUnder (envelope : Envelope) (target : UInt32) : Envelope × Nat :=
  let sealHash := digest envelope.encodeSeal
  let trial :=
    Id.run (Work.firstReaching (fun nonce => pure (Work.ofNonce digest sealHash nonce))
      (Work.clamp target).toNat 0)
  ({ envelope with nonce := trial.nonce }, trial.bits)

end Digest

def workProved (envelope : Envelope) : Nat := envelope.workProvedUnder keccak256

def score (envelope : Envelope) : Float :=
  Float.ofNat (1 <<< envelope.workProved) * Float.ofNat envelope.ttl.toNat /
    Float.ofNat (max envelope.encodedLength 1)

def proveWork (envelope : Envelope) (rounds : Nat) : Envelope × Nat :=
  envelope.proveWorkUnder keccak256 rounds

def proveWorkBits (envelope : Envelope) (target : UInt32) : Envelope × Nat :=
  envelope.proveWorkBitsUnder keccak256 target

end Envelope

end Courier

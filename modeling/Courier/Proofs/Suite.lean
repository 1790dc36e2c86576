import Mathlib
import Courier.Suite

/-! # What is known of the primitives

Signatures, shared secrets and ciphers are used as black boxes, of which only a few laws matter:
what was encrypted can be decrypted, a signature tells who made it, two key holders arrive at one
secret, and a public key is read back from its short form. The cipher in use keeps its law for
every key, nonce and text. The others are assumed for the keys and the digests at hand. That
signing and encryption succeed is no part of these laws.
-/

namespace Courier

variable {Secret Public : Type}

namespace Suite

/-- Whether encryption never fails. -/
def Encrypts (suite : Suite Secret Public) : Prop :=
  ∀ key nonce plain, ∃ box, suite.encrypt key nonce plain = some box

/-- Whatever was encrypted can be decrypted under the same key and nonce. -/
def Decrypts (suite : Suite Secret Public) : Prop :=
  ∀ key nonce plain box, suite.encrypt key nonce plain = some box →
    suite.decrypt? key nonce box = some plain

/-- Whether the signature of a digest gives away whose it is. -/
def Recovers (suite : Suite Secret Public) (key : Secret) (digest : Hash) : Prop :=
  ∀ signature, suite.sign key digest = some signature →
    suite.recover? digest signature = some (suite.publicKey key)

/-- A signature as signing makes it: two numbers below the order, the second one in the lower half,
and a mark below four, from which the signer can be recovered. -/
structure Signs (suite : Suite Secret Public) (key : Secret) (digest : Hash)
    (signature : Signature) : Prop where
  made : suite.sign key digest = some signature
  r_pos : 1 ≤ signature.r.toNat
  r_lt : signature.r.toNat < Secp256k1.order
  s_pos : 1 ≤ signature.s.toNat
  s_low : signature.s ≤ Signature.halfOrder
  mark : signature.v.toNat ≤ 3
  recovers : suite.recover? digest signature = some (suite.publicKey key)

/-- Two key holders arrive at one secret, and the first one's public key survives its short form. -/
structure Exchanges (suite : Suite Secret Public) (a b : Secret) : Prop where
  agree : suite.agree a (suite.publicKey b) = suite.agree b (suite.publicKey a)
  readBack : suite.decodeKey? (suite.compress (suite.publicKey a)).toList =
    some (suite.publicKey a)

end Suite

namespace Cipher

theorem length_toOctets (words : List UInt32) :
    (ChaChaState.toOctets words).length = 4 * words.length := by
  simp [ChaChaState.toOctets, littleEndianOctets, List.length_flatMap, Nat.mul_comm]

theorem length_keyStreamBlock (key : Hash) (nonce : Octets 12) (counter : Nat) :
    (keyStreamBlock key nonce counter).length = 64 := by
  rw [keyStreamBlock, length_toOctets, List.length_zipWith, Vector.length_toList,
    Vector.length_toList, Nat.min_self]

theorem zipWith_xor_xor {octets stream : Bytes} (short : octets.length ≤ stream.length) :
    List.zipWith (· ^^^ ·) (List.zipWith (· ^^^ ·) octets stream) stream = octets := by
  induction octets generalizing stream with
  | nil => rfl
  | cons octet rest ih =>
      cases stream with
      | nil => cases short
      | cons mask stream =>
          have cancel : octet ^^^ mask ^^^ mask = octet := by
            rw [UInt8.xor_assoc, UInt8.xor_self, UInt8.xor_zero]
          rw [List.zipWith_cons_cons, List.zipWith_cons_cons, ih (Nat.le_of_succ_le_succ short),
            cancel]

theorem mixKeyStream_nil (key : Hash) (nonce : Octets 12) (blocks counter : Nat) :
    mixKeyStream key nonce blocks counter [] = [] := by
  induction blocks generalizing counter with
  | zero => rfl
  | succ blocks ih => rw [mixKeyStream, List.zipWith_nil_left, List.drop_nil, ih, List.nil_append]

theorem mixKeyStream_last (key : Hash) (nonce : Octets 12) (blocks counter : Nat) {octets : Bytes}
    (last : octets.length ≤ 64) :
    mixKeyStream key nonce (blocks + 1) counter octets =
      List.zipWith (· ^^^ ·) octets (keyStreamBlock key nonce counter) := by
  rw [mixKeyStream, List.drop_eq_nil_of_le last, mixKeyStream_nil, List.append_nil]

theorem mixKeyStream_append (key : Hash) (nonce : Octets 12) (blocks counter : Nat)
    {front : Bytes} (whole : front.length = 64) (rest : Bytes) :
    mixKeyStream key nonce (blocks + 1) counter (front ++ rest) =
      List.zipWith (· ^^^ ·) front (keyStreamBlock key nonce counter) ++
        mixKeyStream key nonce blocks (counter + 1) rest := by
  have stream := length_keyStreamBlock key nonce counter
  have mixed : List.zipWith (· ^^^ ·) (front ++ rest) (keyStreamBlock key nonce counter) =
      List.zipWith (· ^^^ ·) front (keyStreamBlock key nonce counter) := by
    rw [← List.append_nil (keyStreamBlock key nonce counter),
      List.zipWith_append (whole.trans stream.symm), List.zipWith_nil_right, List.append_nil,
      List.append_nil]
  rw [mixKeyStream, mixed, List.drop_left' whole]

theorem length_mixKeyStream (key : Hash) (nonce : Octets 12) {blocks : Nat} (counter : Nat)
    {octets : Bytes} (short : octets.length ≤ 64 * blocks) :
    (mixKeyStream key nonce blocks counter octets).length = octets.length := by
  induction blocks generalizing counter octets with
  | zero => exact (Nat.le_zero.1 short).symm
  | succ blocks ih =>
      have rest : (octets.drop 64).length ≤ 64 * blocks := by
        rw [List.length_drop]
        omega
      rw [mixKeyStream, List.length_append, List.length_zipWith, length_keyStreamBlock,
        ih _ rest, List.length_drop]
      omega

/-- Mixing octets with the key stream a second time takes it out again. -/
theorem mixKeyStream_mixKeyStream (key : Hash) (nonce : Octets 12) {blocks : Nat} (counter : Nat)
    {octets : Bytes} (short : octets.length ≤ 64 * blocks) :
    mixKeyStream key nonce blocks counter (mixKeyStream key nonce blocks counter octets) =
      octets := by
  induction blocks generalizing counter octets with
  | zero => exact (List.eq_nil_of_length_eq_zero (Nat.le_zero.1 short)).symm
  | succ blocks ih =>
      have stream := length_keyStreamBlock key nonce counter
      by_cases last : octets.length ≤ 64
      · have mixed := mixKeyStream_last key nonce blocks counter last
        have stillLast : (mixKeyStream key nonce (blocks + 1) counter octets).length ≤ 64 := by
          rwa [length_mixKeyStream key nonce counter short]
        rw [mixKeyStream_last key nonce blocks counter stillLast, mixed,
          zipWith_xor_xor (last.trans stream.ge)]
      · have front : (octets.take 64).length = 64 := by
          rw [List.length_take]
          omega
        have rest : (octets.drop 64).length ≤ 64 * blocks := by
          rw [List.length_drop]
          omega
        have mixed : (List.zipWith (· ^^^ ·) (octets.take 64)
            (keyStreamBlock key nonce counter)).length = 64 := by
          rw [List.length_zipWith, front, stream, Nat.min_self]
        calc mixKeyStream key nonce (blocks + 1) counter
              (mixKeyStream key nonce (blocks + 1) counter octets)
            = mixKeyStream key nonce (blocks + 1) counter
                (List.zipWith (· ^^^ ·) (octets.take 64) (keyStreamBlock key nonce counter) ++
                  mixKeyStream key nonce blocks (counter + 1) (octets.drop 64)) := by
              rw [← mixKeyStream_append key nonce blocks counter front, List.take_append_drop]
          _ = octets.take 64 ++ octets.drop 64 := by
              rw [mixKeyStream_append key nonce blocks counter mixed, ih _ rest,
                zipWith_xor_xor (front.trans stream.symm).le]
          _ = octets := List.take_append_drop 64 octets

theorem length_sealTag (key : Hash) (nonce : Octets 12) (encrypted : Bytes) :
    (sealTag key nonce encrypted).length = 16 := by
  rw [sealTag, tagUnder, littleEndianOctets, List.length_reverse, Bytes.length_ofNat]

/-- What was encrypted is decrypted under the same key and nonce. -/
theorem decrypt?_encrypt (key : Hash) (nonce : Octets 24) (plain : Bytes) :
    decrypt? key nonce (encrypt key nonce plain) = some plain := by
  rw [encrypt, decrypt?]
  generalize shorten key nonce = short
  obtain ⟨key, nonce⟩ := short
  have blocks : plain.length ≤ 64 * ((plain.length + 63) / 64) := by omega
  have length := length_mixKeyStream key nonce 1 blocks
  have again := mixKeyStream_mixKeyStream key nonce 1 blocks
  simp only
  generalize mixKeyStream key nonce ((plain.length + 63) / 64) 1 plain = mixed at length again ⊢
  have tag := length_sealTag key nonce mixed
  have front : (mixed ++ sealTag key nonce mixed).length - 16 = mixed.length := by
    rw [List.length_append, tag, Nat.add_sub_cancel]
  have long : ¬ (mixed ++ sealTag key nonce mixed).length < 16 := by
    rw [List.length_append, tag]
    omega
  rw [if_neg long, front, List.take_left, List.drop_left, if_pos rfl, length, again]

end Cipher

theorem Suite.standard_encrypts : Suite.standard.Encrypts := fun _ _ _ => ⟨_, rfl⟩

theorem Suite.standard_decrypts : Suite.standard.Decrypts := by
  rintro key nonce plain box ⟨⟩
  exact Cipher.decrypt?_encrypt key nonce plain

end Courier

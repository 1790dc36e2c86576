import Mathlib
import Courier.Proofs.Host.Posting
import Courier.Proofs.Pool.Admission

/-! # How long an envelope lives

The second in which an envelope was sealed and the number of seconds that it was given decide all
that is ever asked about its time: when it was sealed, whether it is expired, and whether a pool
refuses it for its time. Clocks have 64 bits and the times of an envelope 32; where a sum or a
difference would not fit, the answers are those of whole numbers without any bound. The life of a
post begins before the search for work, which may outlast it.
-/

namespace Courier

/-- Whether an envelope is not refused for its time. -/
def Outcome.Timely (outcome : Outcome) : Prop :=
  outcome ≠ .rejected .expired ∧ outcome ≠ .rejected .fromFuture

namespace Pool

theorem insert_expired_iff (pool : Pool) (now : UInt64) (envelope : Envelope) :
    (pool.insert now envelope).2 = .rejected .expired ↔ envelope.isExpired now = true := by
  have inserts := insert_inserts pool now envelope
  generalize (pool.insert now envelope).1 = after, (pool.insert now envelope).2 = outcome
    at inserts ⊢
  cases inserts with
  | expired expired => simp [expired]
  | fromFuture live | duplicate live | tooWeak live => simp [live]
  | full admissible | accepted admissible => simp [admissible.live]

theorem insert_fromFuture_iff (pool : Pool) (now : UInt64) (envelope : Envelope) :
    (pool.insert now envelope).2 = .rejected .fromFuture ↔ envelope.isExpired now = false ∧
      saturatingAdd now pool.policy.maxSkew < envelope.sent := by
  have inserts := insert_inserts pool now envelope
  generalize (pool.insert now envelope).1 = after, (pool.insert now envelope).2 = outcome
    at inserts ⊢
  cases inserts with
  | expired expired => simp [expired]
  | fromFuture live early => simp [live, early]
  | duplicate _ timely | tooWeak _ timely => simp [timely]
  | full admissible | accepted admissible => simp [admissible.timely]

end Pool

variable {Secret Public : Type} {suite : Suite Secret Public} {now : UInt64} {ttl : UInt32}
  {envelope : Envelope}

namespace Envelope

/-- Whether an envelope lives for `ttl` seconds from the second `now` on: as it says itself, and as
every pool says, whatever its clock shows. -/
structure Lives (envelope : Envelope) (now : UInt64) (ttl : UInt32) : Prop where
  sent : envelope.sent = now
  expired : ∀ time : UInt64,
    envelope.isExpired time = true ↔ now.toNat + ttl.toNat ≤ time.toNat
  early : ∀ skew time : UInt64,
    saturatingAdd time skew < envelope.sent ↔ time.toNat + skew.toNat < now.toNat

/-- An envelope lives from the second on that lies its time to live before its expiry. -/
theorem lives_of_expiry (expiry : envelope.expiry.toNat = now.toNat + ttl.toNat)
    (life : envelope.ttl = ttl) : envelope.Lives now ttl where
  sent := by
    rw [Envelope.sent, expiry, life, Nat.add_sub_cancel, UInt64.ofNat_toNat]
  expired := by
    intro time
    rw [isExpired_iff, expiry]
  early := by
    intro skew time
    rw [saturatingAdd_lt_sent, expiry, life]
    omega

theorem lives_of_create {topics : Topics} {data : Bytes}
    (made : create now ttl topics data = .ok envelope) : envelope.Lives now ttl := by
  obtain ⟨soon, rfl⟩ := create_eq_ok.1 made
  refine lives_of_expiry (UInt32.toNat_ofNat_of_lt' ?_) rfl
  rw [UInt32.size]
  omega

namespace Lives

theorem withNonce (h : envelope.Lives now ttl) (nonce : UInt64) :
    Lives { envelope with nonce } now ttl := ⟨h.sent, h.expired, h.early⟩

theorem insert_expired_iff (h : envelope.Lives now ttl) (pool : Pool) (time : UInt64) :
    (pool.insert time envelope).2 = .rejected .expired ↔
      now.toNat + ttl.toNat ≤ time.toNat := by
  rw [Pool.insert_expired_iff, h.expired]

theorem insert_fromFuture_iff (h : envelope.Lives now ttl) (pool : Pool) (time : UInt64) :
    (pool.insert time envelope).2 = .rejected .fromFuture ↔
      time.toNat + pool.policy.maxSkew.toNat < now.toNat := by
  rw [Pool.insert_fromFuture_iff, ← Bool.not_eq_true, h.expired, h.early]
  omega

/-- A pool takes an envelope for timely while it lives and if it is not too far ahead. -/
theorem insert_timely_iff (h : envelope.Lives now ttl) (pool : Pool) (time : UInt64) :
    (pool.insert time envelope).2.Timely ↔
      time.toNat < now.toNat + ttl.toNat ∧ now.toNat ≤ time.toNat + pool.policy.maxSkew.toNat := by
  rw [Outcome.Timely, ne_eq, ne_eq, h.insert_expired_iff, h.insert_fromFuture_iff]
  omega

end Lives

end Envelope

theorem OutgoingMessage.lives_of_toEnvelope {message : OutgoingMessage Secret Public}
    {full : List FullTopic} {fresh : Freshness Secret}
    (made : message.toEnvelope suite full ttl now fresh = .ok envelope) :
    envelope.Lives now ttl := by
  obtain ⟨topics, data, -, -, created⟩ := OutgoingMessage.toEnvelope_eq_ok.1 made
  exact Envelope.lives_of_create created

namespace Host

variable {request : PostRequest Secret Public} {chance : Chance Secret}

theorem lives_of_compose (composed : compose suite now request chance = .ok envelope) :
    envelope.Lives now request.ttl := by
  obtain ⟨plain, nonce, made, rfl⟩ := exists_toEnvelope_of_compose composed
  exact (OutgoingMessage.lives_of_toEnvelope made).withNonce nonce

/-- A post is refused as expired exactly if its envelope was made and does not live any more when
the pool looks at it. -/
theorem post_expired_iff (host : Host) (suite : Suite Secret Public) (network : Network)
    (now : UInt64) (request : PostRequest Secret Public) (chance : Chance Secret) :
    (host.post suite network now request chance).2 = .error (.rejected .expired) ↔
      (∃ envelope, compose suite now request chance = .ok envelope) ∧
        now.toNat + request.ttl.toNat ≤ chance.admission.toNat := by
  rw [post_eq_rejected, ← exists_and_right]
  refine exists_congr fun envelope => and_congr_right fun composed => ?_
  exact (lives_of_compose composed).insert_expired_iff host.pool chance.admission

theorem post_fromFuture_iff (host : Host) (suite : Suite Secret Public) (network : Network)
    (now : UInt64) (request : PostRequest Secret Public) (chance : Chance Secret) :
    (host.post suite network now request chance).2 = .error (.rejected .fromFuture) ↔
      (∃ envelope, compose suite now request chance = .ok envelope) ∧
        chance.admission.toNat + host.pool.policy.maxSkew.toNat < now.toNat := by
  rw [post_eq_rejected, ← exists_and_right]
  refine exists_congr fun envelope => and_congr_right fun composed => ?_
  exact (lives_of_compose composed).insert_fromFuture_iff host.pool chance.admission

end Host

/-- Creation succeeds exactly if the end of the life fits into 32 bits, and so does sealing if the
topics are few and the primitives do not fail. The time of a post is judged when the pool looks at
it, which is later than its sealing by the search for work. -/
theorem Envelope.lives_from_sealing (suite : Suite Secret Public) (now : UInt64) (ttl : UInt32) :
    (∀ topics data,
      ((∃ envelope, Envelope.create now ttl topics data = .ok envelope) ↔
        now.toNat + ttl.toNat ≤ 2 ^ 32 - 1) ∧
      ∀ envelope, Envelope.create now ttl topics data = .ok envelope →
        envelope.Lives now ttl ∧
        ∀ (pool : Pool) time, (pool.insert time envelope).2.Timely ↔
          time.toNat < now.toNat + ttl.toNat ∧
            now.toNat ≤ time.toNat + pool.policy.maxSkew.toNat) ∧
    (∀ (message : OutgoingMessage Secret Public) full fresh,
      ((∃ envelope, message.toEnvelope suite full ttl now fresh = .ok envelope) ↔
        full.length ≤ maxTopics ∧ message.Sealable suite full fresh ∧
          now.toNat + ttl.toNat ≤ 2 ^ 32 - 1) ∧
      ∀ envelope, message.toEnvelope suite full ttl now fresh = .ok envelope →
        envelope.Lives now ttl ∧
        ∀ (pool : Pool) time, (pool.insert time envelope).2.Timely ↔
          time.toNat < now.toNat + ttl.toNat ∧
            now.toNat ≤ time.toNat + pool.policy.maxSkew.toNat) ∧
    ∀ (host : Host) network (request : PostRequest Secret Public) chance, request.ttl = ttl →
      let posted := (host.post suite network now request chance).2
      (posted = .error (.rejected .expired) ↔
        (∃ envelope, Host.compose suite now request chance = .ok envelope) ∧
          now.toNat + ttl.toNat ≤ chance.admission.toNat) ∧
      (posted = .error (.rejected .fromFuture) ↔
        (∃ envelope, Host.compose suite now request chance = .ok envelope) ∧
          chance.admission.toNat + host.pool.policy.maxSkew.toNat < now.toNat) ∧
      (1 ≤ ttl → chance.admission = now →
        posted ≠ .error (.rejected .expired) ∧ posted ≠ .error (.rejected .fromFuture)) := by
  refine ⟨fun topics data => ⟨?created, fun _ made => ?_⟩,
    fun message full fresh => ⟨OutgoingMessage.toEnvelope_isOk_iff, fun _ made => ?_⟩, ?posted⟩
  case created =>
    simp only [create_eq_ok, exists_and_left, exists_eq, and_true]
    rfl
  case posted =>
    rintro host network request chance rfl posted
    have expired := host.post_expired_iff suite network now request chance
    have early := host.post_fromFuture_iff suite network now request chance
    refine ⟨expired, early, fun lasting still => ?_⟩
    rw [ne_eq, ne_eq, expired, early, still]
    have lasting : 1 ≤ request.ttl.toNat := UInt32.le_iff_toNat_le.1 lasting
    omega
  · have lives := lives_of_create made
    exact ⟨lives, lives.insert_timely_iff⟩
  · have lives := OutgoingMessage.lives_of_toEnvelope made
    exact ⟨lives, lives.insert_timely_iff⟩

namespace Host

section Outlived

open Envelope (passing)

/-- A post for one second, for which work may be sought for two. -/
def briefRequest : PostRequest Secp256k1.SecretKey Secp256k1.PublicKey :=
  ⟨⟨[1], none, none⟩, [], 1, .time (.ofSeconds 2)⟩

/-- The search takes the time that it is given. -/
def longSearch : Chance Secp256k1.SecretKey := ⟨passing, 1, 102, 102⟩

/-- The primitives in use, but for an encryption that always fails. -/
def failingSuite : Suite Secp256k1.SecretKey Secp256k1.PublicKey :=
  { Suite.standard with encrypt := fun _ _ _ => none }

/-- A post is refused as expired by its own pool when the search for work outlasts it, and its
message cannot be sealed at all if its encryption fails. -/
theorem brief_post_expires :
    1 ≤ briefRequest.ttl ∧ (100 : UInt64).toNat + briefRequest.ttl.toNat ≤ 2 ^ 32 - 1 ∧
    ((fresh .standard ⟨1, 0, 30⟩ .leastHash).post .standard .reliable 100 briefRequest
      longSearch).2 = .error (.rejected .expired) ∧
    briefRequest.message.toEnvelope failingSuite [] briefRequest.ttl 100 passing =
      .error .encryption := by
  refine ⟨by decide, by decide, ?_, rfl⟩
  have sealable : briefRequest.message.Sealable .standard [] passing :=
    ⟨nofun, fun plain _ => Suite.standard_encrypts _ _ plain⟩
  obtain ⟨plain, made⟩ : ∃ plain, briefRequest.message.toEnvelope .standard [] briefRequest.ttl 100
      passing = .ok plain := OutgoingMessage.toEnvelope_isOk_iff.2 ⟨by decide, sealable, by decide⟩
  exact (post_expired_iff ..).2 ⟨⟨_, compose_eq_ok.2 ⟨nofun, plain, made, rfl⟩⟩, by decide⟩

end Outlived

end Host

end Courier

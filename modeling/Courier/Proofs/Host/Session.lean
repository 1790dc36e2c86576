import Mathlib
import Courier.Proofs.Host.Moves

/-! # What happens on one connection

A session records what a host queues for a peer, hands to the network for it and receives from
it while it stays connected, move by move. It begins when the peer is attached and is forgotten
when the peer is detached.
-/

namespace Courier

variable {Secret Public : Type}

/-- The envelopes of one packet, with the pool and the clock in the moment it was handed over. -/
structure Delivery where
  pool : Pool
  now : UInt64
  envelopes : List Envelope

/-- What has happened since a peer connected. -/
structure Session where
  /-- The hashes that were queued for the peer, in order. -/
  queued : List Hash
  /-- The packets of envelopes that were handed to the network for the peer, in order. -/
  deliveries : List Delivery
  /-- The hashes of the envelopes that came from the peer. -/
  received : List Hash
  /-- The hashes that left the queue when the pool did not hold their envelope any more. -/
  gone : List Hash
  /-- The envelopes that were expired when their hash left the queue. -/
  stale : List Envelope

/-- The envelopes of a packet. -/
def Packet.contents : Packet → List Envelope
  | .status _ => []
  | .messages envelopes => envelopes

/-- The packets of envelopes among what was handed to the network for a peer. -/
def messagesTo (peer : PeerId) (handed : List Handover) : List (List Envelope) :=
  handed.filterMap fun handover =>
    match handover.packet with
    | .messages envelopes => if handover.peer = peer then some envelopes else none
    | .status _ => none

/-- The hashes that a move brings from a peer. -/
def Move.receivedFrom (peer : PeerId) : Move → List Hash
  | .offer envelope (some source) => if source = peer then [envelope.hash] else []
  | _ => []

theorem Move.mem_receivedFrom {peer : PeerId} {m : Move} {hash : Hash} :
    hash ∈ m.receivedFrom peer ↔
      ∃ envelope, m = .offer envelope (some peer) ∧ envelope.hash = hash := by
  cases m with
  | attach | detach | announce | fill | hear | note | flush | sweep | rewatch =>
      simp [receivedFrom]
  | offer envelope source =>
      cases source with
      | none => simp [receivedFrom]
      | some sender =>
          by_cases same : sender = peer
          · simp [receivedFrom, same, eq_comm]
          · simp [receivedFrom, same]

/-- The hashes that a peer is noted to have by a move that does not queue them for it. -/
def Move.marksFor (peer : PeerId) : Move → List Hash
  | .offer envelope (some source) => if source = peer then [envelope.hash] else []
  | .note hash (some source) => if source = peer then [hash] else []
  | _ => []

namespace Host

/-- The envelopes behind queued hashes that are held but expired. -/
def staleQueued (host : Host) (now : UInt64) (queue : List Hash) : List Envelope :=
  (queue.filterMap host.pool.lookup).filter fun envelope => envelope.isExpired now

/-- The hashes that wait for a peer. -/
def queueFor (host : Host) (peer : PeerId) : List Hash :=
  ((host.peer? peer).map (·.queue)).getD []

end Host

namespace Session

/-- A session in which nothing has happened. -/
def blank : Session := ⟨[], [], [], [], []⟩

/-- The hashes of all envelopes that were handed to the network, in order. -/
def handed (session : Session) : List Hash :=
  session.deliveries.flatMap fun delivery => delivery.envelopes.map (·.hash)

/-- The session with a peer after a move that was made at `now`. -/
def next (peer : PeerId) (now : UInt64) (before : Host) (m : Move) (after : Host)
    (session : Session) : Session :=
  if before.isConnected peer && after.isConnected peer then
    let left := (before.queueFor peer).filter fun hash => hash ∉ after.queueFor peer
    let sent := messagesTo peer (after.outbox.drop before.outbox.length)
    { queued := session.queued ++
        (after.queueFor peer).drop (before.queueFor peer).length
      deliveries := session.deliveries ++ sent.map fun envelopes => ⟨before.pool, now, envelopes⟩
      received := session.received ++ m.receivedFrom peer
      gone := session.gone ++ left.filter fun hash => (before.pool.lookup hash).isNone
      stale := session.stale ++ before.staleQueued now left }
  else blank

end Session

namespace Host

/-- Make moves and keep the session with a peer. -/
def followMoves (network : Network) (clock : Move → UInt64) (peer : PeerId) :
    Host → Session → List Move → Host × Session
  | host, session, [] => (host, session)
  | host, session, m :: rest =>
    let after := host.move network (clock m) m
    followMoves network clock peer after (session.next peer (clock m) host m after) rest

/-- Do operations and keep the session with a peer. -/
def follow (suite : Suite Secret Public) (network : Network) (peer : PeerId) :
    Host → Session → List (UInt64 × HostOperation Secret Public) → Host × Session
  | host, session, [] => (host, session)
  | host, session, (now, operation) :: rest =>
    let (after, grown) :=
      followMoves network (operation.clock now) peer host session
        (host.movesOf suite now operation)
    follow suite network peer after grown rest

variable {host : Host} {session : Session} {peer : PeerId} {network : Network}
  {clock : Move → UInt64}

theorem followMoves_fst (network : Network) (clock : Move → UInt64) (peer : PeerId) (host : Host)
    (session : Session) (moves : List Move) :
    (followMoves network clock peer host session moves).1 = host.moveAll network clock moves := by
  induction moves generalizing host session with
  | nil => rfl
  | cons m rest ih => exact ih _ _

/-- Keeping a session does not change what is done. -/
theorem follow_fst (suite : Suite Secret Public) (network : Network) (peer : PeerId) (host : Host)
    (session : Session) (operations : List (UInt64 × HostOperation Secret Public)) :
    (follow suite network peer host session operations).1 = host.run suite network operations := by
  induction operations generalizing host session with
  | nil => rfl
  | cons first rest ih =>
      rw [follow, ih, followMoves_fst, ← perform_eq]
      rfl

theorem followMoves_induction (network : Network) (clock : Move → UInt64) (peer : PeerId)
    (moves : List Move) (Holds : Host → Session → Prop)
    (step : ∀ now host session, ∀ m ∈ moves, Holds host session →
      Holds (host.move network now m) (session.next peer now host m (host.move network now m)))
    (start : Holds host session) :
    Holds (followMoves network clock peer host session moves).1
      (followMoves network clock peer host session moves).2 := by
  induction moves generalizing host session with
  | nil => exact start
  | cons m rest ih =>
      refine ih ?_ (step (clock m) host session m List.mem_cons_self start)
      exact fun now host session m member =>
        step now host session m (List.mem_cons_of_mem _ member)

/-- What time and every move keep holds after moves that are made in order. -/
theorem followMoves_timed (network : Network) (peer : PeerId) (moves : List Move)
    {now finish : UInt64}
    (orderly : (now :: (moves.map clock ++ [finish])).Pairwise (· ≤ ·))
    (Holds : UInt64 → Host → Session → Prop)
    (tick : ∀ now later host session, now ≤ later → Holds now host session →
      Holds later host session)
    (step : ∀ now host session, ∀ m ∈ moves, Holds now host session →
      Holds now (host.move network now m) (session.next peer now host m (host.move network now m)))
    (start : Holds now host session) :
    Holds finish (followMoves network clock peer host session moves).1
      (followMoves network clock peer host session moves).2 := by
  induction moves generalizing host session now with
  | nil => exact tick now finish host session (List.rel_of_pairwise_cons orderly (by simp)) start
  | cons m rest ih =>
      obtain ⟨le, orderly⟩ := List.pairwise_cons.1 orderly
      have ticked := tick now (clock m) host session (le _ List.mem_cons_self) start
      refine ih orderly ?_ (step (clock m) host session m List.mem_cons_self ticked)
      exact fun now host session m member =>
        step now host session m (List.mem_cons_of_mem _ member)

end Host

end Courier

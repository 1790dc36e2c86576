import Mathlib
import Courier.Proofs.Host.Alike
import Courier.Proofs.Host.Completeness

/-! # No echo

What came from a peer is not sent back to it. A peer is known to have all that came from it, so
nothing of that is queued for it later; and nothing of it is waiting then, for between operations no
queue holds anything, and a peer's own packet queues nothing for it before all queues are flushed.
-/

namespace Courier

variable {Secret Public : Type}

/-- What passes between a host and a peer. -/
inductive Exchange where
  /-- An envelope with this hash came from the peer. -/
  | arrived (hash : Hash)
  /-- A packet of envelopes was handed to the network for the peer. -/
  | handed (envelopes : List Envelope)
  deriving DecidableEq

namespace Exchange

/-- Whether something is handed to the network for a peer that came from it. -/
def Echoes : Exchange → Exchange → Prop
  | .handed envelopes, .arrived hash => ∃ envelope ∈ envelopes, envelope.hash = hash
  | _, _ => False

theorem not_arrived_echoes (hash : Hash) (other : Exchange) : ¬ (arrived hash).Echoes other := by
  cases other <;> exact id

theorem handed_echoes {envelopes : List Envelope} {other : Exchange} :
    (handed envelopes).Echoes other ↔
      ∃ envelope ∈ envelopes, other = .arrived envelope.hash := by
  cases other with
  | arrived hash => simp [Echoes, eq_comm]
  | handed => simp [Echoes]

/-- What has passed since a peer connected, after one more move; nothing if it is not connected. -/
def next (peer : PeerId) (before : Host) (m : Move) (after : Host) (talk : List Exchange) :
    List Exchange :=
  if before.isConnected peer && after.isConnected peer then
    talk ++ (m.receivedFrom peer).map .arrived ++
      (messagesTo peer (after.outbox.drop before.outbox.length)).map .handed
  else []

end Exchange

namespace Host

/-- What has passed since a peer connected, after some more moves. -/
def talkAfter (network : Network) (clock : Move → UInt64) (peer : PeerId) (host : Host)
    (talk : List Exchange) : List Move → List Exchange
  | [] => talk
  | m :: rest =>
    let after := host.move network (clock m) m
    talkAfter network clock peer after (Exchange.next peer host m after talk) rest

/-- What has passed since a peer connected, after some more operations. -/
def talkWith (suite : Suite Secret Public) (network : Network) (peer : PeerId) (host : Host)
    (talk : List Exchange) : List (UInt64 × HostOperation Secret Public) → List Exchange
  | [] => talk
  | (now, operation) :: rest =>
    talkWith suite network peer (host.perform suite network now operation)
      (talkAfter network (operation.clock now) peer host talk (host.movesOf suite now operation))
      rest

theorem talkAfter_append (network : Network) (clock : Move → UInt64) (peer : PeerId) (host : Host)
    (talk : List Exchange) (first rest : List Move) :
    talkAfter network clock peer host talk (first ++ rest) =
      talkAfter network clock peer (host.moveAll network clock first)
        (talkAfter network clock peer host talk first) rest := by
  induction first generalizing host talk with
  | nil => rfl
  | cons m first ih => exact ih _ _

end Host

section Silence

variable {host : Host} {peer other : PeerId} {state : PeerState} {network : Network}
  {now : UInt64} {m : Move} {talk : List Exchange} {envelope : Envelope}

/-- What came from a peer is known of it and does not wait for it, and nothing was echoed. -/
structure Silent (peer : PeerId) (host : Host) (talk : List Exchange) : Prop where
  pool : host.pool.WellFormed
  heard : ∀ state, host.peer? peer = some state → ∀ hash, .arrived hash ∈ talk →
    hash ∈ state.known ∧ hash ∉ state.queue
  silent : talk.Pairwise fun earlier later => ¬ later.Echoes earlier

theorem Host.offer_queueFor (host : Host) (network : Network) (now : UInt64) (peer : PeerId)
    (envelope : Envelope) :
    (host.move network now (.offer envelope (some peer))).queueFor peer = host.queueFor peer := by
  rw [move, inject_queueFor, gains_own, List.append_nil]

namespace Exchange

theorem next_of_not_connected {after : Host}
    (absent : host.peer? peer = none ∨ after.peer? peer = none) :
    next peer host m after talk = [] := if_neg (Host.not_connected_both absent)

theorem next_of_connected {grown : PeerState} (connected : host.peer? peer = some state)
    (connected' : (host.move network now m).peer? peer = some grown) :
    next peer host m (host.move network now m) talk =
      talk ++ (m.receivedFrom peer).map .arrived ++
        (messagesTo peer (host.handedBy network now m)).map .handed := by
  rw [next, if_pos (by simp [Host.isConnected, connected, connected']), Host.move_outbox,
    List.drop_left]

end Exchange

namespace Silent

theorem start (wellFormed : host.pool.WellFormed) : Silent peer host [] where
  pool := wellFormed
  heard := nofun
  silent := .nil

theorem flush (h : Silent peer host talk) (network : Network) (now : UInt64)
    (connected : host.peer? peer = some state) :
    Silent peer (host.move network now (.flush peer))
      (Exchange.next peer host (.flush peer) (host.move network now (.flush peer)) talk) := by
  have emptied := Host.move_flush_peer? connected network now
  -- what is handed over was waiting, so nothing of it has come from the peer
  have waited : ∀ envelopes ∈ messagesTo peer (host.handedBy network now (.flush peer)),
      ∀ envelope ∈ envelopes, envelope.hash ∈ state.queue := by
    intro envelopes packet envelope part
    have packed := (Host.messagesTo_handovers network peer _ _).subset packet
    have whole := List.mem_flatten_of_mem packed part
    rw [Host.packing, Host.flatten_batches, Host.queueFor_of_peer? connected] at whole
    obtain ⟨hash, queued, found, -⟩ := Host.mem_liveQueued.1 whole
    exact (h.pool.lookup_eq_some.1 found).1 ▸ queued
  have brings : (Move.flush peer).receivedFrom peer = [] := rfl
  rw [Exchange.next_of_connected connected emptied, brings, List.map_nil, List.append_nil]
  refine ⟨Host.move_wellFormed h.pool network now _, ?_, ?_⟩
  · intro after connected' hash arrived
    cases emptied.symm.trans connected'
    have old : .arrived hash ∈ talk := by simpa using arrived
    exact ⟨(h.heard state connected hash old).1, List.not_mem_nil⟩
  · refine List.pairwise_append.2 ⟨h.silent, ?_, ?_⟩
    · rw [List.pairwise_map]
      exact List.pairwise_of_forall fun _ _ => id
    · intro earlier old later new echoed
      obtain ⟨envelopes, packet, rfl⟩ := List.mem_map.1 new
      obtain ⟨envelope, part, rfl⟩ := Exchange.handed_echoes.1 echoed
      exact (h.heard state connected _ old).2 (waited envelopes packet envelope part)

theorem grow (h : Silent peer host talk) (network : Network) (now : UInt64)
    (connected : host.peer? peer = some state) (notDetach : m ≠ .detach peer)
    (notFlush : m ≠ .flush peer)
    (quiet : ∀ envelope, m = .offer envelope (some peer) → host.queueFor peer = []) :
    Silent peer (host.move network now m)
      (Exchange.next peer host m (host.move network now m) talk) := by
  obtain ⟨grown, added, connected', grows, -⟩ :=
    Host.move_grows connected network now notFlush notDetach
  rw [Exchange.next_of_connected connected connected',
    Host.messagesTo_handedBy network now host notFlush, List.map_nil, List.append_nil]
  refine ⟨Host.move_wellFormed h.pool network now m, ?_, ?_⟩
  · intro after after' hash arrived
    cases connected'.symm.trans after'
    rcases List.mem_append.1 arrived with old | new
    · obtain ⟨known, absent⟩ := h.heard state connected hash old
      refine ⟨(grows.known hash).2 (.inl known), ?_⟩
      rw [grows.queue, List.mem_append]
      -- a hash is queued when it becomes known, and this one was known already
      exact fun waits => waits.elim absent fun fresh => grows.fresh hash fresh known
    · obtain ⟨_, received, same⟩ := List.mem_map.1 new
      cases same
      obtain ⟨envelope, rfl, rfl⟩ := Move.mem_receivedFrom.1 received
      refine ⟨(grows.known _).2 (.inr (.inr ?_)), ?_⟩
      · simp [Move.marksFor]
      · rw [← Host.queueFor_of_peer? connected', Host.offer_queueFor, quiet envelope rfl]
        exact List.not_mem_nil
  · refine List.pairwise_append.2 ⟨h.silent, ?_, ?_⟩
    · rw [List.pairwise_map]
      exact List.pairwise_of_forall fun _ _ => Exchange.not_arrived_echoes _ _
    · intro earlier _ later new
      obtain ⟨hash, -, rfl⟩ := List.mem_map.1 new
      exact Exchange.not_arrived_echoes hash earlier

/-- Nothing is echoed by a move, unless it brings something from the peer while its queue still
holds something. -/
theorem move (h : Silent peer host talk) (network : Network) (now : UInt64)
    (quiet : ∀ envelope, m = .offer envelope (some peer) → host.queueFor peer = []) :
    Silent peer (host.move network now m)
      (Exchange.next peer host m (host.move network now m) talk) := by
  have wellFormed := Host.move_wellFormed h.pool network now m
  cases connected : host.peer? peer with
  | none =>
      rw [Exchange.next_of_not_connected (.inl connected)]
      exact start wellFormed
  | some state =>
      by_cases detached : m = .detach peer
      · subst detached
        rw [Exchange.next_of_not_connected (.inr (Host.move_detach_peer? network now host peer))]
        exact start wellFormed
      · by_cases flushed : m = .flush peer
        · subst flushed
          exact h.flush network now connected
        · exact h.grow network now connected detached flushed quiet

theorem moves (h : Silent peer host talk) (network : Network) (clock : Move → UInt64)
    {moves : List Move} (quiet : ∀ envelope, .offer envelope (some peer) ∉ moves) :
    Silent peer (host.moveAll network clock moves)
      (host.talkAfter network clock peer talk moves) := by
  induction moves generalizing host talk with
  | nil => exact h
  | cons m rest ih =>
      refine ih (h.move network (clock m) ?_) ?_
      · rintro envelope rfl
        exact absurd List.mem_cons_self (quiet envelope)
      · exact fun envelope later => quiet envelope (List.mem_cons_of_mem _ later)

theorem offers (h : Silent peer host talk) (idle : host.queueFor peer = []) (network : Network)
    (clock : Move → UInt64) (items : List (Except Envelope.Malformed Envelope)) :
    Silent peer (host.moveAll network clock (Host.offersFrom peer items))
      (host.talkAfter network clock peer talk (Host.offersFrom peer items)) := by
  induction items generalizing host talk with
  | nil => exact h
  | cons item rest ih =>
      cases item with
      | error fault => exact ih h idle
      | ok envelope =>
          refine ih (h.move network _ fun _ _ => idle) ?_
          rw [Host.offer_queueFor, idle]

theorem offer_not_mem_movesOf {suite : Suite Secret Public}
    {operation : HostOperation Secret Public} (prompt : operation.Prompt)
    (others : ∀ packet, operation ≠ .receive peer packet) (envelope : Envelope) :
    .offer envelope (some peer) ∉ host.movesOf suite now operation := by
  intro member
  have made := Host.mem_movesOf member
  cases operation with
  | inject | noteAccepted => exact prompt.elim
  | receive sender packet =>
      rcases made with ⟨version, made⟩ | ⟨envelope, items, made, -⟩ | ⟨other, made⟩
      · cases made
      · cases made
        exact others packet rfl
      · cases made
  | connect | disconnect | post | flush | flushAll | housekeeping | installWatch | uninstallWatch
  | checkWatch => simp at made

theorem receive (h : Silent peer host talk) (idle : host.queueFor peer = [])
    (suite : Suite Secret Public) (network : Network) (now : UInt64) (packet : Bytes) :
    let clock := (HostOperation.receive peer packet : HostOperation Secret Public).clock now
    let moves := host.movesOf suite now (.receive peer packet)
    Silent peer (host.moveAll network clock moves)
      (host.talkAfter network clock peer talk moves) := by
  intro clock moves
  simp only [moves, Host.movesOf]
  split
  · cases Packet.decode packet with
    | error fault => exact h
    | ok inbound =>
        cases inbound with
        | status version => exact h.moves network clock (by simp)
        | messages items =>
            simp only
            rw [Host.moveAll_append, Host.talkAfter_append]
            refine (h.offers idle network clock items).moves network clock ?_
            intro envelope member
            obtain ⟨other, flushed⟩ := Host.mem_flushes member
            cases flushed
  · exact h

theorem perform (h : Silent peer host talk) (idle : host.queueFor peer = [])
    {operation : HostOperation Secret Public} (prompt : operation.Prompt)
    (suite : Suite Secret Public) (network : Network) (now : UInt64) :
    Silent peer (host.perform suite network now operation)
      (host.talkAfter network (operation.clock now) peer talk
        (host.movesOf suite now operation)) := by
  rw [Host.perform_eq]
  by_cases own : ∃ packet, operation = .receive peer packet
  · obtain ⟨packet, rfl⟩ := own
    exact h.receive idle suite network now packet
  · refine h.moves network _ fun envelope => ?_
    exact offer_not_mem_movesOf prompt (fun packet same => own ⟨packet, same⟩) envelope

/-- Every run of operations that flush at once what they queue is silent, and its queues are empty
between the operations. -/
theorem run (h : Silent peer host talk) (idle : host.queueFor peer = [])
    (suite : Suite Secret Public) (network : Network)
    {operations : List (UInt64 × HostOperation Secret Public)}
    (prompt : ∀ operation ∈ operations.map (·.2), operation.Prompt) :
    (host.run suite network operations).queueFor peer = [] ∧
      Silent peer (host.run suite network operations)
        (host.talkWith suite network peer talk operations) := by
  induction operations generalizing host talk with
  | nil => exact ⟨idle, h⟩
  | cons first rest ih =>
      have here := prompt first.2 List.mem_cons_self
      exact ih (h.perform idle here suite network first.1)
        (Host.perform_idle here suite network first.1 idle)
        fun operation member => prompt operation (List.mem_cons_of_mem _ member)

end Silent

end Silence

namespace Host

/-- In every run of operations that flush at once what they queue, whatever the network takes: after
each operation nothing waits for any peer, and nothing is handed over for a peer that came from it
since it connected, be it that it was refused then, or accepted, evicted and accepted again. -/
theorem run_echoes_nothing (suite : Suite Secret Public) (network : Network)
    (settings : HostSettings) (policy : PoolPolicy) (rule : EvictionRule)
    (operations : List (UInt64 × HostOperation Secret Public))
    (prompt : ∀ operation ∈ operations.map (·.2), operation.Prompt) (peer : PeerId) :
    let start := fresh settings policy rule
    (start.run suite network operations).queueFor peer = [] ∧
    (start.talkWith suite network peer [] operations).Pairwise
      fun earlier later => ¬ later.Echoes earlier := by
  intro start
  have silent : Silent peer start [] := .start (.empty policy rule)
  obtain ⟨idle, kept⟩ := silent.run rfl suite network prompt
  exact ⟨idle, kept.silent⟩

section Returning

/-- Two peers send one envelope each to a host that has room for one, and the second peer sends the
first envelope again when the other one is expired. -/
def returningRun : List (UInt64 × HostOperation Secp256k1.SecretKey Secp256k1.PublicKey) :=
  [(100, .connect (Octets.ofNat 1)), (100, .connect (Octets.ofNat 2)),
    (100, .receive (Octets.ofNat 1) (Packet.messages [lasting]).encode),
    (100, .receive (Octets.ofNat 2) (Packet.messages [fleeting]).encode),
    (125, .receive (Octets.ofNat 2) (Packet.messages [lasting]).encode)]

/-- An envelope that was evicted and accepted again is not sent to the peer it first came from. -/
theorem run_echoes_nothing_returning :
    let start := fresh .standard ⟨1, 0, 30⟩ .leastHash
    let talk := start.talkWith .standard .reliable (Octets.ofNat 1) [] returningRun
    (∀ operation ∈ returningRun.map (·.2), operation.Prompt) ∧
    lasting ∈ (start.run .standard .reliable returningRun).pool.residents.map (·.envelope) ∧
    talk = [.arrived lasting.hash, .handed [fleeting]] ∧
    (start.run .standard .reliable returningRun).queueFor (Octets.ofNat 1) = [] ∧
    talk.Pairwise fun earlier later => ¬ later.Echoes earlier := by
  have prompt : ∀ operation ∈ returningRun.map (·.2), operation.Prompt := by
    simp [returningRun, HostOperation.Prompt]
  have reached :
      let start := fresh .standard ⟨1, 0, 30⟩ .leastHash
      lasting ∈ (start.run .standard .reliable returningRun).pool.residents.map (·.envelope) ∧
      start.talkWith .standard .reliable (Octets.ofNat 1) [] returningRun =
        [.arrived lasting.hash, .handed [fleeting]] := by
    decide +kernel
  exact ⟨prompt, reached.1, reached.2, run_echoes_nothing .standard .reliable .standard ⟨1, 0, 30⟩
    .leastHash returningRun prompt (Octets.ofNat 1)⟩

end Returning

end Host

end Courier

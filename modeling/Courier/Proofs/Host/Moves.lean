import Mathlib
import Courier.Proofs.Host.Effects
import Courier.Proofs.Pool.Insertion

/-! # Operations as moves

What can be done to a host from outside is made of a few moves: a peer is attached or detached,
an envelope is offered, a queue is filled or flushed. A property that every move keeps holds
in every run, and what an operation does to a peer is read off its moves.
-/

namespace Courier

variable {Secret Public : Type}

/-- What can be done to a host from outside. -/
inductive HostOperation (Secret Public : Type) where
  | connect (peer : PeerId)
  | disconnect (peer : PeerId)
  | receive (peer : PeerId) (packet : Bytes)
  | post (request : PostRequest Secret Public) (chance : Chance Secret)
  | inject (envelope : Envelope) (source : Option PeerId)
  | noteAccepted (hash : Hash) (source : Option PeerId)
  | flush (peer : PeerId)
  | flushAll
  | housekeeping
  | installWatch (mask : TopicMask)
  | uninstallWatch (id : Nat)
  | checkWatch (id : Nat)

/-- The parts that operations are made of. -/
inductive Move where
  /-- A peer that is not connected yet joins the others. -/
  | attach (peer : PeerId)
  | detach (peer : PeerId)
  /-- The host tells a peer its version. -/
  | announce (peer : PeerId)
  /-- Everything in the pool is queued for a peer. -/
  | fill (peer : PeerId)
  /-- A peer tells its version. -/
  | hear (peer : PeerId) (version : UInt32)
  | offer (envelope : Envelope) (source : Option PeerId)
  | note (hash : Hash) (source : Option PeerId)
  | flush (peer : PeerId)
  | sweep
  /-- The watches change without anything being offered to them. -/
  | rewatch (watches : WatchRegistry)

namespace HostOperation

/-- What the clock shows when an operation that begins at `now` makes a move. A post takes its time:
it looks for work before the pool is asked. -/
def clock (now : UInt64) : HostOperation Secret Public → Move → UInt64
  | .post _ chance => fun
    | .offer _ _ => chance.admission
    | _ => chance.flush
  | _ => fun _ => now

/-- What the clock shows in the course of an operation that begins at `now`. -/
def readings (now : UInt64) : HostOperation Secret Public → List UInt64
  | .post _ chance => [now, chance.admission, chance.flush]
  | _ => [now]

/-- What the clock shows at the end of an operation that begins at `now`. -/
def finish (now : UInt64) : HostOperation Secret Public → UInt64
  | .post _ chance => chance.flush
  | _ => now

theorem mem_readings (operation : HostOperation Secret Public) (now : UInt64) :
    now ∈ operation.readings now := by
  cases operation <;> exact List.mem_cons_self

theorem finish_mem (operation : HostOperation Secret Public) (now : UInt64) :
    operation.finish now ∈ operation.readings now := by
  cases operation <;> simp [finish, readings]

theorem clock_mem (operation : HostOperation Secret Public) (now : UInt64) (m : Move) :
    operation.clock now m ∈ operation.readings now := by
  cases operation with
  | post => cases m <;> simp [clock, readings]
  | connect | disconnect | receive | inject | noteAccepted | flush | flushAll | housekeeping
  | installWatch | uninstallWatch | checkWatch => exact List.mem_singleton_self now

end HostOperation

namespace Host

variable {host : Host} {peer : PeerId} {network : Network} {now : UInt64} {m : Move}
  {clock : Move → UInt64}

/-- A host with nothing in it, whose pool evicts by the given rule. -/
def fresh (settings : HostSettings) (policy : PoolPolicy) (rule : EvictionRule) : Host :=
  { Host.initial settings policy with pool := { Pool.empty policy with rule } }

/-- Do one operation, which begins at the second that the clock shows. -/
def perform (suite : Suite Secret Public) (network : Network) (now : UInt64) (host : Host) :
    HostOperation Secret Public → Host
  | .connect peer => host.connect network now peer
  | .disconnect peer => host.disconnect peer
  | .receive peer packet => host.receive network now peer packet
  | .post request chance => (host.post suite network now request chance).1
  | .inject envelope source => (host.inject now envelope source).1
  | .noteAccepted hash source => host.noteAccepted hash source
  | .flush peer => (host.flush network now peer).1
  | .flushAll => (host.flushAll network now).1
  | .housekeeping => (host.housekeeping now).1
  | .installWatch mask => (host.installWatch mask).1
  | .uninstallWatch id =>
    match host.uninstallWatch id with
    | .ok changed => changed
    | .error _ => host
  | .checkWatch id =>
    match host.checkWatch id with
    | .ok (changed, _) => changed
    | .error _ => host

/-- Do operations one after another, each with what the clock shows then. -/
def run (suite : Suite Secret Public) (network : Network) (host : Host)
    (operations : List (UInt64 × HostOperation Secret Public)) : Host :=
  operations.foldl (fun host (now, operation) => host.perform suite network now operation) host

/-- What the clock shows in the course of a run. -/
def readings (operations : List (UInt64 × HostOperation Secret Public)) : List UInt64 :=
  operations.flatMap fun (now, operation) => operation.readings now

/-- Make one move. -/
def move (network : Network) (now : UInt64) (host : Host) : Move → Host
  | .attach peer =>
    if host.isConnected peer then host
    else { host with peers := host.peers ++ [(peer, PeerState.initial)] }.notePeers
  | .detach peer => host.disconnect peer
  | .announce peer => (host.send network peer (.status host.settings.protocolVersion)).1
  | .fill peer => host.enqueueAll peer host.pool.hashes
  | .hear peer version => host.updatePeer peer (·.setVersion version)
  | .offer envelope source => (host.inject now envelope source).1
  | .note hash source => host.noteAccepted hash source
  | .flush peer => (host.flush network now peer).1
  | .sweep => (host.housekeeping now).1
  | .rewatch watches => { host with watches }

/-- Make moves one after another, each with what the clock shows then. -/
def moveAll (network : Network) (clock : Move → UInt64) (host : Host) (moves : List Move) : Host :=
  moves.foldl (fun host m => host.move network (clock m) m) host

theorem moveAll_append (network : Network) (clock : Move → UInt64) (host : Host)
    (first rest : List Move) :
    host.moveAll network clock (first ++ rest) =
      (host.moveAll network clock first).moveAll network clock rest := List.foldl_append

/-- The flushes of all queues. -/
def flushes (host : Host) : List Move := host.peers.map fun entry => .flush entry.1

/-- The offers of the readable envelopes of a packet. -/
def offersFrom (peer : PeerId) (items : List (Except Envelope.Malformed Envelope)) : List Move :=
  items.filterMap fun item =>
    match item with
    | .ok envelope => some (.offer envelope (some peer))
    | .error _ => none

/-- The moves of which an operation is made. -/
def movesOf (suite : Suite Secret Public) (now : UInt64) (host : Host) :
    HostOperation Secret Public → List Move
  | .connect peer =>
    if host.isConnected peer then []
    else [.attach peer, .announce peer] ++
      if host.settings.syncOnConnect then [.fill peer, .flush peer] else []
  | .disconnect peer => [.detach peer]
  | .receive peer packet =>
    if host.isConnected peer then
      match Packet.decode packet with
      | .error _ => []
      | .ok (.status version) => [.hear peer version]
      | .ok (.messages items) => offersFrom peer items ++ host.flushes
    else []
  | .post request chance =>
    match compose suite now request chance with
    | .error _ => []
    | .ok envelope =>
      match (host.pool.insert chance.admission envelope).2 with
      | .accepted _ => .offer envelope none :: host.flushes
      | .rejected _ => [.offer envelope none]
  | .inject envelope source => [.offer envelope source]
  | .noteAccepted hash source => [.note hash source]
  | .flush peer => [.flush peer]
  | .flushAll => host.flushes
  | .housekeeping => [.sweep]
  | .installWatch mask => [.rewatch (host.watches.install mask).1]
  | .uninstallWatch id =>
    match host.watches.uninstall id with
    | .ok watches => [.rewatch watches]
    | .error _ => []
  | .checkWatch id =>
    match host.watches.drain id with
    | .ok (watches, _) => [.rewatch watches]
    | .error _ => []

theorem flushEach_eq (clock : Move → UInt64) (flushed : ∀ peer, clock (.flush peer) = now)
    (host : Host) (network : Network) (peers : List PeerId) :
    (host.flushEach network now peers).1 = host.moveAll network clock (peers.map .flush) := by
  induction peers generalizing host with
  | nil => rfl
  | cons peer rest ih =>
      rw [flushEach, List.map_cons, moveAll, List.foldl_cons, flushed]
      exact ih _

theorem flushAll_eq (clock : Move → UInt64) (flushed : ∀ peer, clock (.flush peer) = now)
    (host : Host) (network : Network) :
    (host.flushAll network now).1 = host.moveAll network clock host.flushes := by
  rw [flushAll, flushEach_eq clock flushed, List.map_map]
  rfl

theorem takeIn_eq (host : Host) (network : Network) (now : UInt64) (peer : PeerId)
    (items : List (Except Envelope.Malformed Envelope)) :
    host.takeIn now peer items =
      host.moveAll network (fun _ => now) (offersFrom peer items) := by
  induction items generalizing host with
  | nil => rfl
  | cons item rest ih =>
      cases item with
      | error fault => exact ih host
      | ok envelope => exact ih _

theorem takeIn_names (host : Host) (now : UInt64) (peer : PeerId)
    (items : List (Except Envelope.Malformed Envelope)) :
    (host.takeIn now peer items).peers.map (·.1) = host.peers.map (·.1) := by
  induction items generalizing host with
  | nil => rfl
  | cons item rest ih =>
      cases item with
      | error fault => exact ih host
      | ok envelope => exact (ih _).trans (inject_names host now envelope (some peer))

theorem flushes_congr {other : Host} (names : host.peers.map (·.1) = other.peers.map (·.1)) :
    host.flushes = other.flushes := by
  have same := congrArg (List.map Move.flush) names
  rwa [List.map_map, List.map_map] at same

/-- An operation is the sequence of its moves. -/
theorem perform_eq (suite : Suite Secret Public) (network : Network) (now : UInt64) (host : Host)
    (operation : HostOperation Secret Public) :
    host.perform suite network now operation =
      host.moveAll network (operation.clock now) (host.movesOf suite now operation) := by
  cases operation with
  | disconnect | inject | noteAccepted | flush | housekeeping | installWatch => rfl
  | flushAll => exact flushAll_eq _ (fun _ => rfl) host network
  | connect peer =>
      simp only [perform, movesOf, connect]
      by_cases connected : host.isConnected peer = true
      · simp only [connected, if_true]
        rfl
      · simp only [connected]
        by_cases sync : host.settings.syncOnConnect = true
        · simp [moveAll, move, send, notePeers, sync, connected, HostOperation.clock]
        · simp [moveAll, move, send, notePeers, sync, connected, HostOperation.clock]
  | receive peer packet =>
      simp only [perform, movesOf, receive]
      by_cases connected : host.isConnected peer = true
      · simp only [connected, if_true]
        cases Packet.decode packet with
        | error fault => rfl
        | ok inbound =>
            cases inbound with
            | status version => rfl
            | messages items =>
                simp only [HostOperation.clock]
                rw [flushAll_eq (fun _ => now) (fun _ => rfl),
                  flushes_congr (takeIn_names host now peer items), takeIn_eq host network,
                  moveAll_append]
      · simp only [connected]
        rfl
  | post request chance =>
      simp only [perform, movesOf]
      cases composed : compose suite now request chance with
      | error fault => rw [post, composed]; rfl
      | ok envelope =>
          rw [post_eq composed]
          simp only
          cases (host.pool.insert chance.admission envelope).2 with
          | rejected reason => rfl
          | accepted hash =>
              simp only
              rw [flushAll_eq (HostOperation.clock now (.post request chance)) (fun _ => rfl),
                flushes_congr (inject_names host chance.admission envelope none)]
              rfl
  | uninstallWatch id =>
      simp only [perform, movesOf, uninstallWatch]
      cases host.watches.uninstall id <;> rfl
  | checkWatch id =>
      simp only [perform, movesOf, checkWatch]
      cases host.watches.drain id <;> rfl

theorem mem_flushes (member : m ∈ host.flushes) : ∃ peer, m = .flush peer := by
  obtain ⟨entry, -, rfl⟩ := List.mem_map.1 member
  exact ⟨entry.1, rfl⟩

theorem pairwise_le_of_eq {time : UInt64} {times : List UInt64} (same : ∀ t ∈ times, t = time) :
    times.Pairwise (· ≤ ·) := by
  refine List.pairwise_of_forall_mem_list fun a left b right => ?_
  rw [same a left, same b right]
  exact UInt64.le_refl time

theorem movesOf_inOrder {operation : HostOperation Secret Public}
    (orderly : (operation.readings now).Pairwise (· ≤ ·)) (suite : Suite Secret Public)
    (host : Host) :
    (now :: ((host.movesOf suite now operation).map (operation.clock now) ++
      [operation.finish now])).Pairwise (· ≤ ·) := by
  cases operation with
  | post request chance =>
      obtain ⟨⟨admitted, flushed⟩, late⟩ : (now ≤ chance.admission ∧ now ≤ chance.flush) ∧
          chance.admission ≤ chance.flush := by
        simpa [HostOperation.readings] using orderly
      have last : ∀ time ∈ host.flushes.map (HostOperation.clock now (.post request chance)) ++
          [chance.flush], time = chance.flush := by
        simp only [List.mem_append, List.mem_map, List.mem_singleton]
        rintro time (⟨m, member, rfl⟩ | rfl)
        · obtain ⟨peer, rfl⟩ := mem_flushes member
          rfl
        · rfl
      rw [movesOf]
      split
      · simpa [HostOperation.finish] using flushed
      · split
        · refine List.pairwise_cons.2 ⟨List.forall_mem_cons.2 ⟨admitted, fun time member => ?_⟩,
            List.pairwise_cons.2 ⟨fun time member => ?_, pairwise_le_of_eq last⟩⟩
          · exact last time member ▸ flushed
          · exact last time member ▸ late
        · simpa [HostOperation.finish, HostOperation.clock] using ⟨⟨admitted, flushed⟩, late⟩
  | connect | disconnect | receive | inject | noteAccepted | flush | flushAll | housekeeping
  | installWatch | uninstallWatch | checkWatch =>
      refine @pairwise_le_of_eq now _ ?_
      simp only [HostOperation.clock, HostOperation.finish, List.map_const', List.mem_cons,
        List.mem_append, List.mem_replicate, List.not_mem_nil, or_false]
      rintro time (rfl | ⟨-, rfl⟩ | rfl) <;> rfl

/-- The moves that each operation can be made of. -/
theorem mem_movesOf {suite : Suite Secret Public} {operation : HostOperation Secret Public}
    (member : m ∈ host.movesOf suite now operation) :
    match operation with
    | .connect peer => m = .attach peer ∨ m = .announce peer ∨ m = .fill peer ∨ m = .flush peer
    | .disconnect peer => m = .detach peer
    | .receive peer packet => (∃ version, m = .hear peer version) ∨
        (∃ envelope items, m = .offer envelope (some peer) ∧
          Packet.decode packet = .ok (.messages items) ∧ .ok envelope ∈ items) ∨
        ∃ other, m = .flush other
    | .post request chance => (∃ envelope, m = .offer envelope none ∧
          compose suite now request chance = .ok envelope) ∨ ∃ other, m = .flush other
    | .inject envelope source => m = .offer envelope source
    | .noteAccepted hash source => m = .note hash source
    | .flush peer => m = .flush peer
    | .flushAll => ∃ other, m = .flush other
    | .housekeeping => m = .sweep
    | .installWatch _ | .uninstallWatch _ | .checkWatch _ => ∃ watches, m = .rewatch watches := by
  cases operation with
  | disconnect | inject | noteAccepted | flush | housekeeping => exact List.mem_singleton.1 member
  | flushAll => exact mem_flushes member
  | installWatch mask => exact ⟨_, List.mem_singleton.1 member⟩
  | connect peer =>
      rw [movesOf] at member
      split at member
      · cases member
      · rcases List.mem_append.1 member with first | rest
        · rcases List.mem_cons.1 first with attach | announce
          · exact .inl attach
          · exact .inr (.inl (List.mem_singleton.1 announce))
        · split at rest
          · rcases List.mem_cons.1 rest with fill | flush
            · exact .inr (.inr (.inl fill))
            · exact .inr (.inr (.inr (List.mem_singleton.1 flush)))
          · cases rest
  | receive peer packet =>
      rw [movesOf] at member
      split at member
      · split at member
        · cases member
        · exact .inl ⟨_, List.mem_singleton.1 member⟩
        · rename_i items read
          rcases List.mem_append.1 member with offer | flush
          · obtain ⟨item, part, offered⟩ := List.mem_filterMap.1 offer
            cases item with
            | error fault => cases offered
            | ok envelope =>
                exact .inr (.inl ⟨envelope, items, (Option.some.inj offered).symm, read, part⟩)
          · exact .inr (.inr (mem_flushes flush))
      · cases member
  | post request chance =>
      rw [movesOf] at member
      split at member
      · cases member
      · rename_i envelope composed
        split at member
        · rcases List.mem_cons.1 member with rfl | flush
          · exact .inl ⟨envelope, rfl, composed⟩
          · exact .inr (mem_flushes flush)
        · exact .inl ⟨envelope, List.mem_singleton.1 member, composed⟩
  | uninstallWatch id | checkWatch id =>
      rw [movesOf] at member
      split at member
      · exact ⟨_, List.mem_singleton.1 member⟩
      · cases member

@[simp] theorem move_settings (network : Network) (now : UInt64) (host : Host) (m : Move) :
    (host.move network now m).settings = host.settings := by
  cases m with
  | announce | fill | hear | note | sweep | rewatch => rfl
  | attach peer =>
      simp only [move]
      split <;> rfl
  | detach peer => exact disconnect_settings host peer
  | offer envelope source => exact inject_settings host now envelope source
  | flush peer => exact flush_settings host network now peer

theorem move_pool (network : Network) (now : UInt64) (host : Host) (m : Move) :
    (host.move network now m).pool =
      match m with
      | .offer envelope _ => (host.pool.insert now envelope).1
      | .sweep => (host.pool.purgeExpired now).1
      | _ => host.pool := by
  cases m with
  | announce | fill | hear | note | sweep | rewatch => rfl
  | attach peer =>
      simp only [move]
      split <;> rfl
  | detach peer => exact disconnect_pool host peer
  | offer envelope source => exact inject_pool host now envelope source
  | flush peer => exact flush_pool host network now peer

theorem move_wellFormed (h : host.pool.WellFormed) (network : Network) (now : UInt64) (m : Move) :
    (host.move network now m).pool.WellFormed := by
  rw [move_pool]
  cases m with
  | offer envelope => exact h.insert now envelope
  | sweep => exact h.purgeExpired now
  | attach | detach | announce | fill | hear | note | flush | rewatch => exact h

theorem moveAll_wellFormed (wellFormed : host.pool.WellFormed) (network : Network)
    (clock : Move → UInt64) (moves : List Move) :
    (host.moveAll network clock moves).pool.WellFormed := by
  induction moves generalizing host with
  | nil => exact wellFormed
  | cons m rest ih => exact ih (move_wellFormed wellFormed network (clock m) m)

theorem perform_wellFormed (wellFormed : host.pool.WellFormed) (suite : Suite Secret Public)
    (network : Network) (now : UInt64) (operation : HostOperation Secret Public) :
    (host.perform suite network now operation).pool.WellFormed := by
  rw [perform_eq]
  exact moveAll_wellFormed wellFormed network _ _

theorem run_wellFormed (wellFormed : host.pool.WellFormed) (suite : Suite Secret Public)
    (network : Network) (operations : List (UInt64 × HostOperation Secret Public)) :
    (host.run suite network operations).pool.WellFormed := by
  induction operations generalizing host with
  | nil => exact wellFormed
  | cons first rest ih => exact ih (perform_wellFormed wellFormed suite network first.1 first.2)

end Host

end Courier

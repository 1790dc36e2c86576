import Mathlib
import Courier.Proofs.Host.Growth

/-! # Hosts at rest

Between operations that flush at once what they queue, nothing waits for any peer. If new peers
get the whole pool, every peer is also known to have everything in the pool, or to have been
about to get it.
-/

namespace Courier

variable {Secret Public : Type}

/-- Whether an operation flushes at once what it queues. -/
def HostOperation.Prompt : HostOperation Secret Public → Prop
  | .inject .. | .noteAccepted .. => False
  | _ => True

namespace Host

variable {host : Host} {peer : PeerId} {state : PeerState} {network : Network} {now : UInt64}
  {m : Move} {clock : Move → UInt64}

theorem queueFor_congr {other : Host} (same : host.peer? peer = other.peer? peer) :
    host.queueFor peer = other.queueFor peer := by
  rw [queueFor, queueFor, same]

theorem move_flush_idle (network : Network) (now : UInt64) (host : Host) (peer : PeerId) :
    (host.move network now (.flush peer)).queueFor peer = [] := by
  cases connected : host.peer? peer with
  | none =>
      rw [move, flush_absent connected]
      exact queueFor_of_absent connected
  | some state => exact queueFor_of_peer? (move_flush_peer? connected network now)

theorem move_idle (idle : host.queueFor peer = []) (network : Network) (now : UInt64)
    (silent : ¬ m.QueuesFor peer) : (host.move network now m).queueFor peer = [] := by
  by_cases flushed : m = .flush peer
  · exact flushed ▸ move_flush_idle network now host peer
  · by_cases detached : m = .detach peer
    · exact detached ▸ queueFor_of_absent (move_detach_peer? network now host peer)
    · cases connected : host.peer? peer with
      | none =>
          rcases move_peer?_none connected network now m with absent | ⟨-, new⟩
          · exact queueFor_of_absent absent
          · exact queueFor_of_peer? new
      | some state =>
          obtain ⟨after, added, connected', grows, quiet⟩ :=
            move_grows connected network now flushed detached
          rw [queueFor_of_peer? connected] at idle
          rw [queueFor_of_peer? connected', grows.queue, idle, List.nil_append,
            List.eq_nil_iff_forall_not_mem]
          exact fun hash member => silent (quiet hash member).1

theorem moveAll_idle (idle : host.queueFor peer = []) (network : Network)
    (clock : Move → UInt64) {moves : List Move} (silent : ∀ m ∈ moves, ¬ m.QueuesFor peer) :
    (host.moveAll network clock moves).queueFor peer = [] := by
  induction moves generalizing host with
  | nil => exact idle
  | cons m rest ih =>
      refine ih (move_idle idle network (clock m) (silent m List.mem_cons_self)) ?_
      exact fun m member => silent m (List.mem_cons_of_mem _ member)

theorem moveAll_flush_idle (network : Network) (clock : Move → UInt64) {peers : List PeerId}
    (h : peer ∈ peers ∨ host.queueFor peer = []) :
    (host.moveAll network clock (peers.map .flush)).queueFor peer = [] := by
  induction peers generalizing host with
  | nil => exact h.resolve_left (List.not_mem_nil)
  | cons first rest ih =>
      refine ih ?_
      by_cases same : peer = first
      · subst same
        exact .inr (move_flush_idle network (clock (.flush peer)) host peer)
      · rcases h with member | idle
        · exact .inl ((List.mem_cons.1 member).resolve_left same)
        · exact .inr (move_idle (m := .flush first) idle network (clock (.flush first)) id)

theorem moveAll_flushes_idle (network : Network) (clock : Move → UInt64) (host : Host)
    (peer : PeerId) : (host.moveAll network clock host.flushes).queueFor peer = [] := by
  have all : host.flushes = (host.peers.map (·.1)).map .flush := by
    rw [List.map_map]
    rfl
  rw [all]
  refine moveAll_flush_idle network clock ?_
  by_cases connected : host.isConnected peer = true
  · exact .inl (isConnected_iff_mem.1 connected)
  · exact .inr (queueFor_of_absent (Option.not_isSome_iff_eq_none.1 connected))

theorem moveAll_offers_names (network : Network) (now : UInt64) (host : Host) (peer : PeerId)
    (items : List (Except Envelope.Malformed Envelope)) :
    (host.moveAll network (fun _ => now) (offersFrom peer items)).peers.map (·.1) =
      host.peers.map (·.1) := by
  rw [← takeIn_eq]
  exact takeIn_names host now peer items

theorem connect_idle (suite : Suite Secret Public) (network : Network) (now : UInt64)
    (other : PeerId) (idle : host.queueFor peer = []) :
    (host.moveAll network (fun _ => now)
      (host.movesOf suite now (.connect other))).queueFor peer = [] := by
  rw [movesOf]
  split
  · exact idle
  · have announced :
        (host.moveAll network (fun _ => now) [.attach other, .announce other]).queueFor peer =
          [] :=
      moveAll_idle idle network _ (by simp [Move.QueuesFor])
    rw [moveAll_append]
    split
    · rw [show [Move.fill other, Move.flush other] = [Move.fill other] ++ [other].map .flush
        from rfl, moveAll_append]
      refine moveAll_flush_idle network _ ?_
      by_cases same : peer = other
      · exact .inl (List.mem_singleton.2 same)
      · exact .inr (move_idle (m := .fill other) announced network now same)
    · exact announced

theorem receive_idle (suite : Suite Secret Public) (network : Network) (now : UInt64)
    (other : PeerId) (packet : Bytes) (idle : host.queueFor peer = []) :
    (host.moveAll network (fun _ => now)
      (host.movesOf suite now (.receive other packet))).queueFor peer = [] := by
  rw [movesOf]
  split
  · cases Packet.decode packet with
    | error fault => exact idle
    | ok inbound =>
        cases inbound with
        | status version =>
            refine moveAll_idle idle network _ ?_
            simp [Move.QueuesFor]
        | messages items =>
            simp only
            rw [moveAll_append, ← flushes_congr (moveAll_offers_names network now host other items)]
            exact moveAll_flushes_idle network _ _ peer
  · exact idle

theorem post_idle (suite : Suite Secret Public) (network : Network) (now : UInt64)
    (request : PostRequest Secret Public) (chance : Chance Secret)
    (idle : host.queueFor peer = []) :
    (host.moveAll network (HostOperation.clock now (.post request chance))
      (host.movesOf suite now (.post request chance))).queueFor peer = [] := by
  rw [movesOf]
  cases compose suite now request chance with
  | error fault => exact idle
  | ok envelope =>
      simp only
      cases outcome : (host.pool.insert chance.admission envelope).2 with
      | accepted hash =>
          simp only
          rw [← flushes_congr (inject_names host chance.admission envelope none)]
          exact moveAll_flushes_idle network _ _ peer
      | rejected reason =>
          have unchanged := inject_peer? host chance.admission envelope none peer
          simp only [outcome, reduceCtorEq, if_false, Option.map_id'] at unchanged
          rwa [← queueFor_congr unchanged] at idle

/-- Operations that flush at once what they queue leave all queues empty. -/
theorem perform_idle {operation : HostOperation Secret Public} (prompt : operation.Prompt)
    (suite : Suite Secret Public) (network : Network) (now : UInt64)
    (idle : host.queueFor peer = []) :
    (host.perform suite network now operation).queueFor peer = [] := by
  rw [perform_eq]
  cases operation with
  | inject | noteAccepted => exact prompt.elim
  | flushAll => exact moveAll_flushes_idle network _ host peer
  | connect other => exact connect_idle suite network now other idle
  | receive other packet => exact receive_idle suite network now other packet idle
  | post request chance => exact post_idle suite network now request chance idle
  | disconnect | flush | housekeeping | installWatch =>
      refine moveAll_idle idle network _ ?_
      simp [movesOf, Move.QueuesFor]
  | uninstallWatch | checkWatch =>
      rw [movesOf]
      split
      · refine moveAll_idle idle network _ ?_
        simp [Move.QueuesFor]
      · exact idle

/-- Whether a peer, if it is connected, is known to have everything in the pool, or to be about to
get it. -/
def Informed (host : Host) (peer : PeerId) : Prop :=
  ∀ state, host.peer? peer = some state → ∀ hash ∈ host.pool.hashes, hash ∈ state.known

theorem mem_move_hashes (wellFormed : host.pool.WellFormed) (network : Network) {hash : Hash}
    (held : hash ∈ (host.move network now m).pool.hashes) :
    hash ∈ host.pool.hashes ∨ ∃ envelope source, m = .offer envelope source ∧
      (host.pool.insert now envelope).2 = .accepted hash := by
  rw [move_pool] at held
  cases m with
  | offer envelope source =>
      rcases Pool.mem_insert_hashes wellFormed held with old | new
      · exact .inl old
      · exact .inr ⟨envelope, source, rfl, new⟩
  | sweep =>
      rw [Pool.hashes, wellFormed.purgeExpired_residents] at held
      exact .inl ((List.filter_sublist.map _).subset held)
  | attach | detach | announce | fill | hear | note | flush | rewatch => exact .inl held

theorem move_informed (informed : host.Informed peer) (wellFormed : host.pool.WellFormed)
    (network : Network) (now : UInt64) (notAttach : m ≠ .attach peer) :
    (host.move network now m).Informed peer := by
  intro after connected' hash held
  rcases mem_move_hashes wellFormed network held with old | ⟨envelope, source, rfl, accepted⟩
  · cases connected : host.peer? peer with
    | none =>
        rcases move_peer?_none connected network now m with absent | ⟨attached, -⟩
        · cases absent.symm.trans connected'
        · exact absurd attached notAttach
    | some state =>
        have known := informed state connected hash old
        by_cases flushed : m = .flush peer
        · subst flushed
          cases (move_flush_peer? connected network now).symm.trans connected'
          exact known
        · by_cases detached : m = .detach peer
          · subst detached
            cases (move_detach_peer? network now host peer).symm.trans connected'
          · obtain ⟨grown, added, same, grows, -⟩ :=
              move_grows connected network now flushed detached
            cases same.symm.trans connected'
            exact (grows.known hash).2 (.inl known)
  · exact move_offer_known accepted network connected'

theorem moveAll_informed (informed : host.Informed peer) (wellFormed : host.pool.WellFormed)
    (network : Network) (clock : Move → UInt64) {moves : List Move}
    (notAttach : ∀ m ∈ moves, m ≠ .attach peer) :
    (host.moveAll network clock moves).Informed peer := by
  induction moves generalizing host with
  | nil => exact informed
  | cons m rest ih =>
      have step :=
        move_informed informed wellFormed network (clock m) (notAttach m List.mem_cons_self)
      refine ih step (move_wellFormed wellFormed network (clock m) m) ?_
      exact fun m member => notAttach m (List.mem_cons_of_mem _ member)

theorem ne_attach_of_mem_movesOf {suite : Suite Secret Public}
    {operation : HostOperation Secret Public} (other : operation ≠ .connect peer)
    (member : m ∈ host.movesOf suite now operation) : m ≠ .attach peer := by
  rintro rfl
  have made := mem_movesOf member
  cases operation with
  | connect newcomer =>
      simp only [Move.attach.injEq, reduceCtorEq, or_false] at made
      exact other (made ▸ rfl)
  | disconnect | receive | post | inject | noteAccepted | flush | flushAll | housekeeping
  | installWatch | uninstallWatch | checkWatch => simp at made

theorem ne_note_of_mem_movesOf {suite : Suite Secret Public}
    {operation : HostOperation Secret Public} (prompt : operation.Prompt)
    (member : m ∈ host.movesOf suite now operation) (hash : Hash) (source : Option PeerId) :
    m ≠ .note hash source := by
  rintro rfl
  have made := mem_movesOf member
  cases operation with
  | noteAccepted => exact prompt
  | connect | disconnect | receive | post | inject | flush | flushAll | housekeeping
  | installWatch | uninstallWatch | checkWatch => simp at made

/-- If new peers get the whole pool, every peer stays known to have all of it, or to be about to
get it. -/
theorem perform_informed (sync : host.settings.syncOnConnect = true)
    (informed : host.Informed peer) (wellFormed : host.pool.WellFormed)
    (suite : Suite Secret Public) (network : Network) (now : UInt64)
    (operation : HostOperation Secret Public) :
    (host.perform suite network now operation).Informed peer := by
  rw [perform_eq]
  by_cases connects : operation = .connect peer
  · subst connects
    rw [movesOf, if_pos sync]
    split
    · exact informed
    · rw [moveAll_append]
      have wellFormed' := moveAll_wellFormed wellFormed network
        (HostOperation.clock now (.connect peer : HostOperation Secret Public))
        [.attach peer, .announce peer]
      generalize host.moveAll network _ [.attach peer, .announce peer] = attached at wellFormed' ⊢
      have filled : (attached.move network now (.fill peer)).Informed peer := by
        intro state connected hash held
        rw [move_pool] at held
        exact move_fill_known network connected held
      exact move_informed (m := .flush peer) filled
        (move_wellFormed wellFormed' network now (.fill peer)) network now (by simp)
  · exact moveAll_informed informed wellFormed network _
      fun m member => ne_attach_of_mem_movesOf connects member

end Host

end Courier

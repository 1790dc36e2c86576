import Mathlib
import Courier.Proofs.Host.Chronicle
import Courier.Proofs.Host.Quiescence
import Courier.Proofs.Pool.Housekeeping

/-! # Flushing sooner or later

Neither the pool nor the watches nor what is known of the peers looks at the queues, so it does not
matter to them when the queues are flushed. It does not matter to the peers either, as long as
nothing that waits is evicted: what is flushed later is then the same as what is flushed at once.
-/

namespace Courier

namespace PeerState

variable (state : PeerState) (hash : Hash)

theorem markKnown_known : (state.markKnown hash).known =
    if hash ∈ state.known then state.known else state.known ++ [hash] := by
  unfold markKnown
  split <;> rfl

@[simp] theorem markKnown_queue : (state.markKnown hash).queue = state.queue := by
  unfold markKnown
  split <;> rfl

theorem enqueue_known : (state.enqueue hash).1.known = (state.markKnown hash).known := by
  unfold enqueue markKnown
  split <;> rfl

theorem enqueue_queue : (state.enqueue hash).1.queue =
    state.queue ++ if hash ∈ state.known then [] else [hash] := by
  unfold enqueue
  split
  · exact (List.append_nil _).symm
  · rfl

end PeerState

/-- The envelopes that were handed to the network for a peer, in order. -/
def envelopesTo (peer : PeerId) (handed : List Handover) : List Envelope :=
  (messagesTo peer handed).flatten

section Kept

variable {pool after : Pool} {now : UInt64} {hash : Hash} {envelope : Envelope}

theorem Pool.WellFormed.lookup_of_kept (h : pool.WellFormed) (h' : after.WellFormed)
    (kept : pool.live now ⊆ after.residents) (found : pool.lookup hash = some envelope)
    (live : envelope.isExpired now = false) : after.lookup hash = some envelope := by
  obtain ⟨same, member⟩ := h.lookup_eq_some.1 found
  obtain ⟨resident, held, rfl⟩ := List.mem_map.1 member
  exact h'.lookup_eq_some.2
    ⟨same, List.mem_map_of_mem (kept (List.mem_filter.2 ⟨held, by simp [live]⟩))⟩

theorem HostEvent.live_kept (h : pool.WellFormed)
    (none : told eviction (losses now pool (pool.insert now envelope).1) = []) :
    pool.live now ⊆ (pool.insert now envelope).1.residents := by
  intro resident live
  obtain ⟨held, unexpired⟩ := List.mem_filter.1 live
  have old : ∀ other ∈ (pool.insert now envelope).1.residents,
      other ∈ pool.residents ∨ other.hash ∉ pool.hashes := by
    intro other member
    rcases Pool.mem_insert_residents h member with before | ⟨rfl, accepted⟩
    · exact .inl before
    · exact .inr (Pool.insert_admissible accepted).new
  rcases Pool.mem_or_lost h.distinct held old with kept | lost
  · exact kept
  · have written : loss now resident = .evicted resident.envelope :=
      if_neg (by simpa using unexpired)
    have told : resident.envelope ∈ told eviction (losses now pool (pool.insert now envelope).1) :=
      List.mem_flatMap.2 ⟨loss now resident, List.mem_reverse.2 (List.mem_map_of_mem lost),
        by rw [written]; exact List.mem_singleton_self _⟩
    rw [none] at told
    cases told

end Kept

namespace Host

variable {host a b c : Host} {peer other : PeerId} {state : PeerState} {network : Network}
  {now : UInt64} {envelope : Envelope} {source : Option PeerId} {hash : Hash}

section Sending

theorem liveQueued_congr (same : a.pool = b.pool) (now : UInt64) (queue : List Hash) :
    a.liveQueued now queue = b.liveQueued now queue := by
  rw [liveQueued, liveQueued, same]

theorem liveQueued_append (host : Host) (now : UInt64) (first rest : List Hash) :
    host.liveQueued now (first ++ rest) =
      host.liveQueued now first ++ host.liveQueued now rest := by
  rw [liveQueued, List.filterMap_append, List.filter_append]
  rfl

theorem flush_envelopesTo (serves : network.Serves peer) (host : Host) (now : UInt64)
    (other : PeerId) :
    envelopesTo peer (host.move network now (.flush other)).outbox =
      envelopesTo peer host.outbox ++
        if other = peer then host.liveQueued now (host.queueFor peer) else [] := by
  rw [envelopesTo, move_outbox, messagesTo_append, List.flatten_append, envelopesTo]
  congr 1
  by_cases same : other = peer
  · rw [if_pos same, same, handedBy, messagesTo_handovers_of_serves serves, packing,
      flatten_batches]
  · have notFlush : Move.flush other ≠ .flush peer := fun equal => same (Move.flush.inj equal)
    rw [if_neg same, messagesTo_handedBy network now host notFlush, List.flatten_nil]

theorem flushes_envelopesTo (serves : network.Serves peer) (host : Host) (now : UInt64)
    (peers : List PeerId) :
    envelopesTo peer (host.moveAll network (fun _ => now) (peers.map .flush)).outbox =
      envelopesTo peer host.outbox ++
        if peer ∈ peers then host.liveQueued now (host.queueFor peer) else [] := by
  induction peers generalizing host with
  | nil => simp [moveAll]
  | cons first rest ih =>
      refine (ih _).trans ?_
      rw [flush_envelopesTo serves, List.append_assoc]
      congr 1
      by_cases same : first = peer
      · have nothing : (host.move network now (.flush first)).liveQueued now [] = [] := rfl
        rw [same] at nothing ⊢
        rw [if_pos rfl, if_pos List.mem_cons_self, move_flush_idle, nothing, ite_self,
          List.append_nil]
      · have untouched : (host.move network now (.flush first)).queueFor peer =
            host.queueFor peer := by
          refine queueFor_congr ?_
          rw [move, flush_peer?]
          simp [Ne.symm same]
        have samePool : (host.move network now (.flush first)).pool = host.pool :=
          flush_pool host network now first
        rw [if_neg same, List.nil_append, untouched, liveQueued_congr samePool]
        simp [Ne.symm same]

theorem flushAll_envelopesTo (serves : network.Serves peer) (host : Host) (now : UInt64) :
    envelopesTo peer (host.flushAll network now).1.outbox =
      envelopesTo peer host.outbox ++ host.liveQueued now (host.queueFor peer) := by
  rw [flushAll, flushEach_eq (fun _ => now) fun _ => rfl, flushes_envelopesTo serves]
  congr 1
  split
  · rfl
  · rename_i absent
    rw [← isConnected_iff_mem, isConnected, Option.not_isSome_iff_eq_none] at absent
    rw [queueFor_of_absent absent]
    rfl

end Sending

section Alike

/-- Whether two hosts have the same pool, the same watches and know the same of every peer. -/
structure Alike (a b : Host) : Prop where
  pool : a.pool = b.pool
  watches : a.watches = b.watches
  known : ∀ peer, (a.peer? peer).map (·.known) = (b.peer? peer).map (·.known)

/-- What is known of a peer after an offer depends on what was known of it before. -/
theorem inject_known (host : Host) (now : UInt64) (envelope : Envelope)
    (source : Option PeerId) (peer : PeerId) :
    ((host.inject now envelope source).1.peer? peer).map (·.known) =
      ((host.peer? peer).map (·.known)).map fun known =>
        match (host.pool.insert now envelope).2 with
        | .accepted hash => if hash ∈ known then known else known ++ [hash]
        | .rejected _ =>
          if some peer = source then
            if envelope.hash ∈ known then known else known ++ [envelope.hash]
          else known := by
  rw [inject_peer?]
  cases host.peer? peer with
  | none => rfl
  | some state =>
      cases (host.pool.insert now envelope).2 with
      | accepted hash =>
          simp only [Option.map_some, apply_ite PeerState.known, PeerState.enqueue_known, ite_self,
            PeerState.markKnown_known]
      | rejected reason =>
          simp only [Option.map_some, apply_ite PeerState.known, PeerState.markKnown_known]

namespace Alike

theorem refl (host : Host) : host.Alike host := ⟨rfl, rfl, fun _ => rfl⟩

theorem trans (h : a.Alike b) (h' : b.Alike c) : a.Alike c :=
  ⟨h.pool.trans h'.pool, h.watches.trans h'.watches,
    fun peer => (h.known peer).trans (h'.known peer)⟩

theorem symm (h : a.Alike b) : b.Alike a :=
  ⟨h.pool.symm, h.watches.symm, fun peer => (h.known peer).symm⟩

theorem isConnected (h : a.Alike b) (peer : PeerId) : a.isConnected peer = b.isConnected peer := by
  simpa [Host.isConnected] using congrArg Option.isSome (h.known peer)

theorem inject (h : a.Alike b) (now : UInt64) (envelope : Envelope) (source : Option PeerId) :
    (a.inject now envelope source).1.Alike (b.inject now envelope source).1 where
  pool := by rw [inject_pool, inject_pool, h.pool]
  watches := by rw [inject_watches, inject_watches, h.pool, h.watches]
  known := fun peer => by rw [inject_known, inject_known, h.pool, h.known peer]

theorem takeIn (h : a.Alike b) (now : UInt64) (peer : PeerId)
    (items : List (Except Envelope.Malformed Envelope)) :
    (a.takeIn now peer items).Alike (b.takeIn now peer items) := by
  induction items generalizing a b with
  | nil => exact h
  | cons item rest ih =>
      cases item with
      | error fault => exact ih h
      | ok envelope => exact ih (h.inject now envelope (some peer))

end Alike

theorem flush_alike (host : Host) (network : Network) (now : UInt64) (other : PeerId) :
    (host.flush network now other).1.Alike host where
  pool := flush_pool host network now other
  watches := flush_watches host network now other
  known := by
    intro peer
    rw [flush_peer?, Option.map_map]
    congr 1
    funext state
    rw [Function.comp_apply]
    split <;> rfl

theorem flushEach_alike (host : Host) (network : Network) (now : UInt64) (peers : List PeerId) :
    (host.flushEach network now peers).1.Alike host := by
  induction peers generalizing host with
  | nil => exact .refl host
  | cons first rest ih => exact (ih _).trans (flush_alike host network now first)

theorem flushAll_alike (host : Host) (network : Network) (now : UInt64) :
    (host.flushAll network now).1.Alike host := flushEach_alike host network now _

end Alike

section Waiting

/-- What an offer adds to the queue of a peer. -/
def gains (host : Host) (now : UInt64) (envelope : Envelope) (source : Option PeerId)
    (peer : PeerId) : List Hash :=
  match (host.pool.insert now envelope).2, (host.peer? peer).map (·.known) with
  | .accepted hash, some known => if some peer = source ∨ hash ∈ known then [] else [hash]
  | _, _ => []

theorem inject_queueFor (host : Host) (now : UInt64) (envelope : Envelope)
    (source : Option PeerId) (peer : PeerId) :
    (host.inject now envelope source).1.queueFor peer =
      host.queueFor peer ++ host.gains now envelope source peer := by
  rw [queueFor, inject_peer?, queueFor, gains]
  cases host.peer? peer with
  | none => cases (host.pool.insert now envelope).2 <;> rfl
  | some state =>
      cases (host.pool.insert now envelope).2 with
      | accepted hash =>
          by_cases own : some peer = source
          · simp [own]
          · simp [own, PeerState.enqueue_queue]
      | rejected reason =>
          by_cases own : some peer = source <;> simp [own]

theorem gains_own (host : Host) (now : UInt64) (envelope : Envelope) (peer : PeerId) :
    host.gains now envelope (some peer) peer = [] := by
  unfold gains
  split
  · exact if_pos (.inl rfl)
  · rfl

theorem Alike.gains_eq (h : a.Alike b) (now : UInt64) (envelope : Envelope)
    (source : Option PeerId) (peer : PeerId) :
    a.gains now envelope source peer = b.gains now envelope source peer := by
  rw [gains, gains, h.pool, h.known peer]

theorem accepted_of_mem_gains (member : hash ∈ host.gains now envelope source peer) :
    (host.pool.insert now envelope).2 = .accepted hash := by
  unfold gains at member
  split at member
  · rename_i outcome _
    split at member
    · cases member
    · rw [outcome, List.mem_singleton.1 member]
  · cases member

/-- Two hosts of which the first has sent to a peer what still waits for it at the second. -/
structure Ahead (peer : PeerId) (now : UInt64) (a b : Host) : Prop where
  alike : a.Alike b
  pool : b.pool.WellFormed
  idle : a.queueFor peer = []
  sent : envelopesTo peer a.outbox =
    envelopesTo peer b.outbox ++ b.liveQueued now (b.queueFor peer)
  live : ∀ hash ∈ b.queueFor peer, ∃ envelope,
    b.pool.lookup hash = some envelope ∧ envelope.isExpired now = false

theorem flushAll_idle (host : Host) (network : Network) (now : UInt64) (peer : PeerId) :
    (host.flushAll network now).1.queueFor peer = [] := by
  rw [flushAll_eq (fun _ => now) fun _ => rfl]
  exact moveAll_flushes_idle network _ host peer

namespace Ahead

theorem start (wellFormed : host.pool.WellFormed) (idle : host.queueFor peer = []) :
    Ahead peer now host host where
  alike := .refl host
  pool := wellFormed
  idle := idle
  sent := by
    rw [idle]
    exact (List.append_nil _).symm
  live := by simp [idle]

theorem flushed (h : Ahead peer now a b) (serves : network.Serves peer) :
    Ahead peer now (a.flushAll network now).1 b where
  alike := (flushAll_alike a network now).trans h.alike
  pool := h.pool
  idle := flushAll_idle a network now peer
  sent := by
    rw [flushAll_envelopesTo serves, h.idle, ← h.sent]
    exact List.append_nil _
  live := h.live

/-- The first host flushes after an offer and the second does not. -/
theorem offer (h : Ahead peer now a b) (serves : network.Serves peer) (envelope : Envelope)
    (source : Option PeerId)
    (kept : b.pool.live now ⊆ (b.pool.insert now envelope).1.residents) :
    Ahead peer now ((a.inject now envelope source).1.flushAll network now).1
      (b.inject now envelope source).1 := by
  have alike := h.alike.inject now envelope source
  have wellFormed : (b.inject now envelope source).1.pool.WellFormed := by
    rw [inject_pool]
    exact h.pool.insert now envelope
  -- what waits was alive and has not gone, so it is found as before
  have old : ∀ hash ∈ b.queueFor peer, ∃ queued,
      (b.inject now envelope source).1.pool.lookup hash = some queued ∧
        b.pool.lookup hash = some queued ∧ queued.isExpired now = false := by
    intro hash waits
    obtain ⟨queued, found, live⟩ := h.live hash waits
    refine ⟨queued, ?_, found, live⟩
    rw [inject_pool] at wellFormed ⊢
    exact h.pool.lookup_of_kept wellFormed kept found live
  have untouched : (b.inject now envelope source).1.liveQueued now (b.queueFor peer) =
      b.liveQueued now (b.queueFor peer) := by
    rw [liveQueued, liveQueued]
    congr 1
    refine List.filterMap_congr fun hash waits => ?_
    obtain ⟨queued, found, before, -⟩ := old hash waits
    rw [found, before]
  refine ⟨(flushAll_alike _ network now).trans alike, wellFormed, flushAll_idle _ network now peer,
    ?_, ?_⟩
  · rw [flushAll_envelopesTo serves, inject_outbox, inject_outbox, inject_queueFor,
      inject_queueFor, h.idle, List.nil_append, h.alike.gains_eq, h.sent, liveQueued_append,
      untouched, liveQueued_congr alike.pool, List.append_assoc]
  · intro hash waits
    rw [inject_queueFor] at waits
    rcases List.mem_append.1 waits with before | gained
    · obtain ⟨queued, found, -, live⟩ := old hash before
      exact ⟨queued, found, live⟩
    · have accepted := accepted_of_mem_gains gained
      refine ⟨envelope, ?_, (Pool.insert_admissible accepted).live⟩
      rw [inject_pool] at wellFormed ⊢
      exact wellFormed.lookup_eq_some.2 ⟨Pool.insert_accepted accepted,
        List.mem_map_of_mem (Pool.mem_residents_of_accepted accepted)⟩

end Ahead

end Waiting

end Host

end Courier

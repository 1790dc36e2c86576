import Mathlib
import Courier.Host.Connection
import Courier.Host.Inbox
import Courier.Host.Posting
import Courier.Proofs.Association
import Courier.Proofs.Pool.WellFormed

/-! # What the parts of an operation change

For each part of a host's operations: which fields it leaves alone, and what becomes of a peer
and of the outbox.
-/

namespace Courier

/-- Whether a network takes everything for a peer. -/
def Network.Serves (network : Network) (peer : PeerId) : Prop :=
  ∀ handed packet, network handed peer packet = true

theorem Network.reliable_serves (peer : PeerId) : Network.reliable.Serves peer := fun _ _ => rfl

end Courier

namespace Courier.Host

variable {host : Host} {peer other : PeerId} {state : PeerState} {network : Network}
  {now : UInt64}

theorem isConnected_iff : host.isConnected peer = true ↔ ∃ state, host.peer? peer = some state :=
  Option.isSome_iff_exists

theorem isConnected_iff_mem : host.isConnected peer = true ↔ peer ∈ host.peers.map (·.1) :=
  Association.lookup_isSome_iff

section Peers

theorem updatePeer_peer? (host : Host) (peer : PeerId) (change : PeerState → PeerState)
    (other : PeerId) :
    (host.updatePeer peer change).peer? other =
      (host.peer? other).map fun state => if other = peer then change state else state :=
  Association.lookup_map host.peers
    (fun other state => if other = peer then change state else state) other

@[simp] theorem updatePeer_names (host : Host) (peer : PeerId) (change : PeerState → PeerState) :
    (host.updatePeer peer change).peers.map (·.1) = host.peers.map (·.1) := by
  rw [updatePeer, List.map_map]
  rfl

theorem noteAccepted_peer? (host : Host) (hash : Hash) (source : Option PeerId) (peer : PeerId) :
    (host.noteAccepted hash source).peer? peer =
      (host.peer? peer).map fun state =>
        if some peer = source then state.markKnown hash else (state.enqueue hash).1 :=
  Association.lookup_map host.peers (fun peer state =>
    if some peer = source then state.markKnown hash else (state.enqueue hash).1) peer

@[simp] theorem noteAccepted_names (host : Host) (hash : Hash) (source : Option PeerId) :
    (host.noteAccepted hash source).peers.map (·.1) = host.peers.map (·.1) := by
  rw [noteAccepted, List.map_map]
  rfl

theorem enqueueAll_peer? (host : Host) (peer : PeerId) (hashes : List Hash) (other : PeerId) :
    (host.enqueueAll peer hashes).peer? other = (host.peer? other).map fun state =>
      if other = peer then hashes.foldl (fun state hash => (state.enqueue hash).1) state
      else state :=
  updatePeer_peer? ..

theorem disconnect_peer? (host : Host) (peer other : PeerId) :
    (host.disconnect peer).peer? other = if other = peer then none else host.peer? other := by
  unfold disconnect
  split
  · exact Association.lookup_filter_ne host.peers peer other
  · rename_i absent
    split
    · rename_i same
      rw [same]
      exact Option.not_isSome_iff_eq_none.1 absent
    · rfl

@[simp] theorem disconnect_pool (host : Host) (peer : PeerId) :
    (host.disconnect peer).pool = host.pool := by
  unfold disconnect
  split <;> rfl

@[simp] theorem disconnect_settings (host : Host) (peer : PeerId) :
    (host.disconnect peer).settings = host.settings := by
  unfold disconnect
  split <;> rfl

@[simp] theorem disconnect_outbox (host : Host) (peer : PeerId) :
    (host.disconnect peer).outbox = host.outbox := by
  unfold disconnect
  split <;> rfl

end Peers

section Injection

/-- An injection is an insertion into the pool. If that accepts, it is counted, the watches hear of
it and the peers are told; if not, the refusal is counted and the source is marked. -/
theorem inject_eq (host : Host) (now : UInt64) (envelope : Envelope) (source : Option PeerId) :
    host.inject now envelope source =
      match host.pool.insert now envelope with
      | (pool, .accepted hash) =>
        ({ host with
            pool
            watches := (host.watches.notify hash envelope.topics).1
            peers := (host.noteAccepted hash source).peers
            metrics := { host.metrics with
              accepted := host.metrics.accepted + 1
              poolSize := pool.size
              notified := host.metrics.notified + (host.watches.notify hash envelope.topics).2 } },
          .accepted hash)
      | (pool, .rejected reason) =>
        ({ host with
            pool
            peers := match source with
              | some peer => (host.updatePeer peer (·.markKnown envelope.hash)).peers
              | none => host.peers
            metrics := host.metrics.countRefusal reason.toRefusal },
          .rejected reason) := by
  unfold inject Pool.insertCounted
  cases host.pool.insert now envelope with
  | mk pool outcome =>
      cases outcome with
      | accepted hash => rfl
      | rejected reason => cases source <;> rfl

theorem inject_peer? (host : Host) (now : UInt64) (envelope : Envelope) (source : Option PeerId)
    (peer : PeerId) :
    (host.inject now envelope source).1.peer? peer = (host.peer? peer).map fun state =>
      match (host.pool.insert now envelope).2 with
      | .accepted hash =>
        if some peer = source then state.markKnown hash else (state.enqueue hash).1
      | .rejected _ => if some peer = source then state.markKnown envelope.hash else state := by
  rw [inject_eq]
  rcases host.pool.insert now envelope with ⟨pool, hash | reason⟩
  · exact noteAccepted_peer? host hash source peer
  · cases source with
    | none => exact Option.map_id'.symm ▸ rfl
    | some sender =>
        simp only [Option.some.injEq]
        exact updatePeer_peer? host sender (fun state => state.markKnown envelope.hash) peer

@[simp] theorem inject_pool (host : Host) (now : UInt64) (envelope : Envelope)
    (source : Option PeerId) :
    (host.inject now envelope source).1.pool = (host.pool.insert now envelope).1 := by
  rw [inject_eq]
  rcases host.pool.insert now envelope with ⟨pool, hash | reason⟩ <;> rfl

@[simp] theorem inject_outcome (host : Host) (now : UInt64) (envelope : Envelope)
    (source : Option PeerId) :
    (host.inject now envelope source).2 = (host.pool.insert now envelope).2 := by
  rw [inject_eq]
  rcases host.pool.insert now envelope with ⟨pool, hash | reason⟩ <;> rfl

@[simp] theorem inject_settings (host : Host) (now : UInt64) (envelope : Envelope)
    (source : Option PeerId) : (host.inject now envelope source).1.settings = host.settings := by
  rw [inject_eq]
  rcases host.pool.insert now envelope with ⟨pool, hash | reason⟩ <;> rfl

@[simp] theorem inject_outbox (host : Host) (now : UInt64) (envelope : Envelope)
    (source : Option PeerId) : (host.inject now envelope source).1.outbox = host.outbox := by
  rw [inject_eq]
  rcases host.pool.insert now envelope with ⟨pool, hash | reason⟩ <;> rfl

@[simp] theorem inject_names (host : Host) (now : UInt64) (envelope : Envelope)
    (source : Option PeerId) :
    (host.inject now envelope source).1.peers.map (·.1) = host.peers.map (·.1) := by
  rw [inject_eq]
  rcases host.pool.insert now envelope with ⟨pool, hash | reason⟩
  · exact noteAccepted_names host hash source
  · cases source with
    | none => rfl
    | some sender => exact updatePeer_names host sender fun state => state.markKnown envelope.hash

theorem post_eq {Secret Public : Type} {suite : Suite Secret Public}
    {request : PostRequest Secret Public} {chance : Chance Secret} {envelope : Envelope}
    (composed : compose suite now request chance = .ok envelope) :
    host.post suite network now request chance =
      match (host.pool.insert chance.admission envelope).2 with
      | .accepted hash =>
        (((host.inject chance.admission envelope none).1.flushAll network chance.flush).1, .ok hash)
      | .rejected reason =>
        ((host.inject chance.admission envelope none).1, .error (.rejected reason)) := by
  rw [post, composed, ← inject_outcome host chance.admission envelope none]
  simp only
  rcases host.inject chance.admission envelope none with ⟨after, hash | reason⟩ <;> rfl

end Injection

section Sending

theorem mem_batches {α : Type} {size : Nat} (positive : 1 ≤ size) {xs : List α} {batch : List α}
    (member : batch ∈ batches size xs) : 1 ≤ batch.length ∧ batch.length ≤ size := by
  fun_induction batches size xs with
  | case1 => cases member
  | case2 x rest ih =>
      rcases List.mem_cons.1 member with rfl | later
      · simp only [List.length_cons, List.length_take]
        omega
      · exact ih later

theorem flatten_batches {α : Type} (size : Nat) (xs : List α) : (batches size xs).flatten = xs := by
  fun_induction batches size xs with
  | case1 => rfl
  | case2 x rest ih => rw [List.flatten_cons, ih, List.cons_append, List.take_append_drop]

/-- Nothing is cut into more pieces than needed. -/
theorem length_batches {α : Type} {size : Nat} (positive : 1 ≤ size) (xs : List α) :
    (batches size xs).length = xs.length ⌈/⌉ size := by
  fun_induction batches size xs with
  | case1 => simp
  | case2 first rest ih =>
      have whole : rest.length + 1 + size - 1 = rest.length + size := by omega
      simp only [List.length_cons, ih, List.length_drop, Nat.ceilDiv_eq_add_pred_div, whole,
        Nat.add_div_right _ positive, Nat.add_right_cancel_iff]
      by_cases short : rest.length < size
      · rw [Nat.div_eq_of_lt short, Nat.div_eq_of_lt (by omega)]
      · congr 1
        omega

/-- What is handed to the network when packets of envelopes are sent to a peer. -/
def handovers (network : Network) (peer : PeerId) (outbox : List Handover) :
    List (List Envelope) → List Handover
  | [] => []
  | batch :: rest =>
    let handover : Handover := ⟨peer, .messages batch, network outbox peer (.messages batch)⟩
    handover ::
      if handover.taken then handovers network peer (outbox ++ [handover]) rest else []

theorem handovers_peer {outbox : List Handover} {envelopes : List (List Envelope)}
    {handover : Handover} (member : handover ∈ handovers network peer outbox envelopes) :
    handover.peer = peer := by
  induction envelopes generalizing outbox with
  | nil => cases member
  | cons batch rest ih =>
      rcases List.mem_cons.1 member with rfl | later
      · rfl
      · split at later
        · exact ih later
        · cases later

theorem handovers_packets (network : Network) (peer : PeerId) (outbox : List Handover)
    (envelopes : List (List Envelope)) :
    (handovers network peer outbox envelopes).map (·.packet) <+:
      envelopes.map Packet.messages := by
  induction envelopes generalizing outbox with
  | nil => exact List.prefix_rfl
  | cons batch rest ih =>
      refine List.cons_prefix_cons.2 ⟨rfl, ?_⟩
      split
      · exact ih _
      · exact List.nil_prefix

theorem handovers_verdict {outbox : List Handover} {envelopes : List (List Envelope)}
    {handover : Handover} (member : handover ∈ handovers network peer outbox envelopes) :
    ∃ earlier, handover.taken = network earlier handover.peer handover.packet := by
  induction envelopes generalizing outbox with
  | nil => cases member
  | cons batch rest ih =>
      rcases List.mem_cons.1 member with rfl | later
      · exact ⟨outbox, rfl⟩
      · split at later
        · exact ih later
        · cases later

theorem handovers_of_serves (serves : network.Serves peer) (outbox : List Handover)
    (envelopes : List (List Envelope)) :
    handovers network peer outbox envelopes =
      envelopes.map fun batch => ⟨peer, .messages batch, true⟩ := by
  induction envelopes generalizing outbox with
  | nil => rfl
  | cons batch rest ih =>
      have taken : network outbox peer (.messages batch) = true := serves outbox _
      simp only [handovers, taken, if_true, ih, List.map_cons]

theorem sendBatches_fst (host : Host) (network : Network) (peer : PeerId)
    (envelopes : List (List Envelope)) :
    (host.sendBatches network peer envelopes).1 =
      { host with outbox := host.outbox ++ handovers network peer host.outbox envelopes } := by
  induction envelopes generalizing host with
  | nil => simp only [sendBatches, handovers, List.append_nil]
  | cons batch rest ih =>
      simp only [sendBatches, handovers, send]
      cases network host.outbox peer (.messages batch) with
      | true => simp only [ih, if_true, List.append_assoc, List.singleton_append]
      | false => rfl

/-- The packets that a flush makes of a queue. -/
def packing (host : Host) (now : UInt64) (queue : List Hash) : List (List Envelope) :=
  batches (max host.settings.maxBatch 1) (host.liveQueued now queue)

theorem mem_liveQueued {queue : List Hash} {envelope : Envelope} :
    envelope ∈ host.liveQueued now queue ↔
      ∃ hash ∈ queue, host.pool.lookup hash = some envelope ∧ envelope.isExpired now = false := by
  simp only [liveQueued, List.mem_filter, List.mem_filterMap, Bool.not_eq_true']
  exact ⟨fun ⟨⟨hash, queued, found⟩, live⟩ => ⟨hash, queued, found, live⟩,
    fun ⟨hash, queued, found, live⟩ => ⟨⟨hash, queued, found⟩, live⟩⟩

theorem liveQueued_sublist (wellFormed : host.pool.WellFormed) (queue : List Hash) :
    ((host.liveQueued now queue).map (·.hash)).Sublist queue := by
  induction queue with
  | nil => exact List.Sublist.refl _
  | cons hash rest ih =>
      unfold liveQueued at ih ⊢
      cases found : host.pool.lookup hash with
      | none =>
          rw [List.filterMap_cons_none found]
          exact ih.cons hash
      | some envelope =>
          have same : envelope.hash = hash := (wellFormed.lookup_eq_some.1 found).1
          rw [List.filterMap_cons_some found]
          rw [List.filter_cons]
          split
          · rw [List.map_cons, same]
            exact ih.cons_cons hash
          · exact ih.cons hash

theorem flush_fst (connected : host.peer? peer = some state) (network : Network) (now : UInt64) :
    ∃ metrics, (host.flush network now peer).1 =
      { host with
        peers := (host.updatePeer peer fun state => state.takeQueue.1).peers
        outbox := host.outbox ++
          handovers network peer host.outbox (host.packing now state.queue)
        metrics } := by
  simp only [flush, connected, sendBatches_fst]
  exact ⟨_, rfl⟩

theorem flush_absent (absent : host.peer? peer = none) (network : Network) (now : UInt64) :
    (host.flush network now peer).1 = host := by
  simp only [flush, absent]

/-- A flush touches no more than the peers, the outbox and the counts. -/
theorem flush_rest (host : Host) (network : Network) (now : UInt64) (peer : PeerId) :
    ∃ peers outbox metrics,
      (host.flush network now peer).1 = { host with peers, outbox, metrics } := by
  cases connected : host.peer? peer with
  | none => exact ⟨_, _, _, flush_absent connected network now⟩
  | some state =>
      obtain ⟨metrics, flushed⟩ := flush_fst connected network now
      exact ⟨_, _, metrics, flushed⟩

@[simp] theorem flush_pool (host : Host) (network : Network) (now : UInt64) (peer : PeerId) :
    (host.flush network now peer).1.pool = host.pool := by
  obtain ⟨_, _, _, flushed⟩ := flush_rest host network now peer
  rw [flushed]

@[simp] theorem flush_settings (host : Host) (network : Network) (now : UInt64) (peer : PeerId) :
    (host.flush network now peer).1.settings = host.settings := by
  obtain ⟨_, _, _, flushed⟩ := flush_rest host network now peer
  rw [flushed]

@[simp] theorem flush_names (host : Host) (network : Network) (now : UInt64) (peer : PeerId) :
    (host.flush network now peer).1.peers.map (·.1) = host.peers.map (·.1) := by
  cases connected : host.peer? peer with
  | none => rw [flush_absent connected]
  | some state =>
      obtain ⟨metrics, flushed⟩ := flush_fst connected network now
      rw [flushed]
      exact updatePeer_names host peer fun state => state.takeQueue.1

theorem flush_peer? (host : Host) (network : Network) (now : UInt64) (peer other : PeerId) :
    (host.flush network now peer).1.peer? other =
      (host.peer? other).map fun state => if other = peer then state.takeQueue.1 else state := by
  cases connected : host.peer? peer with
  | none =>
      rw [flush_absent connected]
      cases found : host.peer? other with
      | none => rfl
      | some state =>
          have ne : other ≠ peer := by
            rintro rfl
            cases connected.symm.trans found
          rw [Option.map_some, if_neg ne]
  | some state =>
      obtain ⟨metrics, flushed⟩ := flush_fst connected network now
      rw [flushed]
      exact updatePeer_peer? host peer (fun state => state.takeQueue.1) other

end Sending

end Courier.Host

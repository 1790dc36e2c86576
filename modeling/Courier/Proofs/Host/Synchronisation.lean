import Mathlib
import Courier.Proofs.Host.Flooding
import Courier.Proofs.Host.Watching
import Courier.Proofs.Pool.Housekeeping

/-! # What a new peer is sent

A peer that connects is told the version and, if the settings say so, sent what lives in the pool:
everything in the pool is queued for it, the flush passes over what is expired, and what remains is
cut into packets.
-/

namespace Courier

variable {Secret Public : Type}

namespace PeerState

theorem foldl_enqueue (state : PeerState) {hashes : List Hash} (distinct : hashes.Nodup)
    (new : ∀ hash ∈ hashes, hash ∉ state.known) :
    hashes.foldl (fun state hash => (state.enqueue hash).1) state =
      { state with known := state.known ++ hashes, queue := state.queue ++ hashes } := by
  induction hashes generalizing state with
  | nil => simp
  | cons first rest ih =>
      obtain ⟨other, distinctRest⟩ := List.nodup_cons.1 distinct
      have queued : (state.enqueue first).1 =
          { state with known := state.known ++ [first], queue := state.queue ++ [first] } := by
        rw [enqueue, if_neg (new first List.mem_cons_self)]
      rw [List.foldl_cons, queued, ih _ distinctRest]
      · simp
      · intro hash member
        have unknown := new hash (List.mem_cons_of_mem _ member)
        have later : hash ≠ first := fun same => other (same ▸ member)
        simp [unknown, later]

end PeerState

theorem Pool.WellFormed.live_hashes_nodup {pool : Pool} (h : pool.WellFormed) (now : UInt64) :
    (((pool.live now).map (·.envelope)).map (·.hash)).Nodup := by
  have distinct : (pool.envelopes.map (·.hash)).Nodup := h.hashes_eq ▸ h.distinct
  exact distinct.sublist ((List.filter_sublist.map _).map _)

namespace Host

variable {host : Host} {peer other : PeerId} {network : Network} {now : UInt64}

theorem liveQueued_hashes (h : host.pool.WellFormed) (now : UInt64) :
    host.liveQueued now host.pool.hashes = (host.pool.live now).map (·.envelope) := by
  have found : host.pool.hashes.filterMap host.pool.lookup =
      host.pool.residents.map (·.envelope) := by
    rw [Pool.hashes, List.filterMap_map, ← List.filterMap_eq_map]
    apply List.filterMap_congr
    intro resident held
    simp [Pool.lookup, h.find?_of_mem held]
  rw [liveQueued, found, Pool.live, List.filter_map]
  rfl

/-- The host once a peer has joined the others and was told the version. -/
def greet (host : Host) (network : Network) (peer : PeerId) : Host :=
  (({ host with peers := host.peers ++ [(peer, PeerState.initial)] }.notePeers).send network peer
    (.status host.settings.protocolVersion)).1

theorem connect_of_connected (connected : host.isConnected peer = true) (network : Network)
    (now : UInt64) : host.connect network now peer = host := if_pos connected

theorem connect_of_absent (absent : host.isConnected peer = false) (network : Network)
    (now : UInt64) :
    host.connect network now peer =
      if host.settings.syncOnConnect then
        (((host.greet network peer).enqueueAll peer host.pool.hashes).flush network now peer).1
      else host.greet network peer := by
  simp [connect, absent, greet, send, notePeers]

theorem greet_peer? (absent : host.isConnected peer = false) (network : Network)
    (other : PeerId) :
    (host.greet network peer).peer? other =
      if other = peer then some .initial else host.peer? other := by
  have missing : host.peers.lookup peer = none := by
    rwa [isConnected, Option.isSome_eq_false_iff, Option.isNone_iff_eq_none] at absent
  change (host.peers ++ [(peer, PeerState.initial)]).lookup other = _
  rw [List.lookup_append]
  by_cases same : other = peer
  · subst same
    simp [missing]
  · simp [peer?, same, List.lookup_cons, beq_false_of_ne same]

theorem enqueueAll_greet_peer? (h : host.pool.WellFormed) (absent : host.isConnected peer = false)
    (network : Network) (other : PeerId) :
    ((host.greet network peer).enqueueAll peer host.pool.hashes).peer? other =
      if other = peer then some ⟨host.pool.hashes, host.pool.hashes, none⟩
      else host.peer? other := by
  rw [enqueueAll_peer?, greet_peer? absent]
  by_cases same : other = peer
  · simp only [same, if_true, Option.map_some]
    rw [PeerState.foldl_enqueue .initial h.distinct (by simp [PeerState.initial])]
    rfl
  · simp [same]

theorem connect_peer? (h : host.pool.WellFormed) (absent : host.isConnected peer = false)
    (network : Network) (now : UInt64) (other : PeerId) :
    (host.connect network now peer).peer? other =
      if other = peer then
        some (if host.settings.syncOnConnect then ⟨host.pool.hashes, [], none⟩ else .initial)
      else host.peer? other := by
  rw [connect_of_absent absent]
  cases host.settings.syncOnConnect with
  | false => simpa using greet_peer? absent network other
  | true =>
      simp only [if_true]
      rw [flush_peer?, enqueueAll_greet_peer? h absent]
      by_cases same : other = peer
      · simp [same, PeerState.takeQueue]
      · simp [same]

theorem connect_pool_watches (host : Host) (network : Network) (now : UInt64) (peer : PeerId) :
    (host.connect network now peer).pool = host.pool ∧
      (host.connect network now peer).watches = host.watches := by
  cases connected : host.isConnected peer with
  | true =>
      rw [connect_of_connected connected]
      exact ⟨rfl, rfl⟩
  | false =>
      rw [connect_of_absent connected]
      split
      · exact ⟨flush_pool _ network now peer, flush_watches _ network now peer⟩
      · exact ⟨rfl, rfl⟩

/-- What is handed over when a peer connects: the version, and what lives in the pool as far as the
network takes it. -/
theorem connect_outbox (h : host.pool.WellFormed) (absent : host.isConnected peer = false)
    (network : Network) (now : UInt64) :
    (host.connect network now peer).outbox =
      let version : Packet := .status host.settings.protocolVersion
      let greeted := host.outbox ++ [⟨peer, version, network host.outbox peer version⟩]
      if host.settings.syncOnConnect then
        greeted ++ handovers network peer greeted
          (batches (max host.settings.maxBatch 1) ((host.pool.live now).map (·.envelope)))
      else greeted := by
  rw [connect_of_absent absent, ← liveQueued_hashes h]
  split
  · have queued := enqueueAll_greet_peer? h absent network peer
    rw [if_pos rfl] at queued
    obtain ⟨metrics, flushed⟩ := flush_fst queued network now
    rw [flushed]
    rfl
  · rfl

/-- A new peer is handed the version and, if the settings ask for it and the network takes
everything, every live resident of the pool once, in as few packets as their limit allows. After
that it counts as knowing just what is in the pool, and nothing else of the host is touched. -/
theorem run_connect_synchronises (suite : Suite Secret Public) (before : Network)
    (settings : HostSettings) (policy : PoolPolicy) (rule : EvictionRule)
    (operations : List (UInt64 × HostOperation Secret Public)) (network : Network) (now : UInt64)
    (peer : PeerId) :
    let host := (fresh settings policy rule).run suite before operations
    let after := host.connect network now peer
    let version : Packet := .status settings.protocolVersion
    (after.pool = host.pool ∧ after.watches = host.watches ∧
      ∀ other, other ≠ peer → after.peer? other = host.peer? other) ∧
    (host.isConnected peer = true → after = host) ∧
    (host.isConnected peer = false → settings.syncOnConnect = false →
      after.outbox = host.outbox ++ [⟨peer, version, network host.outbox peer version⟩] ∧
      after.peer? peer = some .initial) ∧
    (host.isConnected peer = false → settings.syncOnConnect = true →
      (∃ state, after.peer? peer = some state ∧ state.queue = [] ∧ state.version = none ∧
        ∀ hash, hash ∈ state.known ↔ hash ∈ host.pool.hashes) ∧
      (network.Serves peer → ∃ packets : List (List Envelope),
        after.outbox = host.outbox ++ ⟨peer, version, true⟩ ::
          packets.map (fun envelopes => ⟨peer, .messages envelopes, true⟩) ∧
        packets.length = (host.pool.live now).length ⌈/⌉ max settings.maxBatch 1 ∧
        (∀ envelopes ∈ packets, 1 ≤ envelopes.length ∧
          envelopes.length ≤ max settings.maxBatch 1) ∧
        packets.flatten.Perm ((host.pool.live now).map (·.envelope)) ∧
        (packets.flatten.map (·.hash)).Nodup)) := by
  intro host after version
  have h : host.pool.WellFormed :=
    run_wellFormed (Pool.WellFormed.empty policy rule) suite before operations
  have same : host.settings = settings := run_settings suite before _ operations
  obtain ⟨pool, watches⟩ := connect_pool_watches host network now peer
  refine ⟨⟨pool, watches, ?others⟩, fun connected => connect_of_connected connected network now,
    ?plain, ?synchronised⟩
  case others =>
    intro other ne
    cases connected : host.isConnected peer with
    | true => exact congrArg (·.peer? other) (connect_of_connected connected network now)
    | false => exact (connect_peer? h connected network now other).trans (if_neg ne)
  case plain =>
    intro absent quiet
    have outbox := connect_outbox h absent network now
    have state := connect_peer? h absent network now peer
    simp only [same, quiet, Bool.false_eq_true, if_false, if_true] at outbox state
    exact ⟨outbox, state⟩
  case synchronised =>
    intro absent sync
    have positive : 1 ≤ max settings.maxBatch 1 := le_max_right _ _
    have outbox := connect_outbox h absent network now
    have state := connect_peer? h absent network now peer
    simp only [same, sync, if_true] at outbox state
    refine ⟨⟨_, state, rfl, rfl, fun hash => .rfl⟩, ?_⟩
    intro serves
    refine ⟨batches (max settings.maxBatch 1) ((host.pool.live now).map (·.envelope)), ?sent,
      ?count, fun envelopes => mem_batches positive, ?all, ?once⟩
    case sent =>
      rw [handovers_of_serves serves, serves host.outbox version, List.append_assoc] at outbox
      exact outbox
    case count => rw [length_batches positive, List.length_map]
    case all => rw [flatten_batches]
    case once =>
      rw [flatten_batches]
      exact h.live_hashes_nodup now

section Latecomer

/-- Three envelopes come in, the first of which is expired ten seconds later and not swept. -/
def arrivals : List (UInt64 × HostOperation Secp256k1.SecretKey Secp256k1.PublicKey) :=
  [(100, .inject ⟨110, 10, .empty, [1], 0⟩ none), (100, .inject ⟨125, 30, .empty, [2], 0⟩ none),
    (100, .inject ⟨120, 20, .empty, [3], 0⟩ none)]

/-- A packet holds one envelope even if the settings allow none. -/
theorem run_connect_synchronises_latecomer :
    let host := (fresh ⟨0, 2, true, .ofSeconds 1⟩ ⟨10, 0, 30⟩ .leastHash).run .standard .reliable
      arrivals
    let peer : PeerId := Octets.ofNat 1
    host.isConnected peer = false ∧ host.pool.size = 3 ∧ Network.reliable.Serves peer ∧
    ∃ packets : List (List Envelope),
      (host.connect .reliable 110 peer).outbox = host.outbox ++ ⟨peer, .status 2, true⟩ ::
        packets.map (fun envelopes => ⟨peer, .messages envelopes, true⟩) ∧
      packets.length = 2 ∧
      packets.flatten.Perm [⟨125, 30, .empty, [2], 0⟩, ⟨120, 20, .empty, [3], 0⟩] := by
  intro host peer
  have serves := Network.reliable_serves peer
  have reached : host.isConnected peer = false ∧ host.pool.size = 3 ∧
      (host.pool.live 110).map (·.envelope) =
        [⟨125, 30, .empty, [2], 0⟩, ⟨120, 20, .empty, [3], 0⟩] := by
    decide +kernel
  obtain ⟨absent, size, living⟩ := reached
  have two : (host.pool.live 110).length = 2 := by
    rw [← List.length_map (·.envelope), living]
    rfl
  have connects := run_connect_synchronises .standard .reliable ⟨0, 2, true, .ofSeconds 1⟩
    ⟨10, 0, 30⟩ .leastHash arrivals .reliable 110 peer
  obtain ⟨packets, sent, count, -, all, -⟩ := (connects.2.2.2 absent rfl).2 serves
  refine ⟨absent, size, serves, packets, sent, ?_, living ▸ all⟩
  rw [count, two]
  rfl

end Latecomer

end Host

end Courier

import Mathlib
import Courier.Proofs.Mesh.Operations

/-! # Linked hosts converge

Among hosts that have room for everything and send their whole pool to new peers, what one of two
linked hosts holds the other one holds too, or it is under way. When nothing is under way any
more, all hosts of a component hold the same.
-/

namespace Courier.Mesh

variable {Secret Public : Type} {mesh : Mesh} {policy : PoolPolicy} {stock : Finset Envelope}
  {a b : PeerId} {envelope : Envelope}

/-- Nodes without links, whose hosts have nothing in them and share a pool policy. -/
def fresh (now : UInt64) (policy : PoolPolicy)
    (nodes : List (PeerId × HostSettings × EvictionRule)) : Mesh :=
  .ofHosts now (nodes.map fun (id, settings, rule) => (id, Host.fresh settings policy rule))

section Fresh

variable {now : UInt64} {nodes : List (PeerId × HostSettings × EvictionRule)}

theorem fresh_node? {id : PeerId} {node : Node}
    (found : (fresh now policy nodes).node? id = some node) :
    node.links = [] ∧ ∃ settings rule, (id, settings, rule) ∈ nodes ∧
      node.host = Host.fresh settings policy rule := by
  obtain ⟨unlinked, member⟩ := ofHosts_node? found
  obtain ⟨⟨id', settings, rule⟩, listed, same⟩ := List.mem_map.1 member
  obtain ⟨rfl, fresh⟩ := Prod.mk.inj same
  exact ⟨unlinked, settings, rule, listed, fresh.symm⟩

theorem fresh_link? (id peer : PeerId) : (fresh now policy nodes).link? id peer = none := by
  rw [link?]
  cases found : (fresh now policy nodes).node? id with
  | none => rfl
  | some node =>
      rw [Option.bind_some, (fresh_node? found).1]
      rfl

theorem fresh_coherent (sync : ∀ node ∈ nodes, node.2.1.syncOnConnect = true) :
    (fresh now policy nodes).Sound policy stock ∧ (fresh now policy nodes).Paired := by
  have hosts : ∀ id host, (fresh now policy nodes).host? id = some host →
      ∃ settings rule, settings.syncOnConnect = true ∧ host = Host.fresh settings policy rule := by
    intro id host found
    obtain ⟨node, inMesh, rfl⟩ := Option.map_eq_some_iff.1 found
    obtain ⟨-, settings, rule, member, same⟩ := fresh_node? inMesh
    exact ⟨settings, rule, sync _ member, same⟩
  refine ⟨⟨?_, ?_, ?_, ?_, ?_⟩, ⟨?_, ?_⟩⟩
  · intro id peer number link
    cases (fresh_link? id peer).symm.trans link
  · intro id host found
    obtain ⟨settings, rule, syncs, rfl⟩ := hosts id host found
    exact .fresh syncs rule
  · intro id host found
    obtain ⟨settings, rule, -, rfl⟩ := hosts id host found
    rfl
  · rintro source target bytes ⟨number, channel, here, -⟩
    cases here
  · rintro id peer envelope - ⟨host, state, found, connected, -⟩
    obtain ⟨settings, rule, -, rfl⟩ := hosts id host found
    cases connected
  · intro id peer linked
    rw [isLinked_eq, fresh_link?] at linked
    cases linked
  · intro id peer
    rw [isLinked_eq, fresh_link?]
    refine iff_of_false ?_ Bool.false_ne_true
    rintro ⟨host, found, connected⟩
    obtain ⟨settings, rule, -, rfl⟩ := hosts id host found
    cases connected

end Fresh

/-- Every run keeps the mesh coherent. -/
theorem run_coherent (ample : policy.Ample stock) (suite : Suite Secret Public)
    (sound : mesh.Sound policy stock) (paired : mesh.Paired)
    (operations : List (MeshOperation Secret Public))
    (inStock : ∀ envelope ∈ mesh.occurring suite operations, envelope ∈ stock)
    (addressable : ∀ done, done <+: operations → (mesh.run suite done).Addressable) :
    (mesh.run suite operations).Sound policy stock ∧ (mesh.run suite operations).Paired := by
  induction operations generalizing mesh with
  | nil => exact ⟨sound, paired⟩
  | cons operation rest ih =>
      obtain ⟨sound', paired'⟩ := perform_coherent ample suite sound paired
        (addressable [] List.nil_prefix) fun envelope member =>
          inStock envelope (List.mem_append_left _ member)
      refine ih sound' paired' (fun envelope member => ?_) fun done front => ?_
      · exact inStock envelope (List.mem_append_right _ member)
      · exact addressable (operation :: done) (List.cons_prefix_cons.2 ⟨rfl, front⟩)

theorem Sound.holds (h : mesh.Sound policy stock) (paired : mesh.Paired)
    (linked : mesh.isLinked a b = true) (holds : mesh.Holds a envelope)
    (live : envelope.isExpired mesh.now = false) :
    mesh.Holds b envelope ∨ mesh.InFlight a b envelope := by
  obtain ⟨host, found, held⟩ := holds
  obtain ⟨host', inMesh, connected⟩ := (paired.joined a b).2 linked
  cases found.symm.trans inMesh
  obtain ⟨state, connected⟩ := Host.isConnected_iff.1 connected
  have rest := h.rest a host found
  have known := rest.informed b state connected envelope.hash
    (rest.stocked.wellFormed.hashes_eq ▸ List.mem_map_of_mem held)
  have shared := h.shared a b envelope (rest.stocked.within envelope held)
    ⟨host, state, found, connected, known⟩
  refine shared.imp_left fun has => has.resolve_left ?_
  rw [live]
  exact Bool.false_ne_true

/-- When nothing is under way, what a host holds all of its component hold. -/
theorem Sound.holds_iff (h : mesh.Sound policy stock) (paired : mesh.Paired)
    (settled : ∀ channel ∈ mesh.channels, channel.packets = [])
    (path : Relation.ReflTransGen (fun a b => mesh.isLinked a b = true) a b)
    (live : envelope.isExpired mesh.now = false) :
    mesh.Holds a envelope ↔ mesh.Holds b envelope := by
  have nothing : ∀ source target, ¬ mesh.InFlight source target envelope := by
    rintro source target ⟨envelopes, -, number, channel, here, -, -, member⟩
    rw [settled channel (List.mem_of_getElem? here)] at member
    cases member
  have passes : ∀ source target, mesh.isLinked source target = true →
      mesh.Holds source envelope → mesh.Holds target envelope :=
    fun source target linked holds =>
      (h.holds paired linked holds live).resolve_right (nothing source target)
  induction path with
  | refl => exact Iff.rfl
  | tail _ linked ih =>
      exact ih.trans ⟨passes _ _ linked, passes _ _ (paired.symmetric _ _ linked)⟩

/-- In a mesh of hosts that share a policy with room for every envelope and greet each other with
the whole pool, a live envelope that a node holds is held by each linked node or under way to it.
If nothing is under way, all nodes of a component hold the same live envelopes. -/
theorem run_converges (suite : Suite Secret Public) (now : UInt64) (policy : PoolPolicy)
    (nodes : List (PeerId × HostSettings × EvictionRule))
    (operations : List (MeshOperation Secret Public))
    (sync : ∀ node ∈ nodes, node.2.1.syncOnConnect = true)
    (ample : policy.Ample ((fresh now policy nodes).occurring suite operations).toFinset)
    (addressable : ∀ done, done <+: operations →
      ((fresh now policy nodes).run suite done).Addressable) :
    let mesh := (fresh now policy nodes).run suite operations
    (∀ a b, mesh.isLinked a b = true → ∀ envelope, mesh.Holds a envelope →
      envelope.isExpired mesh.now = false →
        mesh.Holds b envelope ∨ mesh.InFlight a b envelope) ∧
    ((∀ channel ∈ mesh.channels, channel.packets = []) →
      ∀ a b, Relation.ReflTransGen (fun a b => mesh.isLinked a b = true) a b →
        ∀ envelope, envelope.isExpired mesh.now = false →
          (mesh.Holds a envelope ↔ mesh.Holds b envelope)) := by
  intro mesh
  have start : (fresh now policy nodes).Sound policy
      ((fresh now policy nodes).occurring suite operations).toFinset ∧
        (fresh now policy nodes).Paired := fresh_coherent sync
  obtain ⟨sound, paired⟩ := start
  obtain ⟨sound', paired'⟩ := run_coherent ample suite sound paired operations
    (fun envelope member => List.mem_toFinset.2 member) addressable
  exact ⟨fun a b linked envelope holds live => sound'.holds paired' linked holds live,
    fun settled a b path envelope live => sound'.holds_iff paired' settled path live⟩

section Greeting

/-- Two nodes with ordinary settings. -/
def twoNodes : List (PeerId × HostSettings × EvictionRule) :=
  [(Octets.ofNat 1, .standard, .leastHash), (Octets.ofNat 2, .standard, .leastHash)]

theorem one_lt_order : 1 < Secp256k1.order := by decide

/-- The first node posts a message to the second one, and everything is delivered. -/
def greeting : List (MeshOperation Secp256k1.SecretKey Secp256k1.PublicKey) :=
  [.connect (Octets.ofNat 1) (Octets.ofNat 2),
    .post (Octets.ofNat 1) ⟨⟨[1], none, none⟩, [], 20, .time ⟨0⟩⟩
      ⟨⟨Octets.ofNat 0, ⟨1, Nat.one_pos, one_lt_order⟩⟩, 0, 101, 101⟩,
    .deliver 0, .deliver 1, .deliver 0]

theorem run_converges_greeting :
    let start := fresh 100 ⟨1, 0, 30⟩ twoNodes
    let mesh := start.run .standard greeting
    (∀ node ∈ twoNodes, node.2.1.syncOnConnect = true) ∧
    PoolPolicy.Ample ⟨1, 0, 30⟩ (start.occurring .standard greeting).toFinset ∧
    (∀ done, done <+: greeting → (start.run .standard done).Addressable) ∧
    ∃ envelope, mesh.Holds (Octets.ofNat 1) envelope ∧ envelope.isExpired mesh.now = false ∧
      mesh.Holds (Octets.ofNat 2) envelope := by
  have sync : ∀ node ∈ twoNodes, node.2.1.syncOnConnect = true := by
    simp [twoNodes, HostSettings.standard]
  have run :
      let start := fresh 100 ⟨1, 0, 30⟩ twoNodes
      let mesh := start.run .standard greeting
      (start.occurring .standard greeting).toFinset.card ≤ 1 ∧
      (∀ done ∈ greeting.inits, ∀ channel ∈ (start.run .standard done).channels,
        ∀ packet ∈ channel.packets, packet.length < Rlp.sizeLimit) ∧
      mesh.isLinked (Octets.ofNat 1) (Octets.ofNat 2) = true ∧
      (∀ channel ∈ mesh.channels, channel.packets = []) ∧
      ∃ host ∈ mesh.host? (Octets.ofNat 1), ∃ envelope ∈ host.pool.envelopes,
        envelope.isExpired mesh.now = false := by
    decide +kernel
  obtain ⟨few, short, linked, settled, host, found, envelope, held, live⟩ := run
  have ample : PoolPolicy.Ample ⟨1, 0, 30⟩
      ((fresh 100 ⟨1, 0, 30⟩ twoNodes).occurring .standard greeting).toFinset :=
    ⟨fun a inA b inB _ => Finset.card_le_one.1 few a inA b inB, few⟩
  have addressable : ∀ done, done <+: greeting →
      ((fresh 100 ⟨1, 0, 30⟩ twoNodes).run .standard done).Addressable :=
    fun done front => short done ((List.mem_inits done greeting).2 front)
  have converges := run_converges .standard 100 ⟨1, 0, 30⟩ twoNodes greeting sync ample addressable
  refine ⟨sync, ample, addressable, envelope, ⟨host, found, held⟩, live, ?_⟩
  exact (converges.2 settled _ _ (.single linked) envelope live).1 ⟨host, found, held⟩

end Greeting

end Courier.Mesh

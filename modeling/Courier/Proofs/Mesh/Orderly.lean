import Mathlib
import Courier.Proofs.Host.Connectedness
import Courier.Proofs.Mesh.Coherence

/-! # Hosts that have sent everything

Between two operations no host has anything left that is not in its channel, and every link leads to
its peer. Then what an operation does to a mesh can be told exactly: whose host it changes, and who
is connected afterwards.
-/

namespace Courier.Mesh

variable {Secret Public : Type}

/-- Links lead where they should, and no host has anything left that is not in its channel. -/
structure Orderly (mesh : Mesh) : Prop where
  wired : mesh.Wired
  quiet : ∀ id host, mesh.host? id = some host → host.outbox = []

variable {mesh after : Mesh} {id peer : PeerId} {number : Nat} {channel : Channel}

theorem Sound.orderly {policy : PoolPolicy} {stock : Finset Envelope}
    (h : mesh.Sound policy stock) : mesh.Orderly := ⟨h.wired, h.quiet⟩

section Orderly

theorem ofHosts_host? (now : UInt64) {hosts : List (PeerId × Host)}
    (member : id ∈ hosts.map Prod.fst) : ((ofHosts now hosts).host? id).isSome := by
  obtain ⟨⟨id', host⟩, listed, rfl⟩ := List.mem_map.1 member
  rw [host?, Option.isSome_map, node?, List.find?_isSome]
  exact ⟨⟨id', host, []⟩, List.mem_map_of_mem listed, decide_eq_true rfl⟩

theorem ofHosts_orderly (now : UInt64) {hosts : List (PeerId × Host)}
    (unsent : ∀ entry ∈ hosts, entry.2.outbox = []) : (ofHosts now hosts).Orderly where
  wired := by
    intro id peer number link
    obtain ⟨node, found, there⟩ := Option.bind_eq_some_iff.1 link
    rw [(ofHosts_node? found).1] at there
    cases there
  quiet := by
    intro id host found
    obtain ⟨node, inMesh, rfl⟩ := Option.map_eq_some_iff.1 found
    exact unsent _ (ofHosts_node? inMesh).2

theorem Orderly.rewired (h : mesh.Orderly) (same : Rewired mesh after) (wired : after.Wired) :
    after.Orderly :=
  ⟨wired, fun id host found => h.quiet id host (same.host? id ▸ found)⟩

theorem Orderly.attach (h : mesh.Orderly) (found : (mesh.host? id).isSome) (peer : PeerId) :
    (mesh.attach id peer).Orderly := by
  obtain ⟨host, found⟩ := Option.isSome_iff_exists.1 found
  exact h.rewired (.attach mesh id peer) (attach_wired h.wired found)

theorem Orderly.detach (h : mesh.Orderly) (id peer : PeerId) : (mesh.detach id peer).Orderly :=
  h.rewired (.detach mesh id peer) (detach_wired h.wired id peer)

theorem Orderly.wake (h : mesh.Orderly) (number : Nat) : (mesh.wake number).Orderly := by
  have rewired := Rewired.wake mesh number
  obtain ⟨woken, woke⟩ := wake_eq mesh number
  rw [woke] at rewired ⊢
  exact h.rewired rewired (rewired.wired h.wired fun _ _ _ => .inl)

theorem Orderly.acted {source : PeerId} {consumed : List Bytes} {host : Host} (h : mesh.Orderly)
    (acted : Acted id source consumed host mesh after) : after.Orderly where
  wired := fun owner peer number link =>
    acted.leads number owner peer (h.wired owner peer number (acted.link? owner peer ▸ link))
  quiet := by
    intro owner holder holds
    rw [acted.host?] at holds
    split at holds
    · cases holds
      rfl
    · exact h.quiet owner holder holds

theorem Orderly.act {α : Type} (h : mesh.Orderly) (id : PeerId)
    (action : Network → Host → Host × α) :
    (mesh.act id action).1.Orderly ∧
    (∀ owner peer, (mesh.act id action).1.link? owner peer = mesh.link? owner peer) ∧
    ∃ network, ∀ owner, (mesh.act id action).1.host? owner =
      if owner = id then
        (mesh.host? id).map fun host => { (action network host).1 with outbox := [] }
      else mesh.host? owner := by
  cases found : mesh.host? id with
  | none =>
      rw [act_of_missing found]
      refine ⟨h, fun _ _ => rfl, fun _ _ _ => true, fun owner => ?_⟩
      by_cases here : owner = id
      · rw [if_pos here, here, found, Option.map_none]
      · rw [if_neg here]
  | some host =>
      obtain ⟨network, -, acted⟩ := act_acted h.wired found (h.quiet id host found) action id
      exact ⟨h.acted acted, acted.link?, network, acted.host?⟩

theorem Orderly.act_channels {α : Type} (h : mesh.Orderly) (action : Network → Host → Host × α)
    (silent : ∀ network host, mesh.host? id = some host → (action network host).1.outbox = []) :
    (mesh.act id action).1.channels = mesh.channels := by
  rw [Mesh.act]
  split
  · rfl
  · rename_i node inMesh
    have found : mesh.host? id = some node.host := by rw [host?, inMesh, Option.map_some]
    have same : { node.host with outbox := [] } = node.host := by rw [← h.quiet id node.host found]
    simp only [same, silent _ node.host found]
    rfl

theorem Orderly.popped {source target : PeerId} {packet : Bytes} (h : mesh.Orderly)
    (popped : Popped source target packet mesh after) : after.Orderly := by
  refine ⟨popped.wired h.wired, fun id host found => h.quiet id host ?_⟩
  rwa [host?, popped.node?] at found

theorem Orderly.deliver (h : mesh.Orderly) {packet : Bytes} {rest : List Bytes}
    (here : mesh.channels[number]? = some channel) (packets : channel.packets = packet :: rest) :
    (mesh.deliver number).Orderly ∧
    (∀ owner peer, (mesh.deliver number).link? owner peer = mesh.link? owner peer) ∧
    ∃ network, ∀ owner, (mesh.deliver number).host? owner =
      if owner = channel.target then
        (mesh.host? channel.target).map fun host =>
          { host.receive network mesh.now channel.source packet with outbox := [] }
      else mesh.host? owner := by
  have popped := Popped.first here packets
  obtain ⟨orderly, links, network, hosts⟩ := (h.popped popped).act channel.target
    fun network host => (host.receive network mesh.now channel.source packet, ())
  rw [Mesh.deliver, here]
  simp only [packets]
  refine ⟨orderly, fun owner peer => (links owner peer).trans (popped.link? owner peer), network,
    fun owner => ?_⟩
  refine (hosts owner).trans ?_
  simp only [host?, popped.node?]

theorem deliver_of_nil (empty : ∀ channel, mesh.channels[number]? = some channel →
    channel.packets = []) : mesh.deliver number = mesh := by
  rw [Mesh.deliver]
  split
  · rfl
  · rename_i channel here
    rw [empty channel here]

end Orderly

section Connections

/-- Who is connected after an act is decided by what the act does to its host. -/
theorem Orderly.act_joined {α : Type} (h : mesh.Orderly) (id : PeerId)
    (action : Network → Host → Host × α) (change : Prop → Prop) (x y : PeerId)
    (changes : ∀ network host,
      (action network host).1.isConnected y = true ↔ change (host.isConnected y = true)) :
    (mesh.act id action).1.Joined x y ↔
      if x = id then ∃ host, mesh.host? id = some host ∧ change (host.isConnected y = true)
      else mesh.Joined x y := by
  obtain ⟨-, -, network, hosts⟩ := h.act id action
  rw [Joined, hosts, Joined]
  by_cases here : x = id
  · rw [if_pos here, if_pos here]
    constructor
    · rintro ⟨after, made, connected⟩
      obtain ⟨host, found, rfl⟩ := Option.map_eq_some_iff.1 made
      exact ⟨host, found, (changes network host).1 connected⟩
    · rintro ⟨host, found, changed⟩
      exact ⟨_, Option.map_eq_some_iff.2 ⟨host, found, rfl⟩, (changes network host).2 changed⟩
  · rw [if_neg here, if_neg here]

theorem Orderly.act_joined_of_same {α : Type} (h : mesh.Orderly) (id : PeerId)
    (action : Network → Host → Host × α) (x y : PeerId)
    (same : ∀ network host, (action network host).1.isConnected y = host.isConnected y) :
    (mesh.act id action).1.Joined x y ↔ mesh.Joined x y := by
  rw [h.act_joined id action (fun joined => joined) x y fun network host => by rw [same]]
  split
  · rename_i here
    rw [here, Joined]
  · rfl

theorem Orderly.connect_joined (h : mesh.Orderly) (suite : Suite Secret Public)
    (found : (mesh.host? id).isSome) (peer x y : PeerId) :
    (mesh.act_ id fun network host => host.connect network mesh.now peer).Joined x y ↔
      mesh.Joined x y ∨ x = id ∧ y = peer := by
  obtain ⟨host, found⟩ := Option.isSome_iff_exists.1 found
  refine (h.act_joined id _ (· ∨ y = peer) x y fun network host =>
    Host.perform_connect_isConnected suite network mesh.now host peer y).trans ?_
  split
  · rename_i here
    subst here
    simp [Joined, found]
  · rename_i other
    simp [other]

theorem Orderly.disconnect_joined (h : mesh.Orderly) (suite : Suite Secret Public)
    (id peer x y : PeerId) :
    (mesh.act_ id fun _ host => host.disconnect peer).Joined x y ↔
      mesh.Joined x y ∧ ¬ (x = id ∧ y = peer) := by
  refine (h.act_joined id _ (· ∧ y ≠ peer) x y fun network host =>
    Host.perform_disconnect_isConnected suite network mesh.now host peer y).trans ?_
  split
  · rename_i here
    subst here
    simp only [Joined, true_and, ← and_assoc, exists_and_right]
  · rename_i other
    simp [other]

end Connections

end Courier.Mesh

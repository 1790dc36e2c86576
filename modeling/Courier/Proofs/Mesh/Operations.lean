import Mathlib
import Courier.Proofs.Mesh.Orderly

/-! # What is done to linked hosts

Hosts post and sweep, links are made and cut, packets are delivered one at a time and the clock
goes on, in any order. Every operation keeps what linked hosts know of each other coherent.
-/

namespace Courier

variable {Secret Public : Type}

/-- What can be done to linked hosts. -/
inductive MeshOperation (Secret Public : Type) where
  /-- A host posts; the clock goes on in the meantime. -/
  | post (id : PeerId) (request : PostRequest Secret Public) (chance : Chance Secret)
  | connect (a b : PeerId)
  | disconnect (a b : PeerId)
  | housekeeping (id : PeerId)
  /-- The first packet of a channel is delivered. -/
  | deliver (number : Nat)
  /-- The clock goes on, and never back. -/
  | wait (time : UInt64)

namespace Mesh

/-- Whether the clock does not go back in the course of a post. -/
def Keeps (mesh : Mesh) (chance : Chance Secret) : Prop :=
  mesh.now ≤ chance.admission ∧ chance.admission ≤ chance.flush

instance (mesh : Mesh) (chance : Chance Secret) : Decidable (mesh.Keeps chance) :=
  inferInstanceAs (Decidable (_ ∧ _))

/-- Do one operation. Only nodes that exist can be linked, and nothing turns the clock back. -/
def perform (suite : Suite Secret Public) (mesh : Mesh) : MeshOperation Secret Public → Mesh
  | .post id request chance =>
    if mesh.Keeps chance then
      ({ mesh with now := chance.flush }.act id fun network host =>
        host.post suite network mesh.now request chance).1
    else mesh
  | .connect a b =>
    if (mesh.host? a).isSome ∧ (mesh.host? b).isSome then (mesh.connect a b).1 else mesh
  | .disconnect a b => mesh.disconnect a b
  | .housekeeping id => (mesh.act id fun _ host => host.housekeeping mesh.now).1
  | .deliver number => mesh.deliver number
  | .wait time => if mesh.now ≤ time then { mesh with now := time } else mesh

/-- Do operations one after another. -/
def run (suite : Suite Secret Public) (mesh : Mesh)
    (operations : List (MeshOperation Secret Public)) : Mesh :=
  operations.foldl (perform suite) mesh

/-- The envelope that an operation brings into being. -/
def composed (suite : Suite Secret Public) (mesh : Mesh) :
    MeshOperation Secret Public → List Envelope
  | .post id request chance =>
    if mesh.Keeps chance then
      match mesh.host? id, Host.compose suite mesh.now request chance with
      | some _, .ok envelope => [envelope]
      | _, _ => []
    else []
  | _ => []

/-- All envelopes that occur in a run. -/
def occurring (suite : Suite Secret Public) : Mesh → List (MeshOperation Secret Public) →
    List Envelope
  | _, [] => []
  | mesh, operation :: rest =>
    mesh.composed suite operation ++ occurring suite (mesh.perform suite operation) rest

/-- Whether every packet under way has no more octets than a machine can address. -/
def Addressable (mesh : Mesh) : Prop :=
  ∀ channel ∈ mesh.channels, ∀ packet ∈ channel.packets, packet.length < Rlp.sizeLimit

variable {mesh after : Mesh} {policy : PoolPolicy} {stock : Finset Envelope} {id peer a b : PeerId}

section Connections

theorem Joined.of_acted {source : PeerId} {consumed : List Bytes} {host : Host}
    (acted : Acted id source consumed host mesh after) (owner peer : PeerId) :
    after.Joined owner peer ↔
      if owner = id then host.isConnected peer = true else mesh.Joined owner peer := by
  rw [Joined, acted.host?, Joined]
  by_cases here : owner = id
  · rw [if_pos here, if_pos here]
    constructor
    · rintro ⟨_, same, connected⟩
      cases same
      exact connected
    · exact fun connected => ⟨_, rfl, connected⟩
  · rw [if_neg here, if_neg here]

theorem Acted.isLinked {source : PeerId} {consumed : List Bytes} {host : Host}
    (acted : Acted id source consumed host mesh after) (owner peer : PeerId) :
    after.isLinked owner peer = mesh.isLinked owner peer := by
  rw [isLinked_eq, acted.link?, isLinked_eq]

theorem Rewired.joined (same : Rewired mesh after) (id peer : PeerId) :
    after.Joined id peer ↔ mesh.Joined id peer := by
  rw [Joined, same.host?, Joined]

theorem exists_host_of_isLinked (linked : mesh.isLinked id peer = true) :
    ∃ host, mesh.host? id = some host := by
  rw [isLinked] at linked
  cases found : mesh.node? id with
  | none => simp [found] at linked
  | some node => exact ⟨node.host, by rw [host?, found, Option.map_some]⟩

theorem attach_isLinked (found : (mesh.host? id).isSome) (peer : PeerId) (other target : PeerId) :
    (mesh.attach id peer).isLinked other target = true ↔
      mesh.isLinked other target = true ∨ other = id ∧ target = peer := by
  obtain ⟨host, found⟩ := Option.isSome_iff_exists.1 found
  rw [isLinked_eq, attach_link? mesh id peer found, isLinked_eq]
  split
  · simp_all
  · simp_all

theorem detach_isLinked (mesh : Mesh) (id peer other target : PeerId) :
    (mesh.detach id peer).isLinked other target = true ↔
      mesh.isLinked other target = true ∧ ¬ (other = id ∧ target = peer) := by
  rw [isLinked_eq, detach_link?, isLinked_eq]
  split
  · simp_all
  · simp_all

end Connections

section Hosts

theorem Sound.act {α : Type} (h : mesh.Sound policy stock) {host : Host}
    (found : mesh.host? id = some host) (action : Network → Host → Host × α)
    (advances : ∀ network,
      host.Advances policy stock network mesh.now id [] (action network host).1)
    (linked : ∀ network peer, (action network host).1.isConnected peer = true →
      mesh.isLinked id peer = true) :
    ∃ network, Acted id id [] (action network host).1 mesh (mesh.act id action).1 ∧
      (mesh.act id action).1.Sound policy stock := by
  obtain ⟨network, serves, acted⟩ := act_acted h.wired found (h.quiet id host found) action id
  exact ⟨network, acted, h.acted acted found (advances network) serves (linked network) nofun nofun
    nofun⟩

theorem Paired.acted {source : PeerId} {consumed : List Bytes} {host host' : Host}
    (h : mesh.Paired) (acted : Acted id source consumed host' mesh after)
    (found : mesh.host? id = some host)
    (same : ∀ peer, host'.isConnected peer = host.isConnected peer) : after.Paired where
  symmetric := by
    intro owner peer
    rw [acted.isLinked, acted.isLinked]
    exact h.symmetric owner peer
  joined := by
    intro owner peer
    rw [Joined.of_acted acted, acted.isLinked, ← h.joined]
    split
    · rename_i here
      rw [same, here, Joined, found]
      simp
    · rfl

theorem act_coherent {α : Type} (sound : mesh.Sound policy stock) (paired : mesh.Paired)
    (action : Network → Host → Host × α)
    (advances : ∀ host network, mesh.host? id = some host →
      host.Advances policy stock network mesh.now id [] (action network host).1)
    (same : ∀ host network peer, mesh.host? id = some host →
      (action network host).1.isConnected peer = host.isConnected peer) :
    (mesh.act id action).1.Sound policy stock ∧ (mesh.act id action).1.Paired := by
  cases found : mesh.host? id with
  | none =>
      rw [act_of_missing found]
      exact ⟨sound, paired⟩
  | some host =>
      obtain ⟨network, acted, sound'⟩ := sound.act found action
        (fun network => advances host network found) fun network peer connected =>
          (paired.joined id peer).1 ⟨host, found, same host network peer found ▸ connected⟩
      exact ⟨sound', paired.acted acted found fun peer => same host network peer found⟩

end Hosts

section Linking

theorem act_connect (ample : policy.Ample stock) (suite : Suite Secret Public)
    (h : mesh.Sound policy stock) {id peer : PeerId}
    (joined : ∀ owner target, mesh.Joined owner target → mesh.isLinked owner target = true)
    (link : mesh.isLinked id peer = true) :
    ∃ after, (mesh.act_ id fun network host => host.connect network mesh.now peer) = after ∧
      after.Sound policy stock ∧
      (∀ owner target, after.isLinked owner target = mesh.isLinked owner target) ∧
      ∀ owner target, after.Joined owner target ↔
        mesh.Joined owner target ∨ owner = id ∧ target = peer := by
  obtain ⟨host, found⟩ := exists_host_of_isLinked link
  have connects := fun network =>
    Host.perform_connect_isConnected suite network mesh.now host peer
  obtain ⟨network, acted, sound⟩ := h.act found
    (fun network host => (host.connect network mesh.now peer, ()))
    (fun network => (h.rest id host found).connect ample (h.quiet id host found) suite network peer
      id)
    (by
      intro network target connected
      rcases (connects network target).1 connected with old | rfl
      · exact joined id target ⟨host, found, old⟩
      · exact link)
  have present : (mesh.host? id).isSome := Option.isSome_iff_exists.2 ⟨host, found⟩
  exact ⟨_, rfl, sound, acted.isLinked, h.orderly.connect_joined suite present peer⟩

theorem act_disconnect (ample : policy.Ample stock) (suite : Suite Secret Public)
    (h : mesh.Sound policy stock) {id peer : PeerId}
    (joined : ∀ target, mesh.Joined id target → target = peer ∨ mesh.isLinked id target = true) :
    ∃ after, (mesh.act_ id fun _ host => host.disconnect peer) = after ∧
      after.Sound policy stock ∧
      (∀ owner target, after.isLinked owner target = mesh.isLinked owner target) ∧
      ∀ owner target, after.Joined owner target ↔
        mesh.Joined owner target ∧ ¬ (owner = id ∧ target = peer) := by
  have parts := h.orderly.disconnect_joined suite id peer
  cases found : mesh.host? id with
  | none =>
      have unchanged : (mesh.act_ id fun _ host => host.disconnect peer) = mesh :=
        act_of_missing found _
      rw [unchanged] at parts ⊢
      exact ⟨mesh, rfl, h, fun _ _ => rfl, parts⟩
  | some host =>
      have disconnects := fun network =>
        Host.perform_disconnect_isConnected suite network mesh.now host peer
      obtain ⟨network, acted, sound⟩ := h.act found (fun _ host => (host.disconnect peer, ()))
        (fun network => (h.rest id host found).disconnect ample (h.quiet id host found) suite
          network peer id)
        (by
          intro network target connected
          obtain ⟨old, other⟩ := (disconnects network target).1 connected
          exact (joined target ⟨host, found, old⟩).resolve_left other)
      exact ⟨_, rfl, sound, acted.isLinked, parts⟩

theorem wake_coherent (h : mesh.Sound policy stock ∧ mesh.Paired) (number : Nat) :
    (mesh.wake number).Sound policy stock ∧ (mesh.wake number).Paired := by
  have rewired := Rewired.wake mesh number
  obtain ⟨woken, woke⟩ := wake_eq mesh number
  rw [woke] at rewired ⊢
  refine ⟨h.1.rewired rewired (rewired.wired h.1.wired fun _ _ _ => .inl), h.2.symmetric, ?_⟩
  exact h.2.joined

theorem connect_coherent (ample : policy.Ample stock) (suite : Suite Secret Public)
    (sound : mesh.Sound policy stock) (paired : mesh.Paired) (foundA : (mesh.host? a).isSome)
    (foundB : (mesh.host? b).isSome) :
    (mesh.connect a b).1.Sound policy stock ∧ (mesh.connect a b).1.Paired := by
  -- Both links are there before either host learns of the other.
  have rewired := (Rewired.attach mesh a b).trans (Rewired.attach (mesh.attach a b) b a)
  obtain ⟨hostA, inMeshA⟩ := Option.isSome_iff_exists.1 foundA
  have foundB' := foundB
  rw [← (Rewired.attach mesh a b).host?] at foundB'
  obtain ⟨hostB, inMeshB⟩ := Option.isSome_iff_exists.1 foundB'
  have attached := sound.rewired rewired (attach_wired (attach_wired sound.wired inMeshA) inMeshB)
  have linked : ∀ x y, ((mesh.attach a b).attach b a).isLinked x y = true ↔
      mesh.isLinked x y = true ∨ x = a ∧ y = b ∨ x = b ∧ y = a := by
    intro x y
    rw [attach_isLinked foundB', attach_isLinked foundA, or_assoc]
  rw [connect]
  simp only
  generalize (mesh.attach a b).attach b a = attachment at attached linked rewired
  have joined : ∀ x y, attachment.Joined x y → attachment.isLinked x y = true := by
    intro x y before
    rw [rewired.joined, paired.joined] at before
    exact (linked x y).2 (.inl before)
  obtain ⟨one, learnt₁, sound₁, linked₁, joined₁⟩ := act_connect ample suite attached joined
    ((linked a b).2 (.inr (.inl ⟨rfl, rfl⟩)))
  have joined' : ∀ x y, one.Joined x y → one.isLinked x y = true := by
    intro x y before
    rw [linked₁, linked, ← paired.joined, ← rewired.joined]
    exact ((joined₁ x y).1 before).imp_right .inl
  have link : one.isLinked b a = true := by
    rw [linked₁, linked]
    exact .inr (.inr ⟨rfl, rfl⟩)
  obtain ⟨both, learnt₂, sound₂, linked₂, joined₂⟩ :=
    act_connect ample suite sound₁ joined' link
  rw [learnt₁, learnt₂]
  refine wake_coherent (wake_coherent ⟨sound₂, ⟨?_, ?_⟩⟩ _) _
  · intro x y
    rw [linked₂, linked₁, linked, linked₂, linked₁, linked]
    rintro (old | ⟨rfl, rfl⟩ | ⟨rfl, rfl⟩)
    · exact .inl (paired.symmetric x y old)
    · exact .inr (.inr ⟨rfl, rfl⟩)
    · exact .inr (.inl ⟨rfl, rfl⟩)
  · intro x y
    rw [joined₂, joined₁, rewired.joined, paired.joined, linked₂, linked₁, linked, or_assoc]

/-- The links are cut before either host learns that the other is gone. -/
theorem disconnect_coherent (ample : policy.Ample stock) (suite : Suite Secret Public)
    (sound : mesh.Sound policy stock) (paired : mesh.Paired) (a b : PeerId) :
    (mesh.disconnect a b).Sound policy stock ∧ (mesh.disconnect a b).Paired := by
  have rewired := (Rewired.detach mesh a b).trans (Rewired.detach (mesh.detach a b) b a)
  have detached := sound.rewired rewired (detach_wired (detach_wired sound.wired a b) b a)
  have linked : ∀ x y, ((mesh.detach a b).detach b a).isLinked x y = true ↔
      (mesh.isLinked x y = true ∧ ¬ (x = a ∧ y = b)) ∧ ¬ (x = b ∧ y = a) := by
    intro x y
    rw [detach_isLinked, detach_isLinked]
  rw [disconnect]
  generalize (mesh.detach a b).detach b a = detachment at detached linked rewired
  have joinedA : ∀ target, detachment.Joined a target →
      target = b ∨ detachment.isLinked a target = true := by
    intro target before
    rw [rewired.joined, paired.joined] at before
    by_cases same : target = b
    · exact .inl same
    · refine .inr ((linked a target).2 ⟨⟨before, fun ends => same ends.2⟩, ?_⟩)
      rintro ⟨rfl, rfl⟩
      exact same rfl
  obtain ⟨one, learnt₁, sound₁, linked₁, joined₁⟩ :=
    act_disconnect ample suite detached joinedA
  have joinedB : ∀ target, one.Joined b target → target = a ∨ one.isLinked b target = true := by
    intro target before
    have before := ((joined₁ b target).1 before).1
    rw [rewired.joined, paired.joined] at before
    by_cases same : target = a
    · exact .inl same
    · rw [linked₁]
      refine .inr ((linked b target).2 ⟨⟨before, ?_⟩, fun ends => same ends.2⟩)
      rintro ⟨rfl, rfl⟩
      exact same rfl
  obtain ⟨both, learnt₂, sound₂, linked₂, joined₂⟩ :=
    act_disconnect ample suite sound₁ joinedB
  simp only [learnt₁, learnt₂]
  refine ⟨sound₂, ⟨?_, ?_⟩⟩
  · intro x y
    rw [linked₂, linked₁, linked, linked₂, linked₁, linked]
    rintro ⟨⟨old, notForth⟩, notBack⟩
    exact ⟨⟨paired.symmetric x y old, fun ends => notBack ⟨ends.2, ends.1⟩⟩,
      fun ends => notForth ⟨ends.2, ends.1⟩⟩
  · intro x y
    rw [joined₂, joined₁, rewired.joined, paired.joined, linked₂, linked₁, linked]

end Linking

section Delivery

theorem Sound.popped (h : mesh.Sound policy stock) {source target : PeerId} {packet : Bytes}
    (popped : Popped source target packet mesh after)
    (unknown : ∀ envelope, ¬ mesh.Knows source target envelope) : after.Sound policy stock where
  wired := popped.wired h.wired
  rest := by
    intro id host found
    rw [host?, popped.node?] at found
    rw [popped.now]
    exact h.rest id host found
  quiet := by
    intro id host found
    rw [host?, popped.node?] at found
    exact h.quiet id host found
  genuine := by
    intro source' target' bytes under
    obtain ⟨packet, written, parts⟩ := h.genuine source' target' bytes
      (popped.old source' target' bytes under)
    refine ⟨packet, written, fun envelope part => ?_⟩
    rw [Has, Holds, popped.now, host?, popped.node?]
    exact parts envelope part
  shared := by
    rintro id peer envelope inStock ⟨host, state, found, known⟩
    rw [host?, popped.node?] at found
    rw [Has, Holds, popped.now, host?, popped.node?]
    rcases h.shared id peer envelope inStock ⟨host, state, found, known⟩ with
      has | ⟨envelopes, part, under⟩
    · exact .inl has
    · rcases popped.kept id peer _ under with kept | ⟨rfl, rfl, -⟩
      · exact .inr ⟨envelopes, part, kept⟩
      · exact (unknown envelope ⟨host, state, found, known⟩).elim

theorem Paired.joined_of_knows (h : mesh.Paired) {envelope : Envelope}
    (knows : mesh.Knows a b envelope) : mesh.Joined b a := by
  obtain ⟨host, state, found, connected, -⟩ := knows
  have linked := (h.joined a b).1 ⟨host, found, Host.isConnected_iff.2 ⟨state, connected⟩⟩
  exact (h.joined b a).2 (h.symmetric a b linked)

theorem deliver_taken (ample : policy.Ample stock) (suite : Suite Secret Public)
    (sound : mesh.Sound policy stock) (paired : mesh.Paired) {number : Nat} {channel : Channel}
    {sent : Packet} {rest : List Bytes} (here : mesh.channels[number]? = some channel)
    (packets : channel.packets = sent.encode :: rest)
    (fits : sent.encode.length < Rlp.sizeLimit)
    (parts : ∀ envelope ∈ sent.contents, envelope ∈ stock ∧
      policy.Accepts mesh.now envelope ∧ mesh.Has channel.source envelope)
    {host : Host} (found : mesh.host? channel.target = some host) :
    (mesh.deliver number).Sound policy stock ∧ (mesh.deliver number).Paired := by
  have quiet := sound.quiet channel.target host found
  obtain ⟨network, serves, acted⟩ := deliver_acted sound.wired here packets found quiet
  have same : ∀ peer, (host.perform suite network mesh.now
      (.receive channel.source sent.encode)).isConnected peer = host.isConnected peer :=
    fun peer => Host.perform_isConnected suite network mesh.now (by simp) (by simp)
  have advances := (sound.rest channel.target host found).receive ample quiet suite network
    channel.source (Packet.decode_encode fits) fun envelope part => (parts envelope part).1
  refine ⟨sound.acted acted found advances serves ?_ ?_ ?_ ?_, paired.acted acted found same⟩
  · intro peer connected
    exact (paired.joined _ peer).1 ⟨host, found, same peer ▸ connected⟩
  · intro envelopes member
    rw [Packet.encode_injective fits (List.mem_singleton.1 member).symm]
    exact fun envelope part => part
  · exact fun envelope part => (parts envelope part).2
  · intro envelope _ knows
    obtain ⟨host', inMesh, connected⟩ := paired.joined_of_knows knows
    cases found.symm.trans inMesh
    exact connected

theorem deliver_coherent (ample : policy.Ample stock) (suite : Suite Secret Public)
    (sound : mesh.Sound policy stock) (paired : mesh.Paired) (addressable : mesh.Addressable)
    (number : Nat) :
    (mesh.deliver number).Sound policy stock ∧ (mesh.deliver number).Paired := by
  cases here : mesh.channels[number]? with
  | none =>
      rw [deliver, here]
      exact ⟨sound, paired⟩
  | some channel =>
      cases packets : channel.packets with
      | nil =>
          rw [deliver, here]
          simp only [packets]
          exact ⟨sound, paired⟩
      | cons packet rest =>
          have first : packet ∈ channel.packets := packets ▸ List.mem_cons_self
          obtain ⟨sent, rfl, parts⟩ := sound.genuine channel.source channel.target packet
            ⟨number, channel, here, rfl, rfl, first⟩
          cases found : mesh.host? channel.target with
          | some host =>
              have fits := addressable channel (List.mem_of_getElem? here) sent.encode first
              exact deliver_taken ample suite sound paired here packets fits parts found
          | none =>
              have popped := Popped.first here packets
              rw [host?, ← popped.node?] at found
              rw [deliver, here]
              simp only [packets]
              rw [act_, act_of_missing found]
              refine ⟨sound.popped popped ?_, ⟨paired.symmetric, paired.joined⟩⟩
              intro envelope knows
              obtain ⟨host, inMesh, -⟩ := paired.joined_of_knows knows
              rw [host?, ← popped.node?] at inMesh
              cases found.symm.trans inMesh

end Delivery

/-- Every operation keeps the mesh coherent. -/
theorem perform_coherent (ample : policy.Ample stock) (suite : Suite Secret Public)
    (sound : mesh.Sound policy stock) (paired : mesh.Paired) (addressable : mesh.Addressable)
    {operation : MeshOperation Secret Public}
    (inStock : ∀ envelope ∈ mesh.composed suite operation, envelope ∈ stock) :
    (mesh.perform suite operation).Sound policy stock ∧
      (mesh.perform suite operation).Paired := by
  cases operation with
  | post id request chance =>
      rw [perform]
      split
      · rename_i keeps
        obtain ⟨admitted, flushed⟩ := keeps
        have later := sound.later (UInt64.le_trans admitted flushed)
        refine act_coherent later ⟨paired.symmetric, paired.joined⟩ _ ?_ ?_
        · intro host network found
          refine (sound.rest id host found).post ample (sound.quiet id host found) suite network
            admitted flushed ?_ id
          intro envelope composed
          refine inStock envelope ?_
          have here : mesh.host? id = some host := found
          rw [Mesh.composed, if_pos ⟨admitted, flushed⟩, here, composed]
          exact List.mem_singleton_self envelope
        · intro host network peer _
          change (host.perform suite network mesh.now (.post request chance)).isConnected peer = _
          exact Host.perform_isConnected suite network mesh.now (by simp) (by simp)
      · exact ⟨sound, paired⟩
  | connect a b =>
      rw [perform]
      split
      · rename_i found
        exact connect_coherent ample suite sound paired found.1 found.2
      · exact ⟨sound, paired⟩
  | disconnect a b => exact disconnect_coherent ample suite sound paired a b
  | housekeeping id =>
      refine act_coherent sound paired _ ?_ fun _ _ _ _ => rfl
      exact fun host network found =>
        (sound.rest id host found).housekeeping (sound.quiet id host found) suite network id
  | deliver number => exact deliver_coherent ample suite sound paired addressable number
  | wait time =>
      rw [perform]
      split
      · rename_i le
        exact ⟨sound.later le, ⟨paired.symmetric, paired.joined⟩⟩
      · exact ⟨sound, paired⟩

end Mesh

end Courier

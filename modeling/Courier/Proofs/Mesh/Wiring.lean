import Mathlib
import Courier.Mesh
import Courier.Proofs.Host.Effects

/-! # Links and packets under way

What each part of a mesh's operations does to hosts, links and packets. A channel keeps its two
ends for ever, and a packet leaves it only by being delivered.
-/

namespace Courier.Mesh

variable {mesh : Mesh} {id peer source target : PeerId} {number : Nat} {bytes : Bytes}

/-- The host with a name. -/
def host? (mesh : Mesh) (id : PeerId) : Option Host := (mesh.node? id).map (·.host)

/-- The number of the channel through which a node sends to a peer. -/
def link? (mesh : Mesh) (id peer : PeerId) : Option Nat :=
  (mesh.node? id).bind fun node => node.links.lookup peer

/-- Whether a channel leads from one node to another, and somebody reads at its end. -/
def Leads (mesh : Mesh) (number : Nat) (source target : PeerId) : Prop :=
  ∃ channel, mesh.channels[number]? = some channel ∧ channel.source = source ∧
    channel.target = target ∧ channel.readable = true

/-- Whether a packet is under way from one node to another. -/
def UnderWay (mesh : Mesh) (source target : PeerId) (packet : Bytes) : Prop :=
  ∃ (number : Nat) (channel : Channel), mesh.channels[number]? = some channel ∧
    channel.source = source ∧ channel.target = target ∧ packet ∈ channel.packets

/-- Whether every link leads to its peer. -/
def Wired (mesh : Mesh) : Prop :=
  ∀ id peer number, mesh.link? id peer = some number → mesh.Leads number id peer

theorem isLinked_eq (mesh : Mesh) (id peer : PeerId) :
    mesh.isLinked id peer = (mesh.link? id peer).isSome := by
  rw [isLinked, link?]
  cases mesh.node? id <;> rfl

theorem network_serves (wired : mesh.Wired) {node : Node} (found : mesh.node? id = some node)
    (linked : mesh.isLinked id peer = true) : (node.network mesh.channels).Serves peer := by
  intro handed packet
  rw [isLinked_eq, Option.isSome_iff_exists] at linked
  obtain ⟨number, link⟩ := linked
  obtain ⟨channel, inMesh, -, -, readable⟩ := wired id peer number link
  rw [link?, found, Option.bind_some] at link
  rw [Node.network, Node.send, link]
  simp [inMesh, readable]

theorem ofHosts_node? {now : UInt64} {hosts : List (PeerId × Host)} {node : Node}
    (found : (ofHosts now hosts).node? id = some node) :
    node.links = [] ∧ (id, node.host) ∈ hosts := by
  have inMesh := List.mem_of_find?_eq_some found
  have named := List.find?_some found
  obtain ⟨⟨id', host⟩, member, rfl⟩ := List.mem_map.1 inMesh
  obtain rfl := of_decide_eq_true named
  exact ⟨rfl, member⟩

section Parts

theorem updateNode_node? (mesh : Mesh) (id : PeerId) (change : Node → Node)
    (named : ∀ node, (change node).id = node.id) (other : PeerId) :
    (mesh.updateNode id change).node? other =
      (mesh.node? other).map fun node => if other = id then change node else node := by
  rw [node?, node?, updateNode]
  induction mesh.nodes with
  | nil => rfl
  | cons node rest ih =>
      have same : (if node.id = id then change node else node).id = node.id := by
        split
        · exact named node
        · rfl
      rw [List.map_cons, List.find?_cons, List.find?_cons, same, ih]
      by_cases here : node.id = other
      · simp [here]
      · simp [here]

theorem updateChannel_getElem? (mesh : Mesh) (number : Nat) (change : Channel → Channel)
    (other : Nat) :
    (mesh.updateChannel number change).channels[other]? =
      (mesh.channels[other]?).map fun channel =>
        if number = other then change channel else channel :=
  List.getElem?_modify ..

theorem updateChannel_leads {change : Channel → Channel}
    (ends : ∀ channel, (change channel).source = channel.source ∧
      (change channel).target = channel.target ∧ (change channel).readable = channel.readable)
    {other : Nat} (leads : mesh.Leads other source target) :
    (mesh.updateChannel number change).Leads other source target := by
  obtain ⟨channel, here, rfl, rfl, readable⟩ := leads
  obtain ⟨same, same', same''⟩ := ends channel
  rw [Leads, updateChannel_getElem?, here, Option.map_some]
  refine ⟨_, rfl, ?_⟩
  split
  · exact ⟨same, same', same''.trans readable⟩
  · exact ⟨rfl, rfl, readable⟩

theorem updateChannel_underWay {change : Channel → Channel}
    (ends : ∀ channel, (change channel).source = channel.source ∧
      (change channel).target = channel.target) :
    (mesh.updateChannel number change).UnderWay source target bytes ↔
      ∃ (other : Nat) (channel : Channel), mesh.channels[other]? = some channel ∧
        channel.source = source ∧ channel.target = target ∧
        bytes ∈ (if number = other then change channel else channel).packets := by
  rw [UnderWay]
  refine exists_congr fun other => ?_
  rw [updateChannel_getElem?]
  constructor
  · rintro ⟨changed, made, rfl, rfl, member⟩
    obtain ⟨channel, here, rfl⟩ := Option.map_eq_some_iff.1 made
    refine ⟨channel, here, ?_, ?_, member⟩
    · split <;> simp [ends channel]
    · split <;> simp [ends channel]
  · rintro ⟨channel, here, rfl, rfl, member⟩
    refine ⟨_, Option.map_eq_some_iff.2 ⟨channel, here, rfl⟩, ?_, ?_, member⟩
    · split <;> simp [ends channel]
    · split <;> simp [ends channel]

@[simp] theorem close_underWay : (mesh.close number).UnderWay source target bytes ↔
    mesh.UnderWay source target bytes := by
  refine (updateChannel_underWay ?_).trans ?_
  · exact fun _ => ⟨rfl, rfl⟩
  · simp only [apply_ite Channel.packets, ite_self]
    rfl

theorem wake_eq (mesh : Mesh) (number : Nat) : ∃ woken, mesh.wake number = { mesh with woken } := by
  rw [wake]
  split
  · exact ⟨mesh.woken, rfl⟩
  · exact ⟨_, rfl⟩

end Parts

section Sending

variable {packet : Bytes}

/-- Apart from what is to be looked at, a push changes one channel. -/
theorem push_eq (mesh : Mesh) (number : Nat) (packet : Bytes) :
    ∃ woken, mesh.push number packet = { mesh.updateChannel number fun channel =>
      { channel with packets := channel.packets ++ [packet] } with woken } :=
  wake_eq ..

theorem push_leads {other : Nat} (leads : mesh.Leads other source target) :
    (mesh.push number packet).Leads other source target := by
  obtain ⟨woken, pushed⟩ := push_eq mesh number packet
  rw [pushed]
  refine updateChannel_leads ?_ leads
  exact fun _ => ⟨rfl, rfl, rfl⟩

theorem push_underWay : (mesh.push number packet).UnderWay source target bytes ↔
    mesh.UnderWay source target bytes ∨ bytes = packet ∧
      ∃ channel, mesh.channels[number]? = some channel ∧ channel.source = source ∧
        channel.target = target := by
  obtain ⟨woken, pushed⟩ := push_eq mesh number packet
  rw [pushed]
  refine (updateChannel_underWay ?_).trans ?_
  · exact fun _ => ⟨rfl, rfl⟩
  constructor
  · rintro ⟨other, channel, here, rfl, rfl, member⟩
    split at member
    · subst number
      rcases List.mem_append.1 member with old | new
      · exact .inl ⟨other, channel, here, rfl, rfl, old⟩
      · exact .inr ⟨List.mem_singleton.1 new, channel, here, rfl, rfl⟩
    · exact .inl ⟨other, channel, here, rfl, rfl, member⟩
  · rintro (⟨other, channel, here, rfl, rfl, member⟩ | ⟨rfl, channel, here, rfl, rfl⟩)
    · refine ⟨other, channel, here, rfl, rfl, ?_⟩
      split
      · exact List.mem_append_left _ member
      · exact member
    · refine ⟨number, channel, here, rfl, rfl, ?_⟩
      rw [if_pos rfl]
      exact List.mem_append_right _ (List.mem_singleton_self bytes)

/-- What becomes of a mesh when packets are put into the channels of some links. -/
structure Carried (links : List (PeerId × Nat)) (handed : List Handover) (before after : Mesh) :
    Prop where
  now : after.now = before.now
  node? : ∀ id, after.node? id = before.node? id
  leads : ∀ number source target, before.Leads number source target →
    after.Leads number source target
  kept : ∀ source target bytes, before.UnderWay source target bytes →
    after.UnderWay source target bytes
  sent : ∀ handover ∈ handed, handover.taken = true → ∀ number source target,
    links.lookup handover.peer = some number → before.Leads number source target →
      after.UnderWay source target handover.packet.encode
  new : ∀ source target bytes, after.UnderWay source target bytes →
    before.UnderWay source target bytes ∨
      ∃ handover ∈ handed, bytes = handover.packet.encode ∧
        ∃ number, links.lookup handover.peer = some number ∧
          ∀ source' target', before.Leads number source' target' →
            source' = source ∧ target' = target

theorem push_carried {links : List (PeerId × Nat)} {handover : Handover}
    (link : links.lookup handover.peer = some number) :
    Carried links [handover] mesh (mesh.push number handover.packet.encode) where
  now := by
    obtain ⟨woken, pushed⟩ := push_eq mesh number handover.packet.encode
    rw [pushed]
    rfl
  node? := by
    obtain ⟨woken, pushed⟩ := push_eq mesh number handover.packet.encode
    rw [pushed]
    exact fun _ => rfl
  leads := fun _ _ _ => push_leads
  kept := fun _ _ _ old => push_underWay.2 (.inl old)
  sent := by
    intro other member _ number' source target link' leads
    rw [List.mem_singleton.1 member] at link' ⊢
    cases link.symm.trans link'
    obtain ⟨channel, here, start, finish, -⟩ := leads
    exact push_underWay.2 (.inr ⟨rfl, channel, here, start, finish⟩)
  new := by
    intro source target bytes under
    refine (push_underWay.1 under).imp_right ?_
    rintro ⟨rfl, channel, here, rfl, rfl⟩
    refine ⟨handover, List.mem_singleton_self handover, rfl, number, link, ?_⟩
    rintro _ _ ⟨other, there, rfl, rfl, -⟩
    cases here.symm.trans there
    exact ⟨rfl, rfl⟩

theorem Carried.skip {links : List (PeerId × Nat)} {handover : Handover}
    (lost : handover.taken = false ∨ links.lookup handover.peer = none) :
    Carried links [handover] mesh mesh where
  now := rfl
  node? := fun _ => rfl
  leads := fun _ _ _ => id
  kept := fun _ _ _ => id
  sent := by
    intro other member taken number source target link
    rw [List.mem_singleton.1 member] at taken link
    rcases lost with untaken | unlinked
    · cases untaken.symm.trans taken
    · cases unlinked.symm.trans link
  new := fun _ _ _ => .inl

theorem Carried.trans {links : List (PeerId × Nat)} {first rest : List Handover}
    {middle after : Mesh} (h : Carried links first mesh middle)
    (h' : Carried links rest middle after) : Carried links (first ++ rest) mesh after where
  now := h'.now.trans h.now
  node? := fun id => (h'.node? id).trans (h.node? id)
  leads := fun number source target leads =>
    h'.leads number source target (h.leads number source target leads)
  kept := fun source target bytes old =>
    h'.kept source target bytes (h.kept source target bytes old)
  sent := by
    intro handover member taken number source target link leads
    rcases List.mem_append.1 member with early | late
    · exact h'.kept source target _
        (h.sent handover early taken number source target link leads)
    · exact h'.sent handover late taken number source target link
        (h.leads number source target leads)
  new := by
    intro source target bytes under
    rcases h'.new source target bytes under with under | ⟨handover, late, same, number, link, ends⟩
    · refine (h.new source target bytes under).imp_right ?_
      rintro ⟨handover, early, found⟩
      exact ⟨handover, List.mem_append_left _ early, found⟩
    · refine .inr ⟨handover, List.mem_append_right _ late, same, number, link, ?_⟩
      exact fun source' target' leads =>
        ends source' target' (h.leads number source' target' leads)

theorem carry_carried (mesh : Mesh) (links : List (PeerId × Nat)) (handed : List Handover) :
    Carried links handed mesh (mesh.carry links handed) := by
  induction handed generalizing mesh with
  | nil =>
      exact ⟨rfl, fun _ => rfl, fun _ _ _ => id, fun _ _ _ => id, nofun, fun _ _ _ => .inl⟩
  | cons handover rest ih =>
      rw [carry]
      split
      · rename_i number taken link
        exact (push_carried link).trans (ih _)
      · rename_i other
        refine (Carried.skip ?_).trans (ih _)
        cases taken : handover.taken with
        | false => exact .inl rfl
        | true =>
            cases link : links.lookup handover.peer with
            | none => exact .inr rfl
            | some number => exact (other number taken link).elim

end Sending

section Acting

/-- What an act of one host does to a mesh, when some packets from a source are consumed by it. -/
structure Acted (id source : PeerId) (consumed : List Bytes) (host : Host)
    (before after : Mesh) : Prop where
  now : after.now = before.now
  host? : ∀ other, after.host? other =
    if other = id then some { host with outbox := [] } else before.host? other
  link? : ∀ other peer, after.link? other peer = before.link? other peer
  leads : ∀ number source target, before.Leads number source target →
    after.Leads number source target
  kept : ∀ source' target bytes, before.UnderWay source' target bytes →
    after.UnderWay source' target bytes ∨ source' = source ∧ target = id ∧ bytes ∈ consumed
  sent : ∀ handover ∈ host.outbox, handover.taken = true →
    before.isLinked id handover.peer = true →
      after.UnderWay id handover.peer handover.packet.encode
  new : ∀ source target bytes, after.UnderWay source target bytes →
    before.UnderWay source target bytes ∨
      source = id ∧ ∃ handover ∈ host.outbox, handover.peer = target ∧
        bytes = handover.packet.encode

theorem act_of_missing {α : Type} (missing : mesh.host? id = none)
    (action : Network → Host → Host × α) : (mesh.act id action).1 = mesh := by
  have absent : mesh.node? id = none := Option.map_eq_none_iff.1 missing
  rw [act, absent]

/-- A host acts on a network that serves all its links. -/
theorem act_acted {α : Type} (wired : mesh.Wired) {host : Host} (found : mesh.host? id = some host)
    (quiet : host.outbox = []) (action : Network → Host → Host × α) (source : PeerId) :
    ∃ network : Network, (∀ peer, mesh.isLinked id peer = true → network.Serves peer) ∧
      Acted id source [] (action network host).1 mesh (mesh.act id action).1 := by
  obtain ⟨node, inMesh, rfl⟩ := Option.map_eq_some_iff.1 found
  refine ⟨node.network mesh.channels, fun peer => network_serves wired inMesh, ?_⟩
  have same : { node.host with outbox := [] } = node.host := by rw [← quiet]
  rw [act, inMesh]
  simp only [same]
  generalize (action (node.network mesh.channels) node.host).1 = host
  have renewed := updateNode_node? mesh id
    (fun node => { node with host := { host with outbox := [] } }) fun _ => rfl
  have carried := carry_carried
    (mesh.updateNode id fun node => { node with host := { host with outbox := [] } }) node.links
    host.outbox
  have ends : ∀ handover : Handover, ∀ number, node.links.lookup handover.peer = some number →
      mesh.Leads number id handover.peer := by
    intro handover number link
    refine wired id handover.peer number ?_
    rw [link?, inMesh]
    exact link
  refine ⟨carried.now, ?_, ?_, carried.leads, ?_, ?_, ?_⟩
  · intro other
    rw [Mesh.host?, carried.node?, renewed]
    by_cases here : other = id
    · subst here
      simp [inMesh]
    · simp [here, Mesh.host?]
  · intro other peer
    rw [Mesh.link?, carried.node?, renewed, Mesh.link?]
    cases mesh.node? other with
    | none => rfl
    | some node =>
        simp only [Option.map_some, Option.bind_some]
        split <;> rfl
  · exact fun source target bytes old => .inl (carried.kept source target bytes old)
  · intro handover member taken linked
    rw [isLinked_eq, Option.isSome_iff_exists] at linked
    obtain ⟨number, link⟩ := linked
    have leads := wired id handover.peer number link
    rw [Mesh.link?, inMesh] at link
    exact carried.sent handover member taken number id handover.peer link leads
  · intro source target bytes under
    refine (carried.new source target bytes under).imp_right ?_
    rintro ⟨handover, member, rfl, number, link, ends'⟩
    obtain ⟨rfl, rfl⟩ := ends' id handover.peer (ends handover number link)
    exact ⟨rfl, handover, member, rfl, rfl⟩

/-- What taking a packet off its way does to a mesh. -/
structure Popped (source target : PeerId) (packet : Bytes) (before after : Mesh) : Prop where
  now : after.now = before.now
  node? : ∀ id, after.node? id = before.node? id
  leads : ∀ number source target, before.Leads number source target →
    after.Leads number source target
  kept : ∀ source' target' bytes, before.UnderWay source' target' bytes →
    after.UnderWay source' target' bytes ∨
      source' = source ∧ target' = target ∧ bytes = packet
  old : ∀ source' target' bytes, after.UnderWay source' target' bytes →
    before.UnderWay source' target' bytes

namespace Popped

variable {packet : Bytes} {after : Mesh}

theorem first {channel : Channel} {rest : List Bytes}
    (here : mesh.channels[number]? = some channel) (packets : channel.packets = packet :: rest) :
    Popped channel.source channel.target packet mesh
      (mesh.updateChannel number fun channel => { channel with packets := rest }) := by
  have popped : ∀ source target bytes,
      (mesh.updateChannel number fun channel => { channel with packets := rest }).UnderWay
        source target bytes ↔ ∃ (other : Nat) (channel : Channel),
          mesh.channels[other]? = some channel ∧ channel.source = source ∧
            channel.target = target ∧ bytes ∈
              (if number = other then { channel with packets := rest } else channel).packets := by
    intro source target bytes
    refine updateChannel_underWay ?_
    exact fun _ => ⟨rfl, rfl⟩
  refine ⟨rfl, fun _ => rfl, fun other source target leads => updateChannel_leads ?_ leads, ?_, ?_⟩
  · exact fun _ => ⟨rfl, rfl, rfl⟩
  · rintro source target bytes ⟨other, channel', there, rfl, rfl, member⟩
    by_cases same : number = other
    · subst same
      cases here.symm.trans there
      rw [packets] at member
      rcases List.mem_cons.1 member with first | later
      · exact .inr ⟨rfl, rfl, first⟩
      · refine .inl ((popped _ _ bytes).2 ⟨number, channel, here, rfl, rfl, ?_⟩)
        rwa [if_pos rfl]
    · refine .inl ((popped _ _ bytes).2 ⟨other, channel', there, rfl, rfl, ?_⟩)
      rwa [if_neg same]
  · intro source target bytes under
    obtain ⟨other, channel', there, start, finish, member⟩ := (popped source target bytes).1 under
    refine ⟨other, channel', there, start, finish, ?_⟩
    split at member
    · subst number
      cases here.symm.trans there
      rw [packets]
      exact List.mem_cons_of_mem _ member
    · exact member

theorem link? (h : Popped source target packet mesh after) (id peer : PeerId) :
    after.link? id peer = mesh.link? id peer := by
  rw [Mesh.link?, h.node?, Mesh.link?]

theorem wired (h : Popped source target packet mesh after) (wired : mesh.Wired) : after.Wired :=
  fun id peer number link => h.leads number id peer (wired id peer number (h.link? id peer ▸ link))

theorem isLinked (h : Popped source target packet mesh after) (id peer : PeerId) :
    after.isLinked id peer = mesh.isLinked id peer := by
  rw [isLinked_eq, h.link?, isLinked_eq]

theorem acted {host : Host} {final : Mesh} (h : Popped source id packet mesh after)
    (h' : Acted id source [] host after final) : Acted id source [packet] host mesh final where
  now := h'.now.trans h.now
  host? := by
    intro other
    rw [h'.host?, Mesh.host?, h.node?, Mesh.host?]
  link? := fun other peer => (h'.link? other peer).trans (h.link? other peer)
  leads := fun number source target leads =>
    h'.leads number source target (h.leads number source target leads)
  kept := by
    intro source' target bytes under
    rcases h.kept source' target bytes under with under | ⟨rfl, rfl, rfl⟩
    · refine (h'.kept source' target bytes under).imp_right ?_
      exact fun ⟨_, _, member⟩ => nomatch member
    · exact .inr ⟨rfl, rfl, List.mem_singleton_self bytes⟩
  sent := fun handover member taken linked =>
    h'.sent handover member taken (h.isLinked id handover.peer ▸ linked)
  new := fun source' target bytes under =>
    (h'.new source' target bytes under).imp_left (h.old source' target bytes)

end Popped

/-- The host at the end of a channel acts on the first packet in it. -/
theorem deliver_acted (wired : mesh.Wired) {channel : Channel} {packet : Bytes}
    {rest : List Bytes} (here : mesh.channels[number]? = some channel)
    (packets : channel.packets = packet :: rest) {host : Host}
    (found : mesh.host? channel.target = some host) (quiet : host.outbox = []) :
    ∃ network : Network,
      (∀ peer, mesh.isLinked channel.target peer = true → network.Serves peer) ∧
      Acted channel.target channel.source [packet]
        (host.receive network mesh.now channel.source packet) mesh (mesh.deliver number) := by
  have popped := Popped.first here packets
  have found' := found
  rw [host?, ← popped.node?] at found'
  obtain ⟨network, serves, acted⟩ := act_acted (popped.wired wired) found' quiet
    (fun network host => (host.receive network mesh.now channel.source packet, ())) channel.source
  rw [deliver, here]
  simp only [packets]
  exact ⟨network, fun peer linked => serves peer (popped.isLinked channel.target peer ▸ linked),
    popped.acted acted⟩

end Acting

section Rewiring

/-- What remains as it was when links are made and cut. -/
structure Rewired (before after : Mesh) : Prop where
  now : after.now = before.now
  host? : ∀ id, after.host? id = before.host? id
  leads : ∀ number source target, before.Leads number source target →
    after.Leads number source target
  underWay : ∀ source target bytes,
    after.UnderWay source target bytes ↔ before.UnderWay source target bytes

namespace Rewired

theorem refl (mesh : Mesh) : Rewired mesh mesh :=
  ⟨rfl, fun _ => rfl, fun _ _ _ => id, fun _ _ _ => .rfl⟩

theorem trans {middle after : Mesh} (h : Rewired mesh middle) (h' : Rewired middle after) :
    Rewired mesh after where
  now := h'.now.trans h.now
  host? := fun id => (h'.host? id).trans (h.host? id)
  leads := fun number source target leads =>
    h'.leads number source target (h.leads number source target leads)
  underWay := fun source target bytes =>
    (h'.underWay source target bytes).trans (h.underWay source target bytes)

theorem wake (mesh : Mesh) (number : Nat) : Rewired mesh (mesh.wake number) := by
  obtain ⟨woken, woke⟩ := wake_eq mesh number
  rw [woke]
  exact ⟨rfl, fun _ => rfl, fun _ _ _ leads => leads, fun _ _ _ => .rfl⟩

theorem close (mesh : Mesh) (number : Nat) : Rewired mesh (mesh.close number) where
  now := rfl
  host? := fun _ => rfl
  leads := by
    intro other source target leads
    refine updateChannel_leads ?_ leads
    exact fun _ => ⟨rfl, rfl, rfl⟩
  underWay := fun _ _ _ => close_underWay

theorem closeLink (mesh : Mesh) (id peer : PeerId) : Rewired mesh (mesh.closeLink id peer) := by
  rw [Mesh.closeLink]
  split
  · exact close mesh _
  · exact refl mesh

theorem updateNode (mesh : Mesh) (id : PeerId) (change : Node → Node)
    (named : ∀ node, (change node).id = node.id)
    (unchanged : ∀ node, (change node).host = node.host) :
    Rewired mesh (mesh.updateNode id change) where
  now := rfl
  host? := by
    intro other
    rw [Mesh.host?, updateNode_node? mesh id change named, Mesh.host?]
    cases mesh.node? other with
    | none => rfl
    | some node =>
        simp only [Option.map_some]
        split
        · rw [unchanged]
        · rfl
  leads := fun _ _ _ leads => leads
  underWay := fun _ _ _ => .rfl

theorem append (mesh : Mesh) (source target : PeerId) :
    Rewired mesh { mesh with
      channels := mesh.channels ++ [Channel.mk source target [] true true] } where
  now := rfl
  host? := fun _ => rfl
  leads := by
    rintro number source' target' ⟨channel, here, ends⟩
    obtain ⟨short, -⟩ := List.getElem?_eq_some_iff.1 here
    exact ⟨channel, (List.getElem?_append_left short).trans here, ends⟩
  underWay := by
    intro source' target' bytes
    constructor
    · rintro ⟨number, channel, here, start, finish, member⟩
      rcases List.mem_append.1 (List.mem_of_getElem? here) with old | new
      · obtain ⟨number, there⟩ := List.mem_iff_getElem?.1 old
        exact ⟨number, channel, there, start, finish, member⟩
      · rw [List.mem_singleton.1 new] at member
        cases member
    · rintro ⟨number, channel, here, ends⟩
      obtain ⟨short, -⟩ := List.getElem?_eq_some_iff.1 here
      exact ⟨number, channel, (List.getElem?_append_left short).trans here, ends⟩

theorem attach (mesh : Mesh) (id peer : PeerId) : Rewired mesh (mesh.attach id peer) :=
  ((closeLink mesh id peer).trans (append _ id peer)).trans
    (updateNode _ id _ (fun _ => rfl) fun _ => rfl)

theorem detach (mesh : Mesh) (id peer : PeerId) : Rewired mesh (mesh.detach id peer) :=
  (closeLink mesh id peer).trans (updateNode _ id _ (fun _ => rfl) fun _ => rfl)

theorem wired {before after : Mesh} (h : Rewired before after) (wired : before.Wired)
    (fewer : ∀ id peer number, after.link? id peer = some number →
      before.link? id peer = some number ∨ after.Leads number id peer) : after.Wired := by
  intro id peer number link
  rcases fewer id peer number link with old | new
  · exact h.leads number id peer (wired id peer number old)
  · exact new

end Rewired

theorem closeLink_node? (mesh : Mesh) (id peer other : PeerId) :
    (mesh.closeLink id peer).node? other = mesh.node? other := by
  rw [closeLink]
  split <;> rfl

theorem attach_lookup (node : Node) (peer : PeerId) (number : Nat) (target : PeerId) :
    (node.attach peer number).links.lookup target =
      if target = peer then some number else node.links.lookup target := by
  rw [Node.attach, List.lookup_cons, Association.lookup_filter_ne]
  by_cases same : target = peer
  · simp [same]
  · simp [same, beq_false_of_ne same]

theorem detach_lookup (node : Node) (peer target : PeerId) :
    (node.detach peer).links.lookup target =
      if target = peer then none else node.links.lookup target :=
  Association.lookup_filter_ne node.links peer target

theorem attach_link? (mesh : Mesh) (id peer : PeerId) {host : Host}
    (found : mesh.host? id = some host) (other target : PeerId) :
    (mesh.attach id peer).link? other target =
      if other = id ∧ target = peer then some (mesh.closeLink id peer).channels.length
      else mesh.link? other target := by
  obtain ⟨node, here, -⟩ := Option.map_eq_some_iff.1 found
  have renewed := updateNode_node? (mesh.closeLink id peer) id
    (·.attach peer (mesh.closeLink id peer).channels.length) (fun _ => rfl) other
  change Option.bind (((mesh.closeLink id peer).updateNode id _).node? other) _ = _
  rw [renewed, closeLink_node?, link?]
  by_cases same : other = id
  · rw [same, here]
    simp only [Option.map_some, Option.bind_some, if_true, attach_lookup, true_and]
  · cases mesh.node? other with
    | none => simp [same]
    | some node => simp [same]

theorem detach_link? (mesh : Mesh) (id peer other target : PeerId) :
    (mesh.detach id peer).link? other target =
      if other = id ∧ target = peer then none else mesh.link? other target := by
  have renewed := updateNode_node? (mesh.closeLink id peer) id (·.detach peer) (fun _ => rfl) other
  rw [link?, detach, renewed, closeLink_node?, link?]
  cases mesh.node? other with
  | none => simp
  | some node =>
      by_cases same : other = id
      · simp only [Option.map_some, Option.bind_some, same, if_true, detach_lookup, true_and]
      · simp [same]

theorem attach_leads (mesh : Mesh) (id peer : PeerId) :
    (mesh.attach id peer).Leads (mesh.closeLink id peer).channels.length id peer :=
  ⟨Channel.mk id peer [] true true, List.getElem?_concat_length, rfl, rfl, rfl⟩

theorem attach_wired (wired : mesh.Wired) {id peer : PeerId} {host : Host}
    (found : mesh.host? id = some host) : (mesh.attach id peer).Wired := by
  refine (Rewired.attach mesh id peer).wired wired ?_
  intro other target number link
  rw [attach_link? mesh id peer found] at link
  split at link
  · rename_i same
    obtain ⟨rfl, rfl⟩ := same
    cases link
    exact .inr (attach_leads mesh other target)
  · exact .inl link

theorem detach_wired (wired : mesh.Wired) (id peer : PeerId) : (mesh.detach id peer).Wired := by
  refine (Rewired.detach mesh id peer).wired wired ?_
  intro other target number link
  rw [detach_link?] at link
  split at link
  · cases link
  · exact .inl link

end Rewiring

end Courier.Mesh

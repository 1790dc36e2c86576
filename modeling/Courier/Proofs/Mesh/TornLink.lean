import Mathlib
import Courier.Proofs.Host.Parts
import Courier.Proofs.Mesh.Convergence

/-! # Packets on a link that was cut

A packet that is under way when its link is cut stays in its channel, which nobody sends through any
more. When it is delivered at last, its target asks only whether the source is connected. So it is
discarded, unless the two nodes were connected again in the meantime: then it is received as if it
had come through the new link.
-/

namespace Courier

variable {Secret Public : Type}

/-- Whether two nodes are connected after an operation, if it is known whether they were before. -/
def MeshOperation.joinedAfter (ends : Sym2 PeerId) (joined : Prop) :
    MeshOperation Secret Public → Prop
  | .connect a b => joined ∨ s(a, b) = ends
  | .disconnect a b => joined ∧ s(a, b) ≠ ends
  | .post .. | .housekeeping _ | .deliver _ | .wait _ => joined

namespace Mesh

/-- Whether two nodes that are not connected are so after some operations: the last one that
connects or disconnects the two connects them. -/
def Reconnects (ends : Sym2 PeerId) (operations : List (MeshOperation Secret Public)) : Prop :=
  operations.foldl (MeshOperation.joinedAfter ends) False

/-- Whether the next packet of a channel is discarded: it leaves the channel, and that is all. -/
structure Discards (mesh : Mesh) (number : Nat) : Prop where
  hosts : ∀ id, (mesh.deliver number).host? id = mesh.host? id
  channels : ∀ other, (mesh.deliver number).channels[other]? =
    (mesh.channels[other]?).map fun channel =>
      if number = other then { channel with packets := channel.packets.tail } else channel

/-- Whether the next packet of a channel, if there is one, is received by its target as a packet of
a peer that is connected. -/
def Receives (mesh : Mesh) (number : Nat) : Prop :=
  ∀ channel packet rest, mesh.channels[number]? = some channel →
    channel.packets = packet :: rest →
      ∃ host network, mesh.host? channel.target = some host ∧
        host.isConnected channel.source = true ∧
        (mesh.deliver number).host? channel.target =
          some { host.receive network mesh.now channel.source packet with outbox := [] }

/-- Whether a channel holds the last packets of what it once held, and nothing else. -/
def Remains (mesh : Mesh) (number : Nat) (channel : Channel) : Prop :=
  ∃ rest, mesh.channels[number]? = some rest ∧ rest.source = channel.source ∧
    rest.target = channel.target ∧ rest.packets <:+ channel.packets

/-- Whether nobody sends through a channel any more. -/
structure Torn (mesh : Mesh) (number : Nat) (channel : Channel) : Prop where
  unlinked : ∀ id peer, mesh.link? id peer ≠ some number
  remains : mesh.Remains number channel

variable {mesh after : Mesh} {id peer a b x y : PeerId} {number : Nat} {channel : Channel}

section Continuing

/-- What every operation keeps: order, the nodes there are, and that nobody sends through a channel
any more. -/
structure Continues (before after : Mesh) : Prop where
  orderly : after.Orderly
  nodes : ∀ id, (after.host? id).isSome = (before.host? id).isSome
  torn : ∀ number channel, before.Torn number channel → after.Torn number channel

theorem Torn.of_same (h : mesh.Torn number channel)
    (links : ∀ id peer, after.link? id peer ≠ some number)
    (channels : after.channels[number]? = mesh.channels[number]?) : after.Torn number channel := by
  refine ⟨links, ?_⟩
  rw [Remains, channels]
  exact h.remains

theorem Remains.closeLink (h : mesh.Remains number channel) (id peer : PeerId) :
    (mesh.closeLink id peer).Remains number channel := by
  obtain ⟨rest, here, ends⟩ := h
  rw [Mesh.closeLink]
  split
  · rw [Remains, close, updateChannel_getElem?, here, Option.map_some]
    refine ⟨_, rfl, ?_⟩
    split <;> exact ends
  · exact ⟨rest, here, ends⟩

theorem Remains.detach (h : mesh.Remains number channel) (id peer : PeerId) :
    (mesh.detach id peer).Remains number channel := h.closeLink id peer

theorem length_closeLink (mesh : Mesh) (id peer : PeerId) :
    (mesh.closeLink id peer).channels.length = mesh.channels.length := by
  rw [closeLink]
  split
  · exact List.length_modify ..
  · rfl

theorem Remains.attach (h : mesh.Remains number channel) (id peer : PeerId) :
    (mesh.attach id peer).Remains number channel := by
  obtain ⟨rest, here, ends⟩ := h.closeLink id peer
  obtain ⟨short, -⟩ := List.getElem?_eq_some_iff.1 here
  exact ⟨rest, (List.getElem?_append_left short).trans here, ends⟩

theorem carry_getElem? (mesh : Mesh) {links : List (PeerId × Nat)}
    (unlinked : ∀ peer, links.lookup peer ≠ some number) (handed : List Handover) :
    (mesh.carry links handed).channels[number]? = mesh.channels[number]? := by
  induction handed generalizing mesh with
  | nil => rfl
  | cons handover rest ih =>
      rw [carry]
      split
      · rename_i other taken link
        have apart : other ≠ number := fun same => unlinked _ (same ▸ link)
        obtain ⟨woken, pushed⟩ := push_eq mesh other handover.packet.encode
        rw [ih, pushed]
        refine (updateChannel_getElem? ..).trans ?_
        simp [apart]
      · exact ih mesh

theorem act_getElem? {α : Type} (unlinked : ∀ peer, mesh.link? id peer ≠ some number)
    (action : Network → Host → Host × α) :
    (mesh.act id action).1.channels[number]? = mesh.channels[number]? := by
  rw [Mesh.act]
  split
  · rfl
  · rename_i node found
    refine (carry_getElem? _ (fun peer => ?_) _).trans rfl
    have apart := unlinked peer
    rwa [link?, found] at apart

namespace Continues

theorem refl (h : mesh.Orderly) : Continues mesh mesh := ⟨h, fun _ => rfl, fun _ _ => id⟩

theorem trans {middle : Mesh} (h : Continues mesh middle) (h' : Continues middle after) :
    Continues mesh after where
  orderly := h'.orderly
  nodes := fun id => (h'.nodes id).trans (h.nodes id)
  torn := fun number channel torn => h'.torn number channel (h.torn number channel torn)

theorem act {α : Type} (h : mesh.Orderly) (id : PeerId) (action : Network → Host → Host × α) :
    Continues mesh (mesh.act id action).1 := by
  obtain ⟨orderly, links, network, hosts⟩ := h.act id action
  refine ⟨orderly, fun owner => ?_, fun number channel torn => ?_⟩
  · rw [hosts]
    split
    · rename_i here
      rw [here, Option.isSome_map]
    · rfl
  · refine torn.of_same (fun owner peer => ?_) (act_getElem? (torn.unlinked id) action)
    rw [links]
    exact torn.unlinked owner peer

theorem attach (h : mesh.Orderly) (found : (mesh.host? id).isSome) (peer : PeerId) :
    Continues mesh (mesh.attach id peer) where
  orderly := h.attach found peer
  nodes := fun owner => by rw [(Rewired.attach mesh id peer).host?]
  torn := by
    rintro number channel ⟨unlinked, remains⟩
    refine ⟨fun owner target => ?_, remains.attach id peer⟩
    obtain ⟨rest, here, -⟩ := remains
    obtain ⟨short, -⟩ := List.getElem?_eq_some_iff.1 here
    obtain ⟨host, found⟩ := Option.isSome_iff_exists.1 found
    rw [attach_link? mesh id peer found]
    split
    · -- the new channel has a number of its own
      rw [length_closeLink, ne_eq, Option.some.injEq]
      exact short.ne'
    · exact unlinked owner target

theorem detach (h : mesh.Orderly) (id peer : PeerId) : Continues mesh (mesh.detach id peer) where
  orderly := h.detach id peer
  nodes := fun owner => by rw [(Rewired.detach mesh id peer).host?]
  torn := by
    rintro number channel ⟨unlinked, remains⟩
    refine ⟨fun owner target => ?_, remains.detach id peer⟩
    rw [detach_link?]
    split
    · exact nofun
    · exact unlinked owner target

theorem wake (h : mesh.Orderly) (number : Nat) : Continues mesh (mesh.wake number) := by
  have orderly := h.wake number
  obtain ⟨woken, woke⟩ := wake_eq mesh number
  rw [woke] at orderly ⊢
  exact ⟨orderly, fun _ => rfl, fun _ _ torn => ⟨torn.unlinked, torn.remains⟩⟩

theorem pop (h : mesh.Orderly) {packet : Bytes} {rest : List Bytes}
    (here : mesh.channels[number]? = some channel) (packets : channel.packets = packet :: rest) :
    Continues mesh (mesh.updateChannel number fun channel => { channel with packets := rest }) where
  orderly := h.popped (.first here packets)
  nodes := fun _ => rfl
  torn := by
    rintro other reference ⟨unlinked, torn, there, source, target, suffix⟩
    refine ⟨unlinked, ?_⟩
    rw [Remains, updateChannel_getElem?, there, Option.map_some]
    by_cases same : number = other
    · subst same
      cases here.symm.trans there
      rw [if_pos rfl]
      exact ⟨_, rfl, source, target, (packets ▸ List.suffix_cons packet rest).trans suffix⟩
    · rw [if_neg same]
      exact ⟨torn, rfl, source, target, suffix⟩

section Parts

variable {middle : Mesh} (h : Continues mesh middle)

include h

theorem thenAct (id : PeerId) (action : Network → Host → Host) :
    Continues mesh (middle.act_ id action) := h.trans (act h.orderly id _)

theorem thenAttach (found : (mesh.host? id).isSome) (peer : PeerId) :
    Continues mesh (middle.attach id peer) :=
  h.trans (attach h.orderly ((h.nodes id).trans found) peer)

theorem thenDetach (id peer : PeerId) : Continues mesh (middle.detach id peer) :=
  h.trans (detach h.orderly id peer)

theorem thenWake (number : Nat) : Continues mesh (middle.wake number) :=
  h.trans (wake h.orderly number)

end Parts

theorem connect (h : mesh.Orderly) (foundA : (mesh.host? a).isSome)
    (foundB : (mesh.host? b).isSome) : Continues mesh (mesh.connect a b).1 :=
  have linked := (attach h foundA b).thenAttach foundB a
  (((linked.thenAct a _).thenAct b _).thenWake _).thenWake _

theorem disconnect (h : mesh.Orderly) (a b : PeerId) : Continues mesh (mesh.disconnect a b) :=
  have cut := (detach h a b).thenDetach b a
  (cut.thenAct a _).thenAct b _

theorem deliver (h : mesh.Orderly) (number : Nat) : Continues mesh (mesh.deliver number) := by
  rw [Mesh.deliver]
  split
  · exact refl h
  · rename_i channel here
    split
    · exact refl h
    · rename_i packet rest packets
      exact (pop h here packets).thenAct channel.target _

theorem tick (h : mesh.Orderly) (time : UInt64) : Continues mesh { mesh with now := time } :=
  ⟨⟨h.wired, h.quiet⟩, fun _ => rfl, fun _ _ torn => ⟨torn.unlinked, torn.remains⟩⟩

theorem perform (h : mesh.Orderly) (suite : Suite Secret Public)
    (operation : MeshOperation Secret Public) : Continues mesh (mesh.perform suite operation) := by
  cases operation with
  | post id request chance =>
      rw [Mesh.perform]
      split
      · have ticked := tick h chance.flush
        exact ticked.trans (act ticked.orderly id _)
      · exact refl h
  | connect a b =>
      rw [Mesh.perform]
      split
      · rename_i found
        exact connect h found.1 found.2
      · exact refl h
  | disconnect a b => exact disconnect h a b
  | housekeeping id => exact act h id _
  | deliver number => exact deliver h number
  | wait time =>
      rw [Mesh.perform]
      split
      · exact tick h time
      · exact refl h

theorem run (h : mesh.Orderly) (suite : Suite Secret Public)
    (operations : List (MeshOperation Secret Public)) :
    Continues mesh (mesh.run suite operations) := by
  induction operations generalizing mesh with
  | nil => exact refl h
  | cons operation rest ih =>
      have first := perform h suite operation
      exact first.trans (ih first.orderly)

end Continues

/-- When two nodes are disconnected, nobody sends through their channels any more. -/
theorem Orderly.disconnect_torn (h : mesh.Orderly) (here : mesh.channels[number]? = some channel)
    (ends : s(channel.source, channel.target) = s(a, b)) :
    (mesh.disconnect a b).Torn number channel := by
  have cut := (Continues.detach h a b).thenDetach b a
  have torn : ((mesh.detach a b).detach b a).Torn number channel := by
    have remains : mesh.Remains number channel := ⟨channel, here, rfl, rfl, List.suffix_rfl⟩
    refine ⟨fun id peer link => ?_, (remains.detach a b).detach b a⟩
    rw [detach_link?, detach_link?] at link
    split at link
    · cases link
    · rename_i notBack
      split at link
      · cases link
      · rename_i notForth
        obtain ⟨other, there, rfl, rfl, -⟩ := h.wired id peer number link
        cases here.symm.trans there
        exact (Sym2.eq_iff.1 ends).elim notForth notBack
  exact (((Continues.refl cut.orderly).thenAct a _).thenAct b _).torn number channel torn

end Continuing

section Joining

theorem Orderly.link_joined (h : mesh.Orderly) (suite : Suite Secret Public)
    (foundA : (mesh.host? a).isSome) (foundB : (mesh.host? b).isSome) (x y : PeerId) :
    (mesh.connect a b).1.Joined x y ↔ mesh.Joined x y ∨ s(a, b) = s(x, y) := by
  have rewired := (Rewired.attach mesh a b).trans (Rewired.attach (mesh.attach a b) b a)
  have linked := (Continues.attach h foundA b).thenAttach foundB a
  rw [Mesh.connect]
  simp only
  generalize (mesh.attach a b).attach b a = attached at rewired linked ⊢
  have met := linked.thenAct a fun network host => host.connect network attached.now b
  have one := linked.orderly.connect_joined suite ((linked.nodes a).trans foundA) b x y
  have both := met.orderly.connect_joined suite ((met.nodes b).trans foundB) a x y
  rw [(Rewired.wake _ _).joined, (Rewired.wake _ _).joined, both, one, rewired.joined, or_assoc,
    eq_comm (a := s(a, b)), Sym2.eq_iff]

theorem Orderly.cut_joined (h : mesh.Orderly) (suite : Suite Secret Public) (a b x y : PeerId) :
    (mesh.disconnect a b).Joined x y ↔ mesh.Joined x y ∧ s(a, b) ≠ s(x, y) := by
  have rewired := (Rewired.detach mesh a b).trans (Rewired.detach (mesh.detach a b) b a)
  have cut := (Continues.detach h a b).thenDetach b a
  rw [Mesh.disconnect]
  generalize (mesh.detach a b).detach b a = detached at rewired cut ⊢
  have parted := cut.thenAct a fun _ host => host.disconnect b
  rw [parted.orderly.disconnect_joined suite, cut.orderly.disconnect_joined suite, rewired.joined,
    and_assoc, ← not_or, ne_eq, eq_comm (a := s(a, b)), Sym2.eq_iff]

theorem Orderly.deliver_joined (h : mesh.Orderly) (suite : Suite Secret Public) (number : Nat)
    (x y : PeerId) : (mesh.deliver number).Joined x y ↔ mesh.Joined x y := by
  rw [Mesh.deliver]
  split
  · rfl
  · rename_i channel here
    split
    · rfl
    · rename_i packet rest packets
      have popped := h.popped (.first here packets)
      refine (popped.act_joined_of_same channel.target _ x y ?_).trans .rfl
      intro network host
      change (host.perform suite network mesh.now
        (.receive channel.source packet)).isConnected y = _
      exact Host.perform_isConnected suite network mesh.now (by simp) (by simp)

theorem perform_joined (h : mesh.Orderly) (suite : Suite Secret Public)
    (foundX : (mesh.host? x).isSome) (foundY : (mesh.host? y).isSome)
    (operation : MeshOperation Secret Public) :
    (mesh.perform suite operation).Joined x y ↔
      operation.joinedAfter s(x, y) (mesh.Joined x y) := by
  cases operation with
  | post id request chance =>
      rw [Mesh.perform, MeshOperation.joinedAfter]
      split
      · refine ((Continues.tick h chance.flush).orderly.act_joined_of_same id _ x y ?_).trans .rfl
        intro network host
        change (host.perform suite network mesh.now (.post request chance)).isConnected y = _
        exact Host.perform_isConnected suite network mesh.now (by simp) (by simp)
      · rfl
  | connect a b =>
      rw [Mesh.perform, MeshOperation.joinedAfter]
      split
      · rename_i found
        exact h.link_joined suite found.1 found.2 x y
      · rename_i missing
        refine (or_iff_left fun same => missing ?_).symm
        rcases Sym2.eq_iff.1 same with ⟨rfl, rfl⟩ | ⟨rfl, rfl⟩
        · exact ⟨foundX, foundY⟩
        · exact ⟨foundY, foundX⟩
  | disconnect a b => exact h.cut_joined suite a b x y
  | housekeeping id => exact h.act_joined_of_same id _ x y fun _ _ => rfl
  | deliver number => exact h.deliver_joined suite number x y
  | wait time =>
      rw [Mesh.perform, MeshOperation.joinedAfter]
      split <;> rfl

theorem run_joined (h : mesh.Orderly) (suite : Suite Secret Public)
    (foundX : (mesh.host? x).isSome) (foundY : (mesh.host? y).isSome)
    (operations : List (MeshOperation Secret Public)) :
    (mesh.run suite operations).Joined x y ↔
      operations.foldl (MeshOperation.joinedAfter s(x, y)) (mesh.Joined x y) := by
  induction operations generalizing mesh with
  | nil => rfl
  | cons operation rest ih =>
      have first := Continues.perform h suite operation
      have joined := ih first.orderly ((first.nodes x).trans foundX) ((first.nodes y).trans foundY)
      rwa [perform_joined h suite foundX foundY] at joined

end Joining

section Delivery

theorem discards_of_nil (here : mesh.channels[number]? = some channel)
    (empty : channel.packets = []) : mesh.Discards number := by
  have nothing : mesh.deliver number = mesh := by
    refine deliver_of_nil fun other there => ?_
    cases here.symm.trans there
    exact empty
  refine ⟨fun id => by rw [nothing], fun other => ?_⟩
  rw [nothing]
  by_cases same : number = other
  · subst same
    rw [here, Option.map_some, if_pos rfl, empty, List.tail_nil, ← empty]
  · simp [same]

theorem Orderly.deliver_channels (h : mesh.Orderly) {packet : Bytes} {rest : List Bytes}
    (here : mesh.channels[number]? = some channel) (packets : channel.packets = packet :: rest)
    (ignored : ∀ network host, mesh.host? channel.target = some host →
      host.receive network mesh.now channel.source packet = host) :
    (mesh.deliver number).channels =
      (mesh.updateChannel number fun channel => { channel with packets := rest }).channels := by
  rw [Mesh.deliver, here]
  simp only [packets]
  refine (h.popped (.first here packets)).act_channels _ fun network host found => ?_
  change (host.receive network mesh.now channel.source packet).outbox = []
  rw [ignored network host found]
  exact h.quiet channel.target host found

/-- A packet of a source that its target takes for gone is discarded. -/
theorem Orderly.discards (h : mesh.Orderly) (here : mesh.channels[number]? = some channel)
    (gone : ¬ mesh.Joined channel.target channel.source) : mesh.Discards number := by
  cases packets : channel.packets with
  | nil => exact discards_of_nil here packets
  | cons packet rest =>
      have ignored : ∀ network host, mesh.host? channel.target = some host →
          host.receive network mesh.now channel.source packet = host := by
        intro network host found
        refine Host.receive_of_not_connected (fun connected => ?_) network mesh.now packet
        exact gone ⟨host, found, connected⟩
      obtain ⟨-, -, network, hosts⟩ := h.deliver here packets
      refine ⟨fun id => ?_, fun other => ?_⟩
      · rw [hosts]
        split
        · rename_i target
          rw [target]
          cases found : mesh.host? channel.target with
          | none => rfl
          | some host =>
              rw [Option.map_some, ignored network host found,
                ← h.quiet channel.target host found]
        · rfl
      · rw [h.deliver_channels here packets ignored, updateChannel_getElem?]
        by_cases same : number = other
        · subst same
          rw [here, Option.map_some, Option.map_some, if_pos rfl, if_pos rfl, packets,
            List.tail_cons]
        · simp only [if_neg same]

/-- A packet of a source that its target takes for connected is received, whatever the channel. -/
theorem Orderly.receives (h : mesh.Orderly) (here : mesh.channels[number]? = some channel)
    (joined : mesh.Joined channel.target channel.source) : mesh.Receives number := by
  intro channel' packet rest here' packets
  cases here.symm.trans here'
  obtain ⟨host, found, connected⟩ := joined
  obtain ⟨-, -, network, hosts⟩ := h.deliver here packets
  refine ⟨host, network, found, connected, ?_⟩
  rw [hosts, if_pos rfl, found, Option.map_some]

end Delivery

section Parting

theorem Orderly.rejoined (h : mesh.Orderly) (suite : Suite Secret Public)
    (foundA : (mesh.host? a).isSome) (foundB : (mesh.host? b).isSome)
    (after : List (MeshOperation Secret Public)) (ends : s(x, y) = s(a, b)) :
    ((mesh.disconnect a b).run suite after).Joined x y ↔ Reconnects s(a, b) after := by
  have cut := Continues.disconnect h a b
  have found : ∀ id, id ∈ s(a, b) → ((mesh.disconnect a b).host? id).isSome := by
    intro id member
    rw [cut.nodes]
    rcases Sym2.mem_iff.1 member with rfl | rfl
    · exact foundA
    · exact foundB
  have foundX := found x (ends ▸ Sym2.mem_mk_left x y)
  have foundY := found y (ends ▸ Sym2.mem_mk_right x y)
  have apart : (mesh.disconnect a b).Joined x y ↔ False := by
    rw [h.cut_joined suite, ends]
    simp only [ne_eq, not_true_eq_false, and_false]
  rw [run_joined cut.orderly suite foundX foundY after, apart, ends, Reconnects]

theorem Orderly.torn_link (h : mesh.Orderly) (suite : Suite Secret Public)
    (foundA : (mesh.host? a).isSome) (foundB : (mesh.host? b).isSome)
    (here : mesh.channels[number]? = some channel)
    (ends : s(channel.source, channel.target) = s(a, b))
    (after : List (MeshOperation Secret Public)) :
    ((mesh.disconnect a b).run suite after).Remains number channel ∧
    (¬ Reconnects s(a, b) after → ((mesh.disconnect a b).run suite after).Discards number) ∧
    (Reconnects s(a, b) after → ((mesh.disconnect a b).run suite after).Receives number) := by
  have last := Continues.run (Continues.disconnect h a b).orderly suite after
  have torn := last.torn number channel (h.disconnect_torn here ends)
  obtain ⟨rest, there, source, target, -⟩ := torn.remains
  have reversed : s(rest.target, rest.source) = s(a, b) := by
    rw [source, target, Sym2.eq_swap, ends]
  have rejoined := h.rejoined suite foundA foundB after reversed
  exact ⟨torn.remains, fun apart => last.orderly.discards there (rejoined.not.2 apart),
    fun reunited => last.orderly.receives there (rejoined.2 reunited)⟩

theorem run_append (suite : Suite Secret Public) (mesh : Mesh)
    (earlier later : List (MeshOperation Secret Public)) :
    mesh.run suite (earlier ++ later) = (mesh.run suite earlier).run suite later :=
  List.foldl_append

/-- Packets that are under way between two nodes when they are disconnected remain in their channel,
and nothing joins them. As long as the two are not connected again, whatever else is done, the next
one is discarded when it is delivered. Once they are connected again, it is received. -/
theorem run_torn_link (suite : Suite Secret Public) (now : UInt64) (hosts : List (PeerId × Host))
    (unsent : ∀ entry ∈ hosts, entry.2.outbox = [])
    (before after : List (MeshOperation Secret Public)) (a b : PeerId)
    (inA : a ∈ hosts.map Prod.fst) (inB : b ∈ hosts.map Prod.fst) (number : Nat) (channel : Channel)
    (here : ((ofHosts now hosts).run suite before).channels[number]? = some channel)
    (ends : s(channel.source, channel.target) = s(a, b)) :
    let mesh := (ofHosts now hosts).run suite (before ++ .disconnect a b :: after)
    mesh.Remains number channel ∧
    (¬ Reconnects s(a, b) after → mesh.Discards number) ∧
    (Reconnects s(a, b) after → mesh.Receives number) := by
  have first := Continues.run (ofHosts_orderly now unsent) suite before
  have foundA := (first.nodes a).trans (ofHosts_host? now inA)
  have foundB := (first.nodes b).trans (ofHosts_host? now inB)
  rw [run_append]
  exact first.orderly.torn_link suite foundA foundB here ends after

end Parting

section Reunion

/-- Two hosts that do not send their pools to new peers. -/
def reticentHosts : List (PeerId × Host) :=
  [1, 2].map fun name => (Octets.ofNat name,
    Host.fresh { HostSettings.standard with syncOnConnect := false } ⟨1, 0, 30⟩ .leastHash)

/-- The first of two linked nodes posts a message, which is not delivered. -/
def farewell : List (MeshOperation Secp256k1.SecretKey Secp256k1.PublicKey) :=
  [.connect (Octets.ofNat 1) (Octets.ofNat 2), .deliver 0, .deliver 1,
    .post (Octets.ofNat 1) ⟨⟨[1], none, none⟩, [], 20, .time ⟨0⟩⟩
      ⟨⟨Octets.ofNat 0, ⟨1, Nat.one_pos, one_lt_order⟩⟩, 0, 100, 100⟩]

def reunion : List (MeshOperation Secp256k1.SecretKey Secp256k1.PublicKey) :=
  [.connect (Octets.ofNat 1) (Octets.ofNat 2)]

/-- The message is under way when the link is cut, and it arrives when there is a new one. -/
theorem farewell_arrives :
    let start := ofHosts 100 reticentHosts
    let mesh := start.run .standard
      (farewell ++ .disconnect (Octets.ofNat 1) (Octets.ofNat 2) :: reunion)
    (∃ channel ∈ (start.run .standard farewell).channels[0]?, channel.source = Octets.ofNat 1 ∧
      channel.target = Octets.ofNat 2 ∧ channel.packets ≠ []) ∧
    (mesh.host? (Octets.ofNat 2)).map (·.pool.envelopes.length) = some 0 ∧
    ((mesh.deliver 0).host? (Octets.ofNat 2)).map (·.pool.envelopes.length) = some 1 := by
  decide +kernel

theorem run_torn_link_reunion :
    let start := ofHosts 100 reticentHosts
    (∀ entry ∈ reticentHosts, entry.2.outbox = []) ∧
    Octets.ofNat 1 ∈ reticentHosts.map Prod.fst ∧ Octets.ofNat 2 ∈ reticentHosts.map Prod.fst ∧
    ∃ channel, (start.run .standard farewell).channels[0]? = some channel ∧
      s(channel.source, channel.target) = s(Octets.ofNat 1, Octets.ofNat 2) ∧
      (start.run .standard
        (farewell ++ .disconnect (Octets.ofNat 1) (Octets.ofNat 2) :: reunion)).Receives 0 := by
  have unsent : ∀ entry ∈ reticentHosts, entry.2.outbox = [] := by decide +kernel
  have first : Octets.ofNat 1 ∈ reticentHosts.map Prod.fst := List.mem_cons_self
  have second : Octets.ofNat 2 ∈ reticentHosts.map Prod.fst :=
    List.mem_cons_of_mem _ List.mem_cons_self
  obtain ⟨channel, here, source, target, -⟩ := farewell_arrives.1
  have ends : s(channel.source, channel.target) = s(Octets.ofNat 1, Octets.ofNat 2) := by
    rw [source, target]
  have torn := run_torn_link .standard 100 reticentHosts unsent farewell reunion _ _ first second 0
    channel here ends
  exact ⟨unsent, first, second, channel, here, ends, torn.2.2 (.inr rfl)⟩

/-- Although its link was cut, the message enters the pool of its target. -/
theorem torn_link_revived :
    let start := ofHosts 100 reticentHosts
    let mesh := start.run .standard
      (farewell ++ .disconnect (Octets.ofNat 1) (Octets.ofNat 2) :: reunion)
    (∃ channel ∈ (start.run .standard farewell).channels[0]?, channel.source = Octets.ofNat 1 ∧
      channel.target = Octets.ofNat 2 ∧ channel.packets ≠ []) ∧
    (mesh.host? (Octets.ofNat 2)).map (·.pool.envelopes.length) = some 0 ∧
    ((mesh.deliver 0).host? (Octets.ofNat 2)).map (·.pool.envelopes.length) = some 1 ∧
    ¬ mesh.Discards 0 := by
  intro start mesh
  obtain ⟨underWay, empty, received⟩ := farewell_arrives
  refine ⟨underWay, empty, received, fun discards => ?_⟩
  have unchanged := congrArg (Option.map (·.pool.envelopes.length))
    (discards.hosts (Octets.ofNat 2))
  cases received.symm.trans (unchanged.trans empty)

end Reunion

end Mesh

end Courier

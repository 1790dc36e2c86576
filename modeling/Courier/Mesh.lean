import Courier.Host.Connection
import Courier.Host.Inbox
import Courier.Host.Posting

/-! # Hosts in one process

Hosts with different names are linked by channels, one for each direction. A packet that is
sent joins the channel to its peer and is delivered later, one packet at a time, in any
order of the channels. Cutting a link leaves what is in its channels to be delivered; a
new link between the same hosts has channels of its own.
-/

namespace Courier

/-- Packets under way from one host to another. -/
structure Channel where
  source : PeerId
  target : PeerId
  /-- The packets, in the order in which they were sent. -/
  packets : List Bytes
  /-- Whether the source can still send. -/
  writable : Bool
  /-- Whether anybody takes packets out. -/
  readable : Bool

/-- A host with its name and the channels that it sends through. -/
structure Node where
  id : PeerId
  host : Host
  links : List (PeerId × Nat)

/-- A sweep that is repeated until it is called off. -/
structure Sweeper where
  node : PeerId
  /-- When the next sweep is due, on the timer's clock. -/
  due : Duration
  interval : Duration

/-- Linked hosts that share one clock. -/
structure Mesh where
  /-- The second that all pools see. -/
  now : UInt64
  nodes : List Node
  /-- All channels there ever were, by their numbers. -/
  channels : List Channel
  /-- The channels that are to be looked at, in the order in which they were woken. -/
  woken : List Nat
  /-- The timer's clock, which has nothing to do with the pools'. -/
  timer : Duration
  sweepers : List Sweeper

/-- The two channels of a link. -/
structure Link where
  forth : Nat
  back : Nat
  deriving DecidableEq

namespace Node

/-- Whether a packet can be sent to a peer. -/
def send (channels : List Channel) (node : Node) (peer : PeerId) : Except LinkError Unit :=
  match node.links.lookup peer with
  | none => .error (.unknownPeer peer)
  | some number =>
    if (channels[number]?.map (·.readable)).getD false then .ok () else .error (.disconnected peer)

/-- The network as a linked host sees it. -/
def network (channels : List Channel) (node : Node) : Network := fun _ peer _ =>
  match node.send channels peer with
  | .ok () => true
  | .error _ => false

/-- Let a peer be reached through a channel. -/
def attach (node : Node) (peer : PeerId) (number : Nat) : Node :=
  { node with links := (peer, number) :: node.links.filter (·.1 ≠ peer) }

/-- Let a peer be reached no more. -/
def detach (node : Node) (peer : PeerId) : Node :=
  { node with links := node.links.filter (·.1 ≠ peer) }

end Node

namespace Mesh

/-- Hosts without any link. -/
def ofHosts (now : UInt64) (hosts : List (PeerId × Host)) : Mesh :=
  ⟨now, hosts.map fun (id, host) => ⟨id, host, []⟩, [], [], ⟨0⟩, []⟩

def node? (mesh : Mesh) (id : PeerId) : Option Node := mesh.nodes.find? (·.id = id)

def updateNode (mesh : Mesh) (id : PeerId) (change : Node → Node) : Mesh :=
  { mesh with nodes := mesh.nodes.map fun node => if node.id = id then change node else node }

def updateChannel (mesh : Mesh) (number : Nat) (change : Channel → Channel) : Mesh :=
  { mesh with channels := mesh.channels.modify number change }

/-- Let a channel be looked at, unless it is about to be anyway. -/
def wake (mesh : Mesh) (number : Nat) : Mesh :=
  if number ∈ mesh.woken then mesh else { mesh with woken := mesh.woken ++ [number] }

def push (mesh : Mesh) (number : Nat) (packet : Bytes) : Mesh :=
  (mesh.updateChannel number fun channel =>
    { channel with packets := channel.packets ++ [packet] }).wake number

/-- Put everything that the network took from a host into its channels. -/
def carry (mesh : Mesh) (links : List (PeerId × Nat)) : List Handover → Mesh
  | [] => mesh
  | handover :: rest =>
    match handover.taken, links.lookup handover.peer with
    | true, some number => carry (mesh.push number handover.packet.encode) links rest
    | _, _ => carry mesh links rest

/-- Let a host do something, and carry off what it sends. -/
def act {α : Type} (mesh : Mesh) (id : PeerId) (action : Network → Host → Host × α) :
    Mesh × Option α :=
  match mesh.node? id with
  | none => (mesh, none)
  | some node =>
    let (host, result) := action (node.network mesh.channels) { node.host with outbox := [] }
    let mesh := mesh.updateNode id fun node => { node with host := { host with outbox := [] } }
    (mesh.carry node.links host.outbox, some result)

/-- Let a host do something that has no result. -/
def act_ (mesh : Mesh) (id : PeerId) (action : Network → Host → Host) : Mesh :=
  (mesh.act id fun network host => (action network host, ())).1

/-- Take a channel out of use for its source. -/
def close (mesh : Mesh) (number : Nat) : Mesh :=
  mesh.updateChannel number fun channel => { channel with writable := false }

/-- Take the channel from one node to a peer out of use, if there is one. -/
def closeLink (mesh : Mesh) (id peer : PeerId) : Mesh :=
  match (mesh.node? id).bind fun node => node.links.lookup peer with
  | some number => mesh.close number
  | none => mesh

/-- Let one node send to another through a new channel instead of the one it may have had. -/
def attach (mesh : Mesh) (id peer : PeerId) : Mesh :=
  let mesh := mesh.closeLink id peer
  let number := mesh.channels.length
  let mesh := { mesh with channels := mesh.channels ++ [Channel.mk id peer [] true true] }
  mesh.updateNode id (·.attach peer number)

/-- Let one node send to another no more. -/
def detach (mesh : Mesh) (id peer : PeerId) : Mesh :=
  (mesh.closeLink id peer).updateNode id (·.detach peer)

/-- Link two nodes. Both hosts know of each other before anything is delivered. -/
def connect (mesh : Mesh) (a b : PeerId) : Mesh × Link :=
  let link : Link := ⟨mesh.channels.length, mesh.channels.length + 1⟩
  let mesh := (mesh.attach a b).attach b a
  let mesh := mesh.act_ a fun network host => host.connect network mesh.now b
  let mesh := mesh.act_ b fun network host => host.connect network mesh.now a
  ((mesh.wake link.forth).wake link.back, link)

/-- Cut the link between two nodes. Only now do the hosts learn that the other one is gone. -/
def disconnect (mesh : Mesh) (a b : PeerId) : Mesh :=
  let mesh := (mesh.detach a b).detach b a
  let mesh := mesh.act_ a fun _ host => host.disconnect b
  mesh.act_ b fun _ host => host.disconnect a

/-- Deliver the first packet of a channel. -/
def deliver (mesh : Mesh) (number : Nat) : Mesh :=
  match mesh.channels[number]? with
  | none => mesh
  | some channel =>
    match channel.packets with
    | [] => mesh
    | packet :: rest =>
      let mesh := mesh.updateChannel number fun channel => { channel with packets := rest }
      mesh.act_ channel.target fun network host =>
        host.receive network mesh.now channel.source packet

/-- Whether a node sends to another through a channel. -/
def isLinked (mesh : Mesh) (id peer : PeerId) : Bool :=
  ((mesh.node? id).map fun node => (node.links.lookup peer).isSome).getD false

/-- Whether nothing will come through a channel any more. -/
def isDrained (mesh : Mesh) (number : Nat) : Bool :=
  (mesh.channels[number]?.map fun channel => !channel.writable && channel.packets.isEmpty).getD true

/-- Whether nothing will come through a link any more. -/
def isClosed (mesh : Mesh) (link : Link) : Bool :=
  mesh.isDrained link.forth && mesh.isDrained link.back

/-- Deliver packets channel by channel, in the order in which the channels were woken, until none is
left or `steps` steps are done. -/
def deliverAll : (steps : Nat) → Mesh → Mesh
  | 0, mesh => mesh
  | steps + 1, mesh =>
    match mesh.woken with
    | [] => mesh
    | number :: rest =>
      if ((mesh.channels[number]?.map (·.packets)).getD []).isEmpty then
        deliverAll steps { mesh with woken := rest }
      else deliverAll steps (mesh.deliver number)

/-- Let every sweeper whose time has come sweep once, and set when it is due again. -/
def sweepDue (mesh : Mesh) : Mesh :=
  mesh.sweepers.foldl (fun mesh sweeper =>
    if sweeper.due.nanoseconds ≤ mesh.timer.nanoseconds then
      (mesh.act sweeper.node fun _ host => host.housekeeping mesh.now).1
    else mesh)
    { mesh with
      sweepers := mesh.sweepers.map fun sweeper =>
        if sweeper.due.nanoseconds ≤ mesh.timer.nanoseconds then
          let missed :=
            (mesh.timer.nanoseconds - sweeper.due.nanoseconds) / sweeper.interval.nanoseconds
          { sweeper with
            due := ⟨sweeper.due.nanoseconds + (missed + 1) * sweeper.interval.nanoseconds⟩ }
        else sweeper }

/-- The most steps that one settling takes. -/
def settleSteps : Nat := 1000000

/-- Let everything run that can: sweeps that are due, and deliveries. -/
def settle (mesh : Mesh) : Mesh := deliverAll settleSteps mesh.sweepDue

/-- Let the timer's clock run on. -/
def sleep (mesh : Mesh) (time : Duration) : Mesh :=
  { mesh with timer := ⟨mesh.timer.nanoseconds + time.nanoseconds⟩ }

/-- Sweep a node's pool at once and then in regular intervals, which must not be empty. -/
def startSweeper (mesh : Mesh) (id : PeerId) : Mesh :=
  match mesh.node? id with
  | none => mesh
  | some node =>
    let interval := node.host.settings.housekeepingInterval
    if interval.nanoseconds = 0 then mesh
    else { mesh with sweepers := mesh.sweepers ++ [Sweeper.mk id mesh.timer interval] }

/-- Call off all sweepers. -/
def stopSweepers (mesh : Mesh) : Mesh := { mesh with sweepers := [] }

/-- Let nobody take packets out of any channel any more. What is under way is lost, and what is sent
later is not taken. -/
def shutdown (mesh : Mesh) : Mesh :=
  { mesh with
    channels := mesh.channels.map fun channel => { channel with packets := [], readable := false } }

end Mesh

end Courier

import Mathlib
import Courier.Proofs.Host.Alike
import Courier.Proofs.Host.Completeness
import Courier.Proofs.Peer.Packet

/-! # Packets in parts

A peer may send envelopes in one packet or in many, among items that are no envelopes. The host is
the same after that in all that does not depend on when the queues are flushed.
-/

namespace Courier

variable {Secret Public : Type}

/-- The packet of messages that is made of some items. -/
def Packet.carrying (contents : List Bytes) : Bytes := Rlp.encodeList (0x01 :: contents.flatten)

namespace Host

variable {host a b : Host} {peer other : PeerId} {network : Network} {now : UInt64}

section Receiving

variable {items : List (Except Envelope.Malformed Envelope)} {contents : List Bytes}

/-- Take in the envelopes of a packet one by one, and flush all queues after each. -/
def takeEach (host : Host) (network : Network) (now : UInt64) (peer : PeerId)
    (items : List (Except Envelope.Malformed Envelope)) : Host :=
  items.foldl (fun host item => ((host.takeIn now peer [item]).flushAll network now).1) host

/-- Receive a packet for each of some items. -/
def receiveEach (host : Host) (network : Network) (now : UInt64) (peer : PeerId)
    (contents : List Bytes) : Host :=
  contents.foldl
    (fun host content => host.receive network now peer (Packet.carrying [content])) host

/-- Whether no live resident goes while envelopes are taken in. -/
def Spares (now : UInt64) (peer : PeerId) :
    Host → List (Except Envelope.Malformed Envelope) → Prop
  | _, [] => True
  | host, .error _ :: rest => Spares now peer host rest
  | host, .ok envelope :: rest =>
    host.pool.live now ⊆ (host.pool.insert now envelope).1.residents ∧
      Spares now peer (host.inject now envelope (some peer)).1 rest

theorem takeEach_alike (h : a.Alike b) (network : Network) (now : UInt64) (peer : PeerId)
    (items : List (Except Envelope.Malformed Envelope)) :
    (a.takeEach network now peer items).Alike (b.takeIn now peer items) := by
  induction items generalizing a b with
  | nil => exact h
  | cons item rest ih =>
      have step := (flushAll_alike (a.takeIn now peer [item]) network now).trans
        (h.takeIn now peer [item])
      cases item with
      | error fault => exact ih step
      | ok envelope => exact ih step

theorem Ahead.takeEach (h : Ahead other now a b) (serves : network.Serves other)
    (spares : b.Spares now peer items) :
    Ahead other now (a.takeEach network now peer items) (b.takeIn now peer items) := by
  induction items generalizing a b with
  | nil => exact h
  | cons item rest ih =>
      cases item with
      | error fault => exact ih (h.flushed serves) spares
      | ok envelope => exact ih (h.offer serves envelope (some peer) spares.1) spares.2

theorem takeIn_outbox (host : Host) (now : UInt64) (peer : PeerId)
    (items : List (Except Envelope.Malformed Envelope)) :
    (host.takeIn now peer items).outbox = host.outbox := by
  induction items generalizing host with
  | nil => rfl
  | cons item rest ih =>
      cases item with
      | error fault => exact ih host
      | ok envelope => exact (ih _).trans (inject_outbox host now envelope (some peer))

theorem takeIn_readable (host : Host) (now : UInt64) (peer : PeerId) (contents : List Bytes) :
    host.takeIn now peer
        ((contents.filter fun content => (Envelope.decode content).isOk).map Envelope.decode) =
      host.takeIn now peer (contents.map Envelope.decode) := by
  induction contents generalizing host with
  | nil => rfl
  | cons content rest ih =>
      cases read : Envelope.decode content with
      | error fault =>
          rw [List.filter_cons_of_neg (by simp [read, Except.isOk, Except.toBool]), ih,
            List.map_cons, read]
          rfl
      | ok envelope =>
          rw [List.filter_cons_of_pos (by simp [read, Except.isOk, Except.toBool]), List.map_cons,
            List.map_cons, read]
          exact ih _

theorem receive_carrying (connected : host.isConnected peer = true)
    (whole : ∀ content ∈ contents, ∃ head body, Rlp.readHeader content = .ok (head, body) ∧
      head + body = content.length)
    (fits : (0x01 :: contents.flatten).length < Rlp.sizeLimit) :
    host.receive network now peer (Packet.carrying contents) =
      ((host.takeIn now peer (contents.map Envelope.decode)).flushAll network now).1 := by
  rw [receive, if_pos connected, Packet.carrying, Packet.decode_contents whole fits]

theorem receiveEach_eq (connected : host.isConnected peer = true)
    (whole : ∀ content ∈ contents, ∃ head body, Rlp.readHeader content = .ok (head, body) ∧
      head + body = content.length)
    (fits : (0x01 :: contents.flatten).length < Rlp.sizeLimit) :
    host.receiveEach network now peer contents =
      host.takeEach network now peer (contents.map Envelope.decode) := by
  induction contents generalizing host with
  | nil => rfl
  | cons content rest ih =>
      simp only [List.flatten_cons, List.length_cons, List.length_append] at fits
      have first : host.receive network now peer (Packet.carrying [content]) =
          ((host.takeIn now peer [Envelope.decode content]).flushAll network now).1 := by
        refine receive_carrying connected ?_ ?_
        · exact fun other member => whole other (List.mem_singleton.1 member ▸ List.mem_cons_self)
        · simp only [List.flatten_cons, List.flatten_nil, List.append_nil, List.length_cons]
          omega
      have connected' :
          ((host.takeIn now peer [Envelope.decode content]).flushAll network now).1.isConnected
            peer = true := by
        rw [(flushAll_alike _ network now).isConnected]
        rw [isConnected_iff_mem] at connected ⊢
        rwa [takeIn_names]
      have later := ih connected' (fun other member => whole other (List.mem_cons_of_mem _ member))
        (by rw [List.length_cons]; omega)
      exact (congrArg (fun host => host.receiveEach network now peer rest) first).trans later

end Receiving

end Host

namespace HostRecord

variable {record : HostRecord} {network : Network} {now : UInt64} {peer : PeerId}
  {items : List (Except Envelope.Malformed Envelope)} {α : Type} {tell : HostEvent → List α}

theorem told_moves (record : HostRecord) (network : Network) (clock : Move → UInt64)
    (moves : List Move)
    (none : HostEvent.told tell (record.moveAll network clock moves).past = []) :
    HostEvent.told tell record.past = [] := by
  induction moves generalizing record with
  | nil => exact none
  | cons m rest ih =>
      have after : HostEvent.told tell (record.move network (clock m) m).past = [] := ih _ none
      rw [move, HostEvent.told_append] at after
      exact (List.append_eq_nil_iff.1 after).1

theorem spares (wellFormed : record.host.pool.WellFormed)
    (none : HostEvent.told HostEvent.eviction
      (record.moveAll network (fun _ => now) (Host.offersFrom peer items)).past = []) :
    record.host.Spares now peer items := by
  induction items generalizing record with
  | nil => trivial
  | cons item rest ih =>
      cases item with
      | error fault => exact ih wellFormed none
      | ok envelope =>
          refine ⟨?_, ?_⟩
          · have here := told_moves (record.move network now (.offer envelope (some peer)))
              network (fun _ => now) (Host.offersFrom peer rest) none
            rw [move, HostEvent.told_append, List.append_eq_nil_iff, HostEvent.ofMove_offer,
              HostEvent.told_cons, List.append_eq_nil_iff] at here
            exact HostEvent.live_kept wellFormed here.2.1
          · exact ih (Host.move_wellFormed wellFormed network now _) none

/-- If a packet evicts nothing, its envelopes are taken in without any live resident going. -/
theorem spares_receive {host : Host} {suite : Suite Secret Public} {contents : List Bytes}
    (wellFormed : host.pool.WellFormed) (connected : host.isConnected peer = true)
    (whole : ∀ content ∈ contents, ∃ head body, Rlp.readHeader content = .ok (head, body) ∧
      head + body = content.length)
    (fits : (0x01 :: contents.flatten).length < Rlp.sizeLimit)
    (none : HostEvent.told HostEvent.eviction ((HostRecord.mk host []).perform suite network now
      (.receive peer (Packet.carrying contents))).past = []) :
    host.Spares now peer (contents.map Envelope.decode) := by
  have moves : host.movesOf suite now (.receive peer (Packet.carrying contents)) =
      Host.offersFrom peer (contents.map Envelope.decode) ++ host.flushes := by
    rw [Host.movesOf, if_pos connected]
    simp only [Packet.carrying, Packet.decode_contents whole fits]
  rw [perform, moves, moveAll, List.foldl_append] at none
  exact spares wellFormed (told_moves _ network _ _ none)

end HostRecord

namespace Host

theorem receive_of_not_connected {host : Host} {peer : PeerId}
    (absent : ¬ host.isConnected peer = true) (network : Network) (now : UInt64) (bytes : Bytes) :
    host.receive network now peer bytes = host := if_neg absent

theorem receive_malformed {bytes : Bytes} {fault : PacketError}
    (malformed : Packet.decode bytes = .error fault) (host : Host) (network : Network)
    (now : UInt64) (peer : PeerId) : host.receive network now peer bytes = host := by
  rw [receive, malformed]
  split <;> rfl

/-- It makes no difference whether a peer sends some items in one packet, without those that are no
envelopes, or in a packet each. Peers for which nothing waited and everything is taken are sent the
same too, unless something is evicted. A packet that cannot be read changes nothing. -/
theorem run_receives_in_parts (suite : Suite Secret Public) (network : Network)
    (settings : HostSettings) (policy : PoolPolicy) (rule : EvictionRule)
    (operations : List (UInt64 × HostOperation Secret Public)) (now : UInt64) (peer : PeerId)
    (contents : List Bytes)
    (whole : ∀ content ∈ contents, ∃ head body, Rlp.readHeader content = .ok (head, body) ∧
      head + body = content.length)
    (fits : (0x01 :: contents.flatten).length < Rlp.sizeLimit) :
    let host := (fresh settings policy rule).run suite network operations
    let packet := Packet.carrying contents
    let readable := contents.filter fun content => (Envelope.decode content).isOk
    let together := host.receive network now peer packet
    let apart := host.receiveEach network now peer contents
    host.receive network now peer (Packet.carrying readable) = together ∧
    apart.Alike together ∧
    (HostEvent.told HostEvent.eviction
        ((HostRecord.mk host []).perform suite network now (.receive peer packet)).past = [] →
      ∀ other, network.Serves other → host.queueFor other = [] →
        ∃ sent, envelopesTo other together.outbox = envelopesTo other host.outbox ++ sent ∧
          envelopesTo other apart.outbox = envelopesTo other host.outbox ++ sent) ∧
    ∀ bytes fault, Packet.decode bytes = .error fault →
      host.receive network now peer bytes = host := by
  intro host packet readable together apart
  have wellFormed : host.pool.WellFormed :=
    run_wellFormed (Pool.WellFormed.empty policy rule) suite network operations
  have malformed : ∀ bytes fault, Packet.decode bytes = .error fault →
      host.receive network now peer bytes = host :=
    fun bytes fault unread => receive_malformed unread host network now peer
  by_cases connected : host.isConnected peer = true
  · have one : together = _ := receive_carrying connected whole fits
    have each : apart = _ := receiveEach_eq connected whole fits
    refine ⟨?readable, ?alike, ?sent, malformed⟩
    case readable =>
      have fewer : readable.Sublist contents := List.filter_sublist
      have shorter : (0x01 :: readable.flatten).length < Rlp.sizeLimit :=
        (fewer.flatten.cons_cons 0x01).length_le.trans_lt fits
      have some := fun content member => whole content (fewer.subset member)
      rw [one, receive_carrying connected some shorter, takeIn_readable]
    case alike =>
      have taken := takeEach_alike (.refl host) network now peer (contents.map Envelope.decode)
      rw [one, each]
      exact taken.trans (flushAll_alike _ network now).symm
    case sent =>
      intro none other serves idle
      have spares := HostRecord.spares_receive wellFormed connected whole fits none
      have ahead := (Ahead.start wellFormed idle).takeEach serves spares
      rw [one, each, ahead.sent, flushAll_envelopesTo serves, takeIn_outbox]
      exact ⟨_, rfl, rfl⟩
  · -- whatever it sends, a peer that is not connected is not heard
    have same : together = host := receive_of_not_connected connected network now packet
    have each : apart = host :=
      List.foldl_fixed' (fun _ => receive_of_not_connected connected network now _) contents
    rw [same, each]
    refine ⟨receive_of_not_connected connected network now _, .refl host, ?_, malformed⟩
    exact fun _ _ _ _ => ⟨[], by simp⟩

section Mixed

def meeting : List (UInt64 × HostOperation Secp256k1.SecretKey Secp256k1.PublicKey) :=
  [(100, .connect (Octets.ofNat 1)), (100, .connect (Octets.ofNat 2))]

/-- An empty list among two envelopes. -/
def mixed : List Bytes := [lasting.encode, [0xc0], fleeting.encode]

theorem run_receives_in_parts_mixed :
    let host := (fresh .standard .lenient .leastHash).run .standard .reliable meeting
    let packet := Packet.carrying mixed
    let together := host.receive .reliable 100 (Octets.ofNat 1) packet
    let apart := host.receiveEach .reliable 100 (Octets.ofNat 1) mixed
    (∀ content ∈ mixed, ∃ head body, Rlp.readHeader content = .ok (head, body) ∧
      head + body = content.length) ∧
    (0x01 :: mixed.flatten).length < Rlp.sizeLimit ∧
    HostEvent.told HostEvent.eviction ((HostRecord.mk host []).perform .standard .reliable 100
      (.receive (Octets.ofNat 1) packet)).past = [] ∧
    host.queueFor (Octets.ofNat 2) = [] ∧
    envelopesTo (Octets.ofNat 2) together.outbox = [lasting, fleeting] ∧
    apart.Alike together ∧
    envelopesTo (Octets.ofNat 2) apart.outbox = [lasting, fleeting] := by
  intro host packet together apart
  have whole : ∀ content ∈ mixed, ∃ head body, Rlp.readHeader content = .ok (head, body) ∧
      head + body = content.length := by
    simp only [mixed, List.forall_mem_cons]
    exact ⟨⟨1, 6, by decide +kernel, by decide +kernel⟩, ⟨1, 0, rfl, rfl⟩,
      ⟨1, 5, by decide +kernel, by decide +kernel⟩, by simp⟩
  have fits : (0x01 :: mixed.flatten).length < Rlp.sizeLimit := by decide +kernel
  have reached : HostEvent.told HostEvent.eviction
        ((HostRecord.mk host []).perform .standard .reliable 100
          (.receive (Octets.ofNat 1) packet)).past = [] ∧
      host.queueFor (Octets.ofNat 2) = [] ∧
      envelopesTo (Octets.ofNat 2) host.outbox = [] ∧
      envelopesTo (Octets.ofNat 2) together.outbox = [lasting, fleeting] := by
    decide +kernel
  obtain ⟨none, idle, before, after⟩ := reached
  obtain ⟨-, alike, sends, -⟩ := run_receives_in_parts .standard .reliable .standard .lenient
    .leastHash meeting 100 (Octets.ofNat 1) mixed whole fits
  obtain ⟨sent, first, second⟩ := sends none _ (Network.reliable_serves _) idle
  refine ⟨whole, fits, none, idle, after, alike, ?_⟩
  rw [second, ← first, after]

end Mixed

end Host

end Courier

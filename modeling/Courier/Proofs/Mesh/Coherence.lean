import Mathlib
import Courier.Proofs.Host.Abundance
import Courier.Proofs.Mesh.Wiring

/-! # What linked hosts know of each other

Four things are tied together: the pools, what each host knows of its peers, the links, and the
packets under way. What a host knows a peer to have is held by the peer, or is under way to it,
or is expired.
-/

namespace Courier.Mesh

/-- Whether a host holds an envelope. -/
def Holds (mesh : Mesh) (id : PeerId) (envelope : Envelope) : Prop :=
  ∃ host, mesh.host? id = some host ∧ envelope ∈ host.pool.envelopes

/-- Whether a host holds an envelope unless it is expired. -/
def Has (mesh : Mesh) (id : PeerId) (envelope : Envelope) : Prop :=
  envelope.isExpired mesh.now = true ∨ mesh.Holds id envelope

/-- Whether a host knows a peer to have an envelope, or to be about to get it. -/
def Knows (mesh : Mesh) (id peer : PeerId) (envelope : Envelope) : Prop :=
  ∃ host state, mesh.host? id = some host ∧ host.peer? peer = some state ∧
    envelope.hash ∈ state.known

/-- Whether a packet with an envelope is under way from one node to another. -/
def InFlight (mesh : Mesh) (source target : PeerId) (envelope : Envelope) : Prop :=
  ∃ envelopes, envelope ∈ envelopes ∧
    mesh.UnderWay source target (Packet.messages envelopes).encode

/-- Whether octets are a packet of envelopes that the policy accepts and the source has. -/
def Genuine (mesh : Mesh) (policy : PoolPolicy) (stock : Finset Envelope) (source : PeerId)
    (bytes : Bytes) : Prop :=
  ∃ packet : Packet, bytes = packet.encode ∧ ∀ envelope ∈ packet.contents,
    envelope ∈ stock ∧ policy.Accepts mesh.now envelope ∧ mesh.Has source envelope

/-- What holds of hosts and packets at any time, also while a link is made or cut. -/
structure Sound (policy : PoolPolicy) (stock : Finset Envelope) (mesh : Mesh) : Prop where
  wired : mesh.Wired
  rest : ∀ id host, mesh.host? id = some host → host.AtRest policy stock mesh.now
  quiet : ∀ id host, mesh.host? id = some host → host.outbox = []
  genuine : ∀ source target bytes, mesh.UnderWay source target bytes →
    mesh.Genuine policy stock source bytes
  shared : ∀ id peer, ∀ envelope ∈ stock, mesh.Knows id peer envelope →
    mesh.Has peer envelope ∨ mesh.InFlight id peer envelope

/-- Whether a host takes a peer for connected. -/
def Joined (mesh : Mesh) (id peer : PeerId) : Prop :=
  ∃ host, mesh.host? id = some host ∧ host.isConnected peer = true

/-- Links are mutual, and hosts take for connected what they are linked with. -/
structure Paired (mesh : Mesh) : Prop where
  symmetric : ∀ id peer, mesh.isLinked id peer = true → mesh.isLinked peer id = true
  joined : ∀ id peer, mesh.Joined id peer ↔ mesh.isLinked id peer = true

variable {mesh after : Mesh} {policy : PoolPolicy} {stock : Finset Envelope} {id peer : PeerId}
  {envelope : Envelope}

theorem inFlight_of_mem {packet : Packet} (part : envelope ∈ packet.contents)
    (under : mesh.UnderWay id peer packet.encode) : mesh.InFlight id peer envelope := by
  cases packet with
  | status => cases part
  | messages envelopes => exact ⟨envelopes, part, under⟩

namespace Sound

theorem rewired (h : mesh.Sound policy stock) (same : Rewired mesh after) (wired : after.Wired) :
    after.Sound policy stock where
  wired := wired
  rest := by
    intro id host found
    rw [same.now]
    exact h.rest id host (same.host? id ▸ found)
  quiet := fun id host found => h.quiet id host (same.host? id ▸ found)
  genuine := by
    intro source target bytes under
    obtain ⟨packet, written, parts⟩ :=
      h.genuine source target bytes ((same.underWay source target bytes).1 under)
    refine ⟨packet, written, fun envelope part => ?_⟩
    rw [Has, Holds, same.now, same.host?]
    exact parts envelope part
  shared := by
    rintro id peer envelope inStock ⟨host, state, found, known⟩
    rw [same.host?] at found
    rw [Has, Holds, same.now, same.host?]
    refine (h.shared id peer envelope inStock ⟨host, state, found, known⟩).imp_right ?_
    rintro ⟨envelopes, part, under⟩
    exact ⟨envelopes, part, (same.underWay id peer _).2 under⟩

theorem later {time : UInt64} (h : mesh.Sound policy stock) (le : mesh.now ≤ time) :
    ({ mesh with now := time } : Mesh).Sound policy stock where
  wired := h.wired
  rest := fun id host found => (h.rest id host found).later le
  quiet := h.quiet
  genuine := by
    intro source target bytes under
    obtain ⟨packet, written, parts⟩ := h.genuine source target bytes under
    refine ⟨packet, written, fun envelope part => ?_⟩
    obtain ⟨inStock, accepts, has⟩ := parts envelope part
    exact ⟨inStock, accepts.later le, has.imp_left (Envelope.isExpired_mono le)⟩
  shared := fun id peer envelope inStock knows =>
    (h.shared id peer envelope inStock knows).imp_left (Or.imp_left (Envelope.isExpired_mono le))

section Acting

variable {source : PeerId} {consumed : List Bytes} {host host' : Host} {network : Network}
  {incoming : List Envelope}

/-- An act loses no envelope that is not expired. -/
theorem has_of_acted (acted : Acted id source consumed host' mesh after)
    (found : mesh.host? id = some host)
    (advances : host.Advances policy stock network mesh.now source incoming host')
    {owner : PeerId} (has : mesh.Has owner envelope) : after.Has owner envelope := by
  rw [Has, Holds, acted.now, acted.host?]
  rcases has with expired | ⟨holder, holds, held⟩
  · exact .inl expired
  · by_cases here : owner = id
    · subst here
      cases found.symm.trans holds
      rw [if_pos rfl]
      exact (advances.keeps envelope held).imp_right fun kept => ⟨_, rfl, kept⟩
    · rw [if_neg here]
      exact .inr ⟨holder, holds, held⟩

/-- What is under way stays so, unless it is consumed. -/
theorem inFlight_of_acted (acted : Acted id source consumed host' mesh after)
    (consumes : ∀ envelopes, (Packet.messages envelopes).encode ∈ consumed →
      ∀ envelope ∈ envelopes, envelope ∈ incoming) {sender target : PeerId}
    (inFlight : mesh.InFlight sender target envelope) :
    after.InFlight sender target envelope ∨
      sender = source ∧ target = id ∧ envelope ∈ incoming := by
  obtain ⟨envelopes, part, under⟩ := inFlight
  rcases acted.kept sender target _ under with kept | ⟨rfl, rfl, member⟩
  · exact .inl ⟨envelopes, part, kept⟩
  · exact .inr ⟨rfl, rfl, consumes envelopes member envelope part⟩

/-- An act keeps this if its host has room for everything, serves everybody whom it is connected
with, and takes in what it consumes. -/
theorem acted (h : mesh.Sound policy stock) (acted : Acted id source consumed host' mesh after)
    (found : mesh.host? id = some host)
    (advances : host.Advances policy stock network mesh.now source incoming host')
    (serves : ∀ peer, mesh.isLinked id peer = true → network.Serves peer)
    (linked : ∀ peer, host'.isConnected peer = true → mesh.isLinked id peer = true)
    (consumes : ∀ envelopes, (Packet.messages envelopes).encode ∈ consumed →
      ∀ envelope ∈ envelopes, envelope ∈ incoming)
    (sourced : ∀ envelope ∈ incoming, policy.Accepts mesh.now envelope ∧ mesh.Has source envelope)
    (attends : ∀ envelope ∈ incoming, mesh.Knows source id envelope →
      host.isConnected source = true) : after.Sound policy stock where
  wired := fun owner peer number link =>
    acted.leads number owner peer (h.wired owner peer number (acted.link? owner peer ▸ link))
  rest := by
    intro owner holder holds
    rw [acted.host?] at holds
    rw [acted.now]
    split at holds
    · cases holds
      exact advances.rest.emptied
    · exact h.rest owner holder holds
  quiet := by
    intro owner holder holds
    rw [acted.host?] at holds
    split at holds
    · cases holds
      rfl
    · exact h.quiet owner holder holds
  genuine := by
    intro sender target bytes under
    rcases acted.new sender target bytes under with old | ⟨rfl, handover, member, rfl, rfl⟩
    · obtain ⟨packet, written, parts⟩ := h.genuine sender target bytes old
      refine ⟨packet, written, fun envelope part => ?_⟩
      obtain ⟨inStock, accepts, has⟩ := parts envelope part
      exact ⟨inStock, acted.now ▸ accepts, has_of_acted acted found advances has⟩
    · refine ⟨handover.packet, rfl, fun envelope part => ?_⟩
      have held := advances.sent handover member envelope part
      have stocked := advances.rest.stocked
      refine ⟨stocked.within envelope held, acted.now ▸ stocked.accepted envelope held, .inr ?_⟩
      exact ⟨_, (acted.host? sender).trans (if_pos rfl), held⟩
  shared := by
    rintro owner peer envelope inStock ⟨holder, state, holds, connected, known⟩
    have earlier : mesh.Knows owner peer envelope →
        after.Has peer envelope ∨ after.InFlight owner peer envelope := by
      intro knows
      rcases h.shared owner peer envelope inStock knows with has | inFlight
      · exact .inl (has_of_acted acted found advances has)
      · rcases inFlight_of_acted acted consumes inFlight with still | ⟨rfl, rfl, part⟩
        · exact .inr still
        · have taken := advances.takes (attends envelope part knows) envelope part
            (sourced envelope part).1
          rw [Has, acted.now]
          exact .inl (taken.imp_right fun held =>
            ⟨_, (acted.host? peer).trans (if_pos rfl), held⟩)
    rw [acted.host?] at holds
    split at holds
    · rename_i here
      subst here
      cases holds
      have link := linked peer (Host.isConnected_iff.2 ⟨state, connected⟩)
      -- What is known now was known before, came from the peer, is sent, or is expired.
      rcases advances.known peer state (serves peer link) connected envelope inStock known with
        ⟨before, was, knew⟩ | ⟨rfl, part⟩ | ⟨handover, member, rfl, taken, part⟩ | expired
      · exact earlier ⟨host, before, found, was, knew⟩
      · exact .inl (has_of_acted acted found advances (sourced envelope part).2)
      · exact .inr (inFlight_of_mem part (acted.sent handover member taken link))
      · exact .inl (.inl (acted.now ▸ expired))
    · exact earlier ⟨holder, state, holds, connected, known⟩

end Acting

end Sound

end Courier.Mesh

import Mathlib
import Courier.Proofs.Host.Growth
import Courier.Proofs.Host.Watching

/-! # Where envelopes come from

Whatever a host holds or has handed to the network was offered to it before, by a peer or by its
user. Main statement: every operation keeps this, together with the good order of pool and watches.
-/

namespace Courier

variable {Secret Public : Type}

/-- Whether no two of some envelopes have the same hash. -/
def Envelope.Apart (envelopes : List Envelope) : Prop :=
  ∀ envelope ∈ envelopes, ∀ other ∈ envelopes, envelope.hash = other.hash → envelope = other

/-- The envelopes that a move offers to the pool. -/
def Move.offered : Move → List Envelope
  | .offer envelope _ => [envelope]
  | _ => []

namespace Host

variable {host : Host} {network : Network} {now : UInt64} {m : Move}
  {occurring : List Envelope}

/-- The envelopes that are offered to the pool of a host in a run, whether or not it takes them. -/
def offered (suite : Suite Secret Public) (network : Network) :
    Host → List (UInt64 × HostOperation Secret Public) → List Envelope
  | _, [] => []
  | host, (now, operation) :: later =>
    (host.movesOf suite now operation).flatMap Move.offered ++
      offered suite network (host.perform suite network now operation) later

theorem offered_append (suite : Suite Secret Public) (network : Network) (host : Host)
    (earlier later : List (UInt64 × HostOperation Secret Public)) :
    host.offered suite network (earlier ++ later) = host.offered suite network earlier ++
      (host.run suite network earlier).offered suite network later := by
  induction earlier generalizing host with
  | nil => rfl
  | cons first rest ih =>
      obtain ⟨now, operation⟩ := first
      rw [List.cons_append, offered, offered, ih, List.append_assoc]
      rfl

@[simp] theorem offered_flushes (host : Host) : host.flushes.flatMap Move.offered = [] := by
  rw [List.flatMap_eq_nil_iff]
  intro m member
  obtain ⟨peer, rfl⟩ := mem_flushes member
  rfl

theorem offered_connect (suite : Suite Secret Public) (now : UInt64) (host : Host)
    (peer : PeerId) : (host.movesOf suite now (.connect peer)).flatMap Move.offered = [] := by
  rw [movesOf]
  split
  · rfl
  · split <;> rfl

theorem offered_post {suite : Suite Secret Public} {request : PostRequest Secret Public}
    {chance : Chance Secret} {envelope : Envelope}
    (composed : compose suite now request chance = .ok envelope) (host : Host) :
    (host.movesOf suite now (.post request chance)).flatMap Move.offered = [envelope] := by
  rw [movesOf, composed]
  simp only
  split
  · rw [List.flatMap_cons, offered_flushes, List.append_nil, Move.offered]
  · rfl

/-- A host in good order whose envelopes, held or handed over, are among some that occur. -/
structure Traced (occurring : List Envelope) (host : Host) : Prop where
  pool : host.pool.WellFormed
  watches : host.watches.WellFormed
  held : ∀ resident ∈ host.pool.residents, resident.envelope ∈ occurring
  sent : ∀ handover ∈ host.outbox, ∀ envelope ∈ handover.packet.contents, envelope ∈ occurring

theorem Traced.fresh (occurring : List Envelope) (settings : HostSettings) (policy : PoolPolicy)
    (rule : EvictionRule) : (fresh settings policy rule).Traced occurring where
  pool := .empty policy rule
  watches := .empty
  held := by simp [Host.fresh, Pool.empty]
  sent := by simp [Host.fresh, Host.initial]

theorem Traced.move (h : host.Traced occurring) (network : Network) (now : UInt64)
    (offers : ∀ envelope ∈ m.offered, envelope ∈ occurring)
    (given : ∀ watches, m = .rewatch watches → watches.WellFormed) :
    (host.move network now m).Traced occurring where
  pool := move_wellFormed h.pool network now m
  watches := move_watches_wellFormed h.watches given network now
  held := by
    intro resident held
    rw [move_pool] at held
    cases m with
    | offer envelope source =>
        rcases Pool.mem_insert_residents h.pool held with old | ⟨rfl, -⟩
        · exact h.held resident old
        · exact offers envelope (List.mem_singleton.2 rfl)
    | sweep =>
        simp only [h.pool.purgeExpired_residents] at held
        exact h.held resident (List.mem_of_mem_filter held)
    | attach | detach | announce | fill | hear | note | flush | rewatch =>
        exact h.held resident held
  sent := by
    intro handover member envelope part
    rw [move_outbox] at member
    rcases List.mem_append.1 member with old | new
    · exact h.sent handover old envelope part
    · obtain ⟨resident, held, rfl⟩ :=
        List.mem_map.1 ((mem_handedBy h.pool new).2 envelope part)
      exact h.held resident held

theorem Traced.moveAll (h : host.Traced occurring) (network : Network)
    (clock : Move → UInt64) {moves : List Move}
    (offers : ∀ envelope ∈ moves.flatMap Move.offered, envelope ∈ occurring)
    (given : ∀ watches, .rewatch watches ∈ moves → watches.WellFormed) :
    (host.moveAll network clock moves).Traced occurring := by
  induction moves generalizing host with
  | nil => exact h
  | cons m rest ih =>
      rw [List.flatMap_cons] at offers
      refine ih (h.move network (clock m) (fun envelope offered =>
        offers envelope (List.mem_append_left _ offered)) ?_) ?_ ?_
      · rintro watches rfl
        exact given watches List.mem_cons_self
      · exact fun envelope offered => offers envelope (List.mem_append_right _ offered)
      · exact fun watches member => given watches (List.mem_cons_of_mem _ member)

theorem Traced.perform (h : host.Traced occurring) (suite : Suite Secret Public)
    (network : Network) (now : UInt64) (operation : HostOperation Secret Public)
    (offers : ∀ envelope ∈ (host.movesOf suite now operation).flatMap Move.offered,
      envelope ∈ occurring) :
    (host.perform suite network now operation).Traced occurring := by
  rw [perform_eq]
  exact h.moveAll network _ offers fun watches => rewatch_wellFormed h.watches

/-- If what is offered in a run is among what occurs, so is all that is held or handed over. -/
theorem Traced.run (h : host.Traced occurring) (suite : Suite Secret Public) (network : Network)
    {operations : List (UInt64 × HostOperation Secret Public)}
    (offers : ∀ envelope ∈ host.offered suite network operations, envelope ∈ occurring) :
    (host.run suite network operations).Traced occurring := by
  induction operations generalizing host with
  | nil => exact h
  | cons first later ih =>
      obtain ⟨now, operation⟩ := first
      rw [offered] at offers
      exact ih (h.perform suite network now operation fun envelope offered =>
        offers envelope (List.mem_append_left _ offered)) fun envelope offered =>
          offers envelope (List.mem_append_right _ offered)

end Host

end Courier

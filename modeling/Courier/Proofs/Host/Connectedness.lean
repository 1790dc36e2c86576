import Mathlib
import Courier.Proofs.Host.Quiescence

/-! # Who is connected

A peer is connected from the operation that connects it to the next one that disconnects it,
whatever happens in between.
-/

namespace Courier.Host

variable {Secret Public : Type} {host : Host} {peer : PeerId} {network : Network} {now : UInt64}
  {m : Move}

theorem move_isConnected (network : Network) (now : UInt64) (notAttach : m ≠ .attach peer)
    (notDetach : m ≠ .detach peer) :
    (host.move network now m).isConnected peer = host.isConnected peer := by
  rw [isConnected, isConnected]
  cases connected : host.peer? peer with
  | none =>
      rcases move_peer?_none connected network now m with absent | ⟨attached, -⟩
      · rw [absent]
      · exact absurd attached notAttach
  | some state =>
      by_cases flushed : m = .flush peer
      · rw [flushed, move_flush_peer? connected, Option.isSome_some, Option.isSome_some]
      · obtain ⟨after, added, connected', -⟩ :=
          move_grows connected network now flushed notDetach
        rw [connected', Option.isSome_some, Option.isSome_some]

theorem moveAll_isConnected (network : Network) (clock : Move → UInt64) {moves : List Move}
    (notAttach : ∀ m ∈ moves, m ≠ .attach peer) (notDetach : ∀ m ∈ moves, m ≠ .detach peer) :
    (host.moveAll network clock moves).isConnected peer = host.isConnected peer := by
  induction moves generalizing host with
  | nil => rfl
  | cons m rest ih =>
      have here := List.mem_cons_self (a := m) (l := rest)
      refine (ih ?_ ?_).trans
        (move_isConnected network (clock m) (notAttach m here) (notDetach m here))
      · exact fun m member => notAttach m (List.mem_cons_of_mem _ member)
      · exact fun m member => notDetach m (List.mem_cons_of_mem _ member)

theorem ne_detach_of_mem_movesOf {suite : Suite Secret Public}
    {operation : HostOperation Secret Public} (other : operation ≠ .disconnect peer)
    (member : m ∈ host.movesOf suite now operation) : m ≠ .detach peer := by
  rintro rfl
  have made := mem_movesOf member
  cases operation with
  | disconnect leaver =>
      simp only [Move.detach.injEq] at made
      exact other (made ▸ rfl)
  | connect | receive | post | inject | noteAccepted | flush | flushAll | housekeeping
  | installWatch | uninstallWatch | checkWatch => simp at made

theorem perform_isConnected (suite : Suite Secret Public) (network : Network) (now : UInt64)
    {operation : HostOperation Secret Public} (notConnect : operation ≠ .connect peer)
    (notDisconnect : operation ≠ .disconnect peer) :
    (host.perform suite network now operation).isConnected peer = host.isConnected peer := by
  rw [perform_eq]
  exact moveAll_isConnected network _ (fun m => ne_attach_of_mem_movesOf notConnect)
    fun m => ne_detach_of_mem_movesOf notDisconnect

theorem perform_connect_isConnected (suite : Suite Secret Public) (network : Network)
    (now : UInt64) (host : Host) (peer other : PeerId) :
    (host.perform suite network now (.connect peer)).isConnected other = true ↔
      host.isConnected other = true ∨ other = peer := by
  by_cases same : other = peer
  · subst same
    refine iff_of_true ?_ (.inr rfl)
    rw [perform_eq, movesOf]
    by_cases connected : host.isConnected other = true
    · rw [if_pos connected]
      exact connected
    · rw [if_neg connected, List.cons_append]
      have attached : (host.move network now (.attach other)).isConnected other = true := by
        rw [move, if_neg connected, isConnected_iff_mem, notePeers, List.map_append]
        exact List.mem_append_right _ (List.mem_singleton_self other)
      change ((host.move network now (.attach other)).moveAll network _ _).isConnected other = true
      refine (moveAll_isConnected network _ ?_ ?_).trans attached
      · split <;> simp
      · split <;> simp
  · have others : HostOperation.connect peer ≠ (.connect other : HostOperation Secret Public) :=
      fun equal => same (HostOperation.connect.inj equal).symm
    rw [perform_isConnected suite network now others (by simp)]
    simp [same]

theorem perform_disconnect_isConnected (suite : Suite Secret Public) (network : Network)
    (now : UInt64) (host : Host) (peer other : PeerId) :
    (host.perform suite network now (.disconnect peer)).isConnected other = true ↔
      host.isConnected other = true ∧ other ≠ peer := by
  rw [perform, isConnected, disconnect_peer?, isConnected]
  split
  · simp_all
  · simp_all

end Courier.Host

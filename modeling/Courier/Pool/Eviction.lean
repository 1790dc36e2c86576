import Courier.Envelope.Work

/-! # What gives way in a full pool

A pool that is full gives up one of its weakest envelopes for a stronger one. Which of
several equally weak ones it is, is left to a rule of the pool; the ordinary rule takes the
one with the least hash.
-/

namespace Courier

/-- An envelope in the pool, with what was computed when it came in. -/
structure Resident where
  hash : Hash
  envelope : Envelope
  score : Float
  /-- The number of octets of its encoding. -/
  size : Nat

/-- The place of a float in the order of all floats, in which each has its own. -/
def orderKey (x : Float) : Int :=
  let bits := x.toBits.toNat
  if bits < 0x8000000000000000 then bits else 0x7fffffffffffffff - (bits : Int)

namespace Resident

/-- What an envelope becomes in the pool. -/
def ofEnvelope (envelope : Envelope) : Resident :=
  ⟨envelope.hash, envelope, envelope.score, envelope.encodedLength⟩

/-- Whether one envelope gives way before another: the lower score, then the lower hash. -/
def weaker (a b : Resident) : Bool :=
  orderKey a.score < orderKey b.score ||
    (orderKey a.score = orderKey b.score && a.hash < b.hash)

/-- The weakest of some envelopes. -/
def weakest? : List Resident → Option Resident
  | [] => none
  | resident :: rest =>
    match weakest? rest with
    | none => some resident
    | some other => some (if other.weaker resident then other else resident)

theorem weakest?_eq_none {residents : List Resident} (h : weakest? residents = none) :
    residents = [] := by
  cases residents with
  | nil => rfl
  | cons resident rest =>
    unfold weakest? at h
    split at h <;> cases h

theorem weakest?_mem {residents : List Resident} {victim : Resident}
    (h : weakest? residents = some victim) : victim ∈ residents := by
  induction residents generalizing victim with
  | nil => cases h
  | cons resident rest ih =>
    unfold weakest? at h
    split at h
    · cases h
      exact List.mem_cons_self
    · rename_i other found
      cases h
      split
      · exact List.mem_cons_of_mem _ (ih found)
      · exact List.mem_cons_self

theorem weaker_orderKey_le {a b : Resident} (h : a.weaker b = true) :
    orderKey a.score ≤ orderKey b.score := by
  simp only [weaker, Bool.or_eq_true, Bool.and_eq_true, decide_eq_true_eq] at h
  omega

theorem not_weaker_orderKey_le {a b : Resident} (h : ¬ a.weaker b = true) :
    orderKey b.score ≤ orderKey a.score := by
  simp only [weaker, Bool.or_eq_true, decide_eq_true_eq, not_or] at h
  omega

theorem weakest?_least {residents : List Resident} {victim : Resident}
    (h : weakest? residents = some victim) {resident : Resident} (held : resident ∈ residents) :
    orderKey victim.score ≤ orderKey resident.score := by
  induction residents generalizing victim with
  | nil => cases h
  | cons first rest ih =>
    unfold weakest? at h
    split at h
    · rename_i none
      cases h
      cases weakest?_eq_none none
      cases List.mem_singleton.1 held
      exact Int.le_refl _
    · rename_i other found
      cases h
      cases held with
      | head =>
        split
        · exact weaker_orderKey_le ‹_›
        · exact Int.le_refl _
      | tail _ held =>
        have least := ih found held
        split
        · exact least
        · exact Int.le_trans (not_weaker_orderKey_le ‹_›) least

end Resident

/-- A choice of one envelope among those with the least score. -/
structure EvictionRule where
  /-- The envelope that is to give way. -/
  pick : List Resident → Option Resident
  pick_eq_none : ∀ {residents}, pick residents = none → residents = []
  pick_mem : ∀ {residents victim}, pick residents = some victim → victim ∈ residents
  pick_least : ∀ {residents victim}, pick residents = some victim →
    ∀ {resident}, resident ∈ residents → orderKey victim.score ≤ orderKey resident.score

namespace EvictionRule

/-- Of several weakest envelopes the one with the least hash gives way. -/
def leastHash : EvictionRule where
  pick := Resident.weakest?
  pick_eq_none := Resident.weakest?_eq_none
  pick_mem := Resident.weakest?_mem
  pick_least := Resident.weakest?_least

end EvictionRule

end Courier

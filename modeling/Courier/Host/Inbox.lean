import Courier.Host.Basic

/-! # What a host offers its user

Watches are installed and removed, and what they found is taken, fetched and opened. What a
watch finds now need not be what it was told of: envelopes expire and give way.
-/

namespace Courier.Host

def orNoWatch {α : Type} : Except NoSuchWatch α → Except HostError α
  | .ok a => .ok a
  | .error e => .error (.noSuchWatch e)

/-- Install a watch, and tell its number. -/
def installWatch (host : Host) (mask : TopicMask) : Host × Nat :=
  let (watches, id) := host.watches.install mask
  ({ host with watches }, id)

def uninstallWatch (host : Host) (id : Nat) : Except HostError Host :=
  orNoWatch ((host.watches.uninstall id).map fun watches => { host with watches })

def checkWatch (host : Host) (id : Nat) : Except HostError (Host × List Hash) :=
  orNoWatch ((host.watches.drain id).map fun (watches, hashes) => ({ host with watches }, hashes))

def envelope (host : Host) (hash : Hash) : Except HostError Envelope :=
  match host.pool.lookup hash with
  | some envelope => .ok envelope
  | none => .error (.notFound ⟨hash⟩)

def fullTopics (host : Host) (id : Nat) : Except HostError (List FullTopic) :=
  orNoWatch (host.watches.fullTopics id)

/-- The hashes of the live envelopes that a watch's mask fits. -/
def messages (host : Host) (now : UInt64) (id : Nat) : Except HostError (List Hash) :=
  (orNoWatch (host.watches.mask id)).map fun mask =>
    (host.pool.matching now mask).map (·.hash)

end Courier.Host

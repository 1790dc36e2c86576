import Courier.Duration

/-! # How a host deals with its peers

The settings are read from JSON; fields that are not there keep their defaults.
-/

namespace Courier

/-- How a host deals with its peers. -/
structure HostSettings where
  /-- The most envelopes in one packet. -/
  maxBatch : Nat
  /-- The version that the host announces. -/
  protocolVersion : UInt32
  /-- Whether a new peer gets everything that is in the pool. -/
  syncOnConnect : Bool
  /-- The time between two sweeps of the pool. -/
  housekeepingInterval : Duration
  deriving DecidableEq

namespace HostSettings

def standard : HostSettings := ⟨64, 2, true, .ofSeconds 1⟩

open Json

def decoder : Decoder HostSettings := fun value => do
  let fields ← Decode.fields
    ["max_batch", "protocol_version", "sync_on_connect", "housekeeping_interval"] true value
  let maxBatch ← Decode.withDefault (Decode.nat 0xffffffffffffffff) standard.maxBatch fields 0
  let version ← Decode.withDefault Decode.uint32 standard.protocolVersion fields 1
  let sync ← Decode.withDefault Decode.bool standard.syncOnConnect fields 2
  let interval ← Decode.withDefault Duration.decoder standard.housekeepingInterval fields 3
  return ⟨maxBatch, version, sync, interval⟩

def toJson (settings : HostSettings) : String :=
  Text.object [("max_batch", Text.nat settings.maxBatch),
    ("protocol_version", Text.nat settings.protocolVersion.toNat),
    ("sync_on_connect", Text.bool settings.syncOnConnect),
    ("housekeeping_interval", settings.housekeepingInterval.toJson)]

end HostSettings

end Courier

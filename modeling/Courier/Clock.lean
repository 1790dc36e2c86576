/-! # Clocks that are set by hand

Time is a number of seconds in 64 bits. A clock that is advanced past the last second
starts again from the first.
-/

namespace Courier

/-- A clock that only moves when told to. -/
structure ManualClock where
  /-- The second it shows. -/
  now : UInt64
  deriving DecidableEq

namespace ManualClock

/-- The clock that shows the first second. -/
def initial : ManualClock := ⟨0⟩

def advance (clock : ManualClock) (seconds : UInt64) : ManualClock := ⟨clock.now + seconds⟩

/-- Let the clock show the given second. -/
def set (_ : ManualClock) (time : UInt64) : ManualClock := ⟨time⟩

end ManualClock

end Courier

namespace WorkflowQueue

/-!
# Durations

Lengths of time in whole nanoseconds. Delays are counted in milliseconds; a
timer never fires early, so a delay that is no whole number of milliseconds
waits for the next one.
-/

/-- A length of time. -/
structure Duration where
  nanoseconds : Nat
  deriving DecidableEq, Inhabited

namespace Duration

/-- A number of seconds. -/
def ofSeconds
    (seconds : Nat) :
    Duration where
  nanoseconds := seconds * 1000000000

/-- A number of milliseconds. -/
def ofMilliseconds
    (milliseconds : Nat) :
    Duration where
  nanoseconds := milliseconds * 1000000

/-- Seconds with a part of a second in nanoseconds. -/
def ofParts
    (seconds nanoseconds : Nat) :
    Duration where
  nanoseconds := seconds * 1000000000 + nanoseconds

/-- The whole seconds. -/
def seconds
    (duration : Duration) :
    Nat :=
  duration.nanoseconds / 1000000000

/-- The nanoseconds beyond the whole seconds. -/
def subsecond
    (duration : Duration) :
    Nat :=
  duration.nanoseconds % 1000000000

/-- The whole milliseconds. -/
def milliseconds
    (duration : Duration) :
    Nat :=
  duration.nanoseconds / 1000000

/-- The milliseconds that a timer waits. -/
def waitMilliseconds
    (duration : Duration) :
    Nat :=
  (duration.nanoseconds + 999999) / 1000000

/-- The shorter of two durations. -/
def atMost
    (duration limit : Duration) :
    Duration where
  nanoseconds := min duration.nanoseconds limit.nanoseconds

end Duration

end WorkflowQueue

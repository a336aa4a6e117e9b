import Mathlib.Logic.Function.Iterate
import WorkflowQueue.Backoff

namespace WorkflowQueue

/-!
# Waits in whole milliseconds

A timer counts milliseconds, so a wait that is a whole number of them lasts
exactly as long as it says. The growth of a backoff stays within such waits when
its limit is one: every later wait is a number of milliseconds or the limit
itself.
-/

namespace Duration

/-- Two durations one after the other. -/
def plus
    (first second : Duration) :
    Duration where
  nanoseconds := first.nanoseconds + second.nanoseconds

/-- Milliseconds one after the other. -/
theorem ofMilliseconds_add
    (first second : Nat) :
    ofMilliseconds (first + second) =
      (ofMilliseconds first).plus (ofMilliseconds second) := by
  simp only [ofMilliseconds, plus, Nat.add_mul]

/-- A duration that is a whole number of milliseconds. -/
def WholeMilliseconds
    (duration : Duration) :
    Prop :=
  duration.nanoseconds % 1000000 = 0

instance
    (duration : Duration) :
    Decidable duration.WholeMilliseconds :=
  inferInstanceAs (Decidable (duration.nanoseconds % 1000000 = 0))

theorem wholeMilliseconds_ofMilliseconds
    (milliseconds : Nat) :
    (ofMilliseconds milliseconds).WholeMilliseconds :=
  Nat.mul_mod_left milliseconds 1000000

/-- The shorter of two durations is one of them. -/
theorem WholeMilliseconds.atMost
    {duration limit : Duration}
    (whole : duration.WholeMilliseconds)
    (limitWhole : limit.WholeMilliseconds) :
    (duration.atMost limit).WholeMilliseconds := by
  unfold WholeMilliseconds Duration.atMost at *
  rcases Nat.le_total duration.nanoseconds limit.nanoseconds with
    shorter | longer
  · rwa [Nat.min_eq_left shorter]
  · rwa [Nat.min_eq_right longer]

/-- A timer waits exactly for a whole number of milliseconds. -/
theorem WholeMilliseconds.waits_exactly
    {duration : Duration}
    (whole : duration.WholeMilliseconds) :
    ofMilliseconds duration.waitMilliseconds = duration := by
  rcases duration with ⟨nanoseconds⟩
  have whole : nanoseconds % 1000000 = 0 := whole
  have rounded : (nanoseconds + 999999) / 1000000 * 1000000 = nanoseconds := by
    omega
  simp only [ofMilliseconds, waitMilliseconds, rounded]

end Duration

namespace Backoff

/-- Every wait of a backoff is whole when its first wait and its limit are. -/
theorem wholeMilliseconds_iterate
    {backoff : Backoff}
    {delay : Duration}
    (delayWhole : delay.WholeMilliseconds)
    (limitWhole : backoff.maxDelay.WholeMilliseconds)
    (position : Nat) :
    (backoff.nextDelay^[position] delay).WholeMilliseconds := by
  cases position with
  | zero =>
      exact delayWhole
  | succ position =>
      rw [Function.iterate_succ_apply']
      exact (Duration.wholeMilliseconds_ofMilliseconds _).atMost limitWhole

end Backoff

end WorkflowQueue

import WorkflowQueue.Number.Binary64
import WorkflowQueue.Time.Duration

namespace WorkflowQueue

/-!
# Growing delays

The waits between the readings of one execution. Each wait is the one before it
times a factor, in whole milliseconds, and never longer than a limit.
-/

/--
The waits of a watch: the first one, the limit of the later ones, and their
growth.
-/
structure Backoff where
  initialDelay : Duration
  maxDelay : Duration
  multiplier : Binary64
  deriving DecidableEq

namespace Backoff

/--
The growth when nothing else is asked for: each wait is twice the one before.
-/
def defaultMultiplier : Binary64 := Binary64.ofNat 2

/-- One second first, doubling up to thirty seconds. -/
def standard : Backoff where
  initialDelay := Duration.ofSeconds 1
  maxDelay := Duration.ofSeconds 30
  multiplier := defaultMultiplier

/--
The wait after a wait of `current`. The whole milliseconds are multiplied as a
binary64 number, and the whole part of the product is taken as a 64-bit word.
-/
def nextDelay
    (backoff : Backoff)
    (current : Duration) :
    Duration :=
  let product := (Binary64.ofNat current.milliseconds).mul backoff.multiplier
  (Duration.ofMilliseconds product.toWord.toNat).atMost backoff.maxDelay

/-- The first `count` waits that follow a wait of `current`. -/
def delaysAfter
    (backoff : Backoff)
    (current : Duration) :
    Nat →
    List Duration
  | 0 => []
  | count + 1 =>
      let next := backoff.nextDelay current
      next :: backoff.delaysAfter next count

end Backoff

end WorkflowQueue

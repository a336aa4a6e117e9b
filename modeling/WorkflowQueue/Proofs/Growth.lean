import Mathlib.Order.Iterate
import WorkflowQueue.Config
import WorkflowQueue.Proofs.Records.Reading
import WorkflowQueue.Proofs.Rounding
import WorkflowQueue.Proofs.Waits

namespace WorkflowQueue

/-!
# How waits grow

The wait after a wait is monotone in it, whatever the factor, and never longer
than the limit. The waits of a backoff are therefore ordered one way or the
other by their first two. They never shrink when the first wait is a whole
number of milliseconds that a binary64 number holds exactly, and they double up
to the limit for a configuration that was read from variables.
-/

/-! ## The order of durations -/

namespace Duration

instance : PartialOrder Duration :=
  PartialOrder.lift nanoseconds fun first second same => by
    cases first
    cases second
    exact congrArg mk same

instance : DecidableLE Duration := fun first second =>
  inferInstanceAs (Decidable (first.nanoseconds ≤ second.nanoseconds))

instance : DecidableLT Duration := fun first second =>
  inferInstanceAs (Decidable (first.nanoseconds < second.nanoseconds))

theorem le_iff
    {first second : Duration} :
    first ≤ second ↔ first.nanoseconds ≤ second.nanoseconds :=
  Iff.rfl

theorem lt_iff
    {first second : Duration} :
    first < second ↔ first.nanoseconds < second.nanoseconds :=
  Iff.rfl

theorem atMost_le
    (duration limit : Duration) :
    duration.atMost limit ≤ limit :=
  min_le_right duration.nanoseconds limit.nanoseconds

theorem atMost_mono
    {shorter longer : Duration}
    (ordered : shorter ≤ longer)
    (limit : Duration) :
    shorter.atMost limit ≤ longer.atMost limit :=
  min_le_min_right limit.nanoseconds ordered

theorem le_atMost
    {duration longer limit : Duration}
    (ordered : duration ≤ longer)
    (withinLimit : duration ≤ limit) :
    duration ≤ longer.atMost limit :=
  le_min (le_iff.mp ordered) (le_iff.mp withinLimit)

theorem ofMilliseconds_mono :
    Monotone ofMilliseconds := by
  intro fewer more ordered
  exact Nat.mul_le_mul_right 1000000 ordered

theorem milliseconds_mono :
    Monotone milliseconds := by
  intro shorter longer ordered
  exact Nat.div_le_div_right (le_iff.mp ordered)

/-- A whole number of milliseconds is that many milliseconds. -/
theorem WholeMilliseconds.ofMilliseconds_eq
    {duration : Duration}
    (whole : duration.WholeMilliseconds) :
    ofMilliseconds duration.milliseconds = duration := by
  rcases duration with ⟨nanoseconds⟩
  exact congrArg mk (Nat.div_mul_cancel (Nat.dvd_of_mod_eq_zero whole))

theorem ofSeconds_eq_ofMilliseconds
    (seconds : Nat) :
    ofSeconds seconds = ofMilliseconds (seconds * 1000) := by
  simp only [ofSeconds, ofMilliseconds, Nat.mul_assoc]

theorem milliseconds_ofMilliseconds
    (milliseconds : Nat) :
    (ofMilliseconds milliseconds).milliseconds = milliseconds :=
  Nat.mul_div_cancel milliseconds (by decide)

theorem ofSeconds_le_iff
    {fewer more : Nat} :
    ofSeconds fewer ≤ ofSeconds more ↔ fewer ≤ more := by
  simp only [le_iff, ofSeconds]
  omega

theorem ofSeconds_lt_iff
    {fewer more : Nat} :
    ofSeconds fewer < ofSeconds more ↔ fewer < more := by
  simp only [lt_iff, ofSeconds]
  omega

theorem ofSeconds_inj
    {first second : Nat} :
    ofSeconds first = ofSeconds second ↔ first = second := by
  simp only [ofSeconds, mk.injEq]
  omega

theorem atMost_ofSeconds
    (seconds limit : Nat) :
    (ofSeconds seconds).atMost (ofSeconds limit) =
      ofSeconds (min seconds limit) := by
  simp only [atMost, ofSeconds, mk.injEq]
  omega

end Duration

/-! ## One wait after another -/

/-- A finite number that is one or more. -/
def Binary64.FiniteAtLeastOne
    (number : Binary64) :
    Prop :=
  ∃ significand exponent,
    number = .finite false significand exponent ∧
      (1 : ℚ) ≤ significand * 2 ^ exponent

namespace Backoff

variable
  (backoff : Backoff)

/-- The wait after the reading at a position. -/
def wait
    (position : Nat) :
    Duration :=
  backoff.nextDelay^[position] backoff.initialDelay

@[simp] theorem wait_zero :
    backoff.wait 0 = backoff.initialDelay :=
  rfl

theorem wait_succ
    (position : Nat) :
    backoff.wait (position + 1) = backoff.nextDelay (backoff.wait position) :=
  Function.iterate_succ_apply' _ _ _

/-- No wait that follows another one exceeds the limit. -/
theorem nextDelay_le
    (current : Duration) :
    backoff.nextDelay current ≤ backoff.maxDelay :=
  Duration.atMost_le _ _

/-- A longer wait is not followed by a shorter one, whatever the factor. -/
theorem nextDelay_mono :
    Monotone backoff.nextDelay := by
  intro shorter longer ordered
  apply Duration.atMost_mono
  apply Duration.ofMilliseconds_mono
  exact Binary64.toWord_mul_mono backoff.multiplier
    (Duration.milliseconds_mono ordered)

/--
The first two waits decide whether any wait is shorter than the one before.
-/
theorem wait_mono_iff :
    Monotone backoff.wait ↔ backoff.wait 0 ≤ backoff.wait 1 := by
  constructor
  · intro grows
    exact grows (Nat.zero_le 1)
  · intro firstTwo
    exact backoff.nextDelay_mono.monotone_iterate_of_le_map firstTwo

/--
A factor of one or more does not shorten a wait that is a whole number of
milliseconds and that a binary64 number holds exactly.
-/
theorem le_nextDelay
    {current : Duration}
    (withinLimit : current ≤ backoff.maxDelay)
    (whole : current.WholeMilliseconds)
    (short : current.milliseconds ≤ 2 ^ 53)
    (factor : backoff.multiplier.FiniteAtLeastOne) :
    current ≤ backoff.nextDelay current := by
  obtain ⟨significand, exponent, isFactor, atLeastOne⟩ := factor
  refine Duration.le_atMost ?_ withinLimit
  calc
    current = Duration.ofMilliseconds current.milliseconds :=
      whole.ofMilliseconds_eq.symm
    _ ≤ _ := by
        apply Duration.ofMilliseconds_mono
        rw [isFactor]
        exact Binary64.le_toWord_mul short atLeastOne

/--
Seconds double up to the limit as long as binary64 numbers hold them exactly.
-/
theorem nextDelay_ofSeconds
    (doubles : backoff.multiplier = defaultMultiplier)
    {limit : Nat}
    (isLimit : backoff.maxDelay = Duration.ofSeconds limit)
    {seconds : Nat}
    (short : seconds * 1000 ≤ 2 ^ 53) :
    backoff.nextDelay (Duration.ofSeconds seconds) =
      Duration.ofSeconds (min (2 * seconds) limit) := by
  have product : 2 * (seconds * 1000) = 2 * seconds * 1000 := by ring
  unfold nextDelay
  dsimp only
  rw [Duration.ofSeconds_eq_ofMilliseconds seconds,
    Duration.milliseconds_ofMilliseconds, doubles, defaultMultiplier,
    Binary64.toWord_double short, product,
    ← Duration.ofSeconds_eq_ofMilliseconds, isLimit, Duration.atMost_ofSeconds]

/--
The induction doubles one wait after another; the limit keeps all of them exact.
-/
theorem wait_ofSeconds
    (doubles : backoff.multiplier = defaultMultiplier)
    {first limit : Nat}
    (isFirst : backoff.initialDelay = Duration.ofSeconds first)
    (isLimit : backoff.maxDelay = Duration.ofSeconds limit)
    (ordered : first ≤ limit)
    (short : limit * 1000 ≤ 2 ^ 53)
    (position : Nat) :
    backoff.wait position =
      Duration.ofSeconds (min (first * 2 ^ position) limit) := by
  induction position with
  | zero =>
      rw [wait_zero, isFirst, pow_zero, Nat.mul_one, min_eq_left ordered]
  | succ position inductionHypothesis =>
      have stillShort : min (first * 2 ^ position) limit * 1000 ≤ 2 ^ 53 :=
        (Nat.mul_le_mul_right 1000 (min_le_right _ _)).trans short
      have doubled :
          min (2 * min (first * 2 ^ position) limit) limit =
            min (first * 2 ^ (position + 1)) limit := by
        have power :
            first * 2 ^ (position + 1) = 2 * (first * 2 ^ position) := by ring
        omega
      rw [wait_succ, inductionHypothesis,
        nextDelay_ofSeconds backoff doubles isLimit stillShort, doubled]

end Backoff

/-! ## Waits from variables -/

namespace Config

theorem readSeconds_pos
    {lookup : String → Option String}
    {key : String}
    {default seconds : Nat}
    (defaultPositive : 0 < default)
    (isRead : readSeconds lookup key default = .ok seconds) :
    0 < seconds := by
  unfold readSeconds at isRead
  cases isSet : lookup key with
  | none =>
      rw [isSet] at isRead
      cases isRead
      exact defaultPositive
  | some written =>
      cases number : seconds? written with
      | none => simp [isSet, number] at isRead
      | some value =>
          have isValue : value = seconds := by
            simpa [isSet, number] using isRead
          have isPositive := (Option.filter_eq_some_iff.mp number).2
          rw [← isValue]
          exact of_decide_eq_true isPositive

/--
A configuration from variables waits whole seconds that double up to a limit.
-/
theorem backoff_of_ofLookup
    {lookup : String → Option String}
    {config : Config}
    (loaded : ofLookup lookup = .ok config) :
    ∃ first limit,
      0 < first ∧ first ≤ limit ∧
        config.backoff = {
          initialDelay := Duration.ofSeconds first
          maxDelay := Duration.ofSeconds limit
          multiplier := Backoff.defaultMultiplier
        } := by
  simp only [ofLookup, Except.bind_eq_ok_iff] at loaded
  obtain ⟨timeout, -, first, isFirst, limit, -, isConfig⟩ := loaded
  refine ⟨first, max limit first, readSeconds_pos (by decide) isFirst,
    le_max_right _ _, ?_⟩
  cases isConfig
  rfl

end Config

end WorkflowQueue

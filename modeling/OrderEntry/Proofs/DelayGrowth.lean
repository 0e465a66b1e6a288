import Mathlib.Algebra.Group.Nat.Defs
import Mathlib.Logic.Function.Iterate
import OrderEntry.Backoff

/-! How the delays grow. A delay has whole seconds and nanoseconds of the next second; doubling it carries
from these to those, and stays at the longest length of time there is. Neither shows: after `k` failures
the delay is the shortest one times `2 ^ k`, in whole nanoseconds, unless that is longer than the longest. -/

namespace OrderEntry

@[ext]
structure Timespan where
  seconds : Nat
  nanos : Nat
  seconds_lt : seconds < 2 ^ 64
  nanos_lt : nanos < 1_000_000_000
  deriving DecidableEq, Repr

namespace Timespan

def total (t : Timespan) : Nat := t.seconds * 1_000_000_000 + t.nanos

def longest : Timespan := ⟨2 ^ 64 - 1, 999_999_999, by decide, by decide⟩

def double (t : Timespan) : Timespan :=
  let carried := 2 * t.nanos / 1_000_000_000
  if h : 2 * t.seconds + carried < 2 ^ 64 then
    ⟨2 * t.seconds + carried, 2 * t.nanos % 1_000_000_000, h, Nat.mod_lt _ (by decide)⟩
  else longest

def atMost (t limit : Timespan) : Timespan :=
  if limit.seconds < t.seconds ∨ limit.seconds = t.seconds ∧ limit.nanos < t.nanos then limit else t

def duration (t : Timespan) : Duration := .ofParts t.seconds t.nanos

theorem total_le (t : Timespan) : t.total ≤ Duration.maxNanos := by
  have hs := t.seconds_lt
  have hn := t.nanos_lt
  unfold total Duration.maxNanos
  omega

theorem nanos_duration (t : Timespan) : t.duration.nanos = t.total := Nat.min_eq_left t.total_le

theorem eq_of_total {t u : Timespan} (h : t.total = u.total) : t = u := by
  have ht := t.nanos_lt
  have hu := u.nanos_lt
  unfold total at h
  ext
  · omega
  · omega

theorem total_double (t : Timespan) : t.double.total = min (2 * t.total) Duration.maxNanos := by
  have hn := t.nanos_lt
  unfold double Duration.maxNanos
  dsimp only
  split
  next h =>
    unfold total
    dsimp only
    omega
  next h =>
    unfold total longest
    dsimp only
    omega

theorem total_atMost (t limit : Timespan) : (t.atMost limit).total = min t.total limit.total := by
  have ht := t.nanos_lt
  have hl := limit.nanos_lt
  unfold atMost total
  split
  · omega
  · omega

end Timespan

namespace Duration

def timespan (d : Duration) : Timespan where
  seconds := d.seconds
  nanos := d.subsecNanos
  seconds_lt := by
    have h := d.le_max
    unfold seconds
    unfold maxNanos at h
    omega
  nanos_lt := Nat.mod_lt _ (by decide)

theorem total_timespan (d : Duration) : d.timespan.total = d.nanos := Nat.div_add_mod' d.nanos _

theorem timespan_duration (t : Timespan) : t.duration.timespan = t := by
  apply Timespan.eq_of_total
  rw [total_timespan, Timespan.nanos_duration]

theorem nanos_atMost (d limit : Duration) : (d.atMost limit).nanos = min d.nanos limit.nanos := by
  unfold atMost
  split
  · omega
  · omega

theorem eq_of_nanos {d d' : Duration} (h : d.nanos = d'.nanos) : d = d' := by
  cases d
  cases d'
  cases h
  rfl

theorem timespan_double (d : Duration) : d.double.timespan = d.timespan.double := by
  apply Timespan.eq_of_total
  rw [total_timespan, Timespan.total_double, total_timespan]
  rfl

theorem timespan_atMost (d limit : Duration) :
    (d.atMost limit).timespan = d.timespan.atMost limit.timespan := by
  apply Timespan.eq_of_total
  rw [total_timespan, Timespan.total_atMost, total_timespan, total_timespan, nanos_atMost]

end Duration

variable (b : Backoff)

theorem nanos_next (delay : Duration) : (b.next delay).nanos = min (2 * delay.nanos) b.max.nanos := by
  have hmax := b.max.le_max
  have hdouble : delay.double.nanos = min (2 * delay.nanos) Duration.maxNanos := rfl
  unfold Backoff.next
  rw [Duration.nanos_atMost, hdouble]
  omega

theorem iterate_next (k : Nat) : b.next^[k] b.min = b.delay k := by
  induction k with
  | zero => rfl
  | succ k ih => rw [Function.iterate_succ_apply', ih, Backoff.delay]

theorem timespan_delay (k : Nat) :
    (b.delay k).timespan = (fun t => t.double.atMost b.max.timespan)^[k] b.min.timespan := by
  induction k with
  | zero => rfl
  | succ k ih =>
    rw [Function.iterate_succ_apply', ← ih, Backoff.delay, Backoff.next, Duration.timespan_atMost,
      Duration.timespan_double]

/-- From the first failure on the longest delay is kept, even if the shortest one is longer. -/
theorem nanos_delay_succ (k : Nat) :
    (b.delay (k + 1)).nanos = min (b.min.nanos * 2 ^ (k + 1)) b.max.nanos := by
  induction k with
  | zero =>
    have hfirst := nanos_next b b.min
    rwa [Nat.mul_comm] at hfirst
  | succ k ih =>
    have hpow : b.min.nanos * 2 ^ (k + 1 + 1) = 2 * (b.min.nanos * 2 ^ (k + 1)) := by
      rw [Nat.pow_succ]
      ac_rfl
    rw [Backoff.delay, nanos_next, ih, hpow]
    omega

theorem nanos_delay_eq (k : Nat) : (b.delay k).nanos =
    if k = 0 then b.min.nanos else min (b.min.nanos * 2 ^ k) b.max.nanos := by
  cases k with
  | zero => rfl
  | succ k => exact nanos_delay_succ b k

variable {b}

theorem nanos_delay (h : b.min.nanos ≤ b.max.nanos) (k : Nat) :
    (b.delay k).nanos = min (b.min.nanos * 2 ^ k) b.max.nanos := by
  cases k with
  | zero =>
    rw [Nat.pow_zero, Nat.mul_one, Nat.min_eq_left h]
    rfl
  | succ k => exact nanos_delay_succ b k

theorem delay_le_max (h : b.min.nanos ≤ b.max.nanos) (k : Nat) :
    (b.delay k).nanos ≤ b.max.nanos := by
  rw [nanos_delay h]
  exact Nat.min_le_right ..

theorem delay_le_succ (h : b.min.nanos ≤ b.max.nanos) (k : Nat) :
    (b.delay k).nanos ≤ (b.delay (k + 1)).nanos := by
  have hmax := delay_le_max h k
  have hnext := nanos_next b (b.delay k)
  rw [Backoff.delay, hnext]
  omega

theorem min_le_delay (h : b.min.nanos ≤ b.max.nanos) (k : Nat) :
    b.min.nanos ≤ (b.delay k).nanos := by
  induction k with
  | zero => exact Nat.le_refl _
  | succ k ih => exact Nat.le_trans ih (delay_le_succ h k)

theorem delay_eq_max_of_le {k j : Nat} (hk : b.delay k = b.max) (hle : k ≤ j) :
    b.delay j = b.max := by
  induction hle with
  | refl => exact hk
  | step _ ih =>
    apply Duration.eq_of_nanos
    rw [Backoff.delay, nanos_next, ih]
    omega

theorem delay_succ_cases (b : Backoff) (k : Nat) :
    (b.delay (k + 1)).nanos = 2 * (b.delay k).nanos ∨ ∀ j, k < j → b.delay j = b.max := by
  have hnext : (b.delay (k + 1)).nanos = min (2 * (b.delay k).nanos) b.max.nanos :=
    nanos_next b (b.delay k)
  by_cases hle : 2 * (b.delay k).nanos ≤ b.max.nanos
  · exact .inl (hnext.trans (Nat.min_eq_left hle))
  · have hmax : b.delay (k + 1) = b.max :=
      Duration.eq_of_nanos (hnext.trans (Nat.min_eq_right (Nat.le_of_not_le hle)))
    exact .inr fun j hj => delay_eq_max_of_le hmax hj

/-- The delays between any two lengths of time. Their parts come from doubling with a carry and comparing
the seconds first; in nanoseconds they are the powers of two times the shortest, as long as the longest is
not exceeded. Each is the double of the one before, or the longest from there on. -/
theorem delay_closed_form (shortest longest : Timespan) :
    let b : Backoff := ⟨shortest.duration, longest.duration⟩
    (∀ k, b.next^[k] b.min = b.delay k ∧
      (b.delay k).timespan = (fun t => t.double.atMost longest)^[k] shortest ∧
      (b.delay k).nanos =
        if k = 0 then shortest.total else min (shortest.total * 2 ^ k) longest.total) ∧
    (∀ k, (b.delay (k + 1)).nanos = 2 * (b.delay k).nanos ∨ ∀ j, k < j → b.delay j = b.max) ∧
    (shortest.total ≤ longest.total → ∀ k,
      (b.delay k).nanos = min (shortest.total * 2 ^ k) longest.total ∧
      (b.delay k).nanos ≤ (b.delay (k + 1)).nanos ∧
      shortest.total ≤ (b.delay k).nanos ∧ (b.delay k).nanos ≤ longest.total) := by
  intro b
  have hmin : b.min.nanos = shortest.total := shortest.nanos_duration
  have hmax : b.max.nanos = longest.total := longest.nanos_duration
  refine ⟨fun k => ⟨iterate_next b k, ?_, ?_⟩, delay_succ_cases b, fun h k => ?_⟩
  · have hparts := timespan_delay b k
    rwa [Duration.timespan_duration, Duration.timespan_duration] at hparts
  · rw [← hmin, ← hmax]
    exact nanos_delay_eq b k
  · rw [← hmin, ← hmax] at h ⊢
    exact ⟨nanos_delay h k, delay_le_succ h k, min_le_delay h k, delay_le_max h k⟩

end OrderEntry

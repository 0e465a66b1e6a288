import OrderEntry.Retry

/-! The whole of a bounded retry, deed by deed. Each attempt comes right after its delay, and every failed
one is reported with that delay. The retry goes on like that until an attempt succeeds, none is left, or
the cancellation comes in a delay or in an attempt. -/

namespace OrderEntry

namespace Backoff

def Positive (b : Backoff) : Prop := 0 < b.min.nanos ∧ 0 < b.max.nanos

instance (b : Backoff) : Decidable b.Positive := inferInstanceAs (Decidable (_ ∧ _))

theorem Positive.delay {b : Backoff} (h : b.Positive) (k : Nat) : 0 < (b.delay k).nanos := by
  induction k with
  | zero => exact h.1
  | succ k ih =>
    have hdouble : 0 < (b.delay k).double.nanos := by
      unfold Duration.double Duration.ofNanos Duration.maxNanos
      dsimp only
      omega
    unfold Backoff.delay next Duration.atMost
    split
    · exact hdouble
    · exact h.2

end Backoff

theorem Retry.timer_pos {d : Duration} (h : 0 < d.nanos) : 0 < Retry.timer d := by
  unfold timer Duration.ceilMillis longestTimer
  omega

inductive RetryDeed (ε α : Type)
  | waits (delay : Duration)
  | dials (attempt : Nat)
  | reports (failure : FailedAttempt ε)
  | ends (outcome : RetryOutcome α)
  deriving DecidableEq, Repr

namespace RetryDeed

variable {ε α : Type}

def dialed? : RetryDeed ε α → Option Nat
  | dials attempt => some attempt
  | _ => none

def reported? : RetryDeed ε α → Option (FailedAttempt ε)
  | reports failure => some failure
  | _ => none

def ended? : RetryDeed ε α → Option (RetryOutcome α)
  | ends outcome => some outcome
  | _ => none

end RetryDeed

variable {ε α : Type}

def RetryPhase.deed : RetryPhase α → RetryDeed ε α
  | waiting _ delay => .waits delay
  | dialing attempt _ => .dials attempt
  | ended outcome => .ends outcome

def RetryRun.ofLog (log : List (RetryDeed ε α)) : RetryRun ε α where
  outcome := log.findSome? RetryDeed.ended?
  dialed := log.filterMap RetryDeed.dialed?
  failures := log.filterMap RetryDeed.reported?

def RetryScript.cause? (s : RetryScript ε α) (attempt : Nat) : Option ε :=
  match s.dial attempt with
  | some (.error cause) => some cause
  | _ => none

def RetryScript.FailsFirst (s : RetryScript ε α) (k : Nat) : Prop :=
  ∀ attempt, 1 ≤ attempt → attempt ≤ k → ∃ cause, s.dial attempt = some (.error cause)

theorem RetryScript.FailsFirst.of_succ {s : RetryScript ε α} {k : Nat} (h : s.FailsFirst (k + 1)) :
    s.FailsFirst k := fun attempt hpos hle => h attempt hpos (Nat.le_succ_of_le hle)

namespace Retry

def phaseEnd (s : RetryScript ε α) (now : Nat) : RetryPhase α → Nat
  | .waiting _ delay => now + timer delay
  | .dialing attempt _ => now + s.takes attempt
  | .ended _ => now

def logFrom (r : Retry) (s : RetryScript ε α) :
    (fuel : Nat) → RetryPhase α → (now : Nat) → List (RetryDeed ε α)
  | _, .ended outcome, _ => [.ends outcome]
  | 0, _, _ => []
  | fuel + 1, phase, now =>
    phase.deed :: match scriptedInput s now phase with
    | none => []
    | some input =>
      let (next, failure) := r.step phase input
      failure.toList.map .reports ++ r.logFrom s fuel next (phaseEnd s now phase)

def log (r : Retry) (s : RetryScript ε α) : List (RetryDeed ε α) :=
  r.logFrom s (2 * r.attempts) r.start 0

variable {r : Retry} {s : RetryScript ε α}

theorem play_eq (fuel : Nat) (phase : RetryPhase α) (now : Nat) :
    r.play s fuel phase now = .ofLog (r.logFrom s fuel phase now) := by
  induction fuel generalizing phase now with
  | zero => cases phase <;> rfl
  | succ fuel ih =>
    cases phase with
    | ended outcome => rfl
    | waiting attempt delay =>
      simp only [play, logFrom]
      cases scriptedInput s now (.waiting attempt delay) with
      | none => rfl
      | some input =>
        cases input with
        | dialed result => exact ih _ _
        | elapsed => exact ih _ _
        | cancelled => exact ih _ _
    | dialing attempt delay =>
      simp only [play, logFrom]
      cases scriptedInput s now (.dialing attempt delay) with
      | none => rfl
      | some input =>
        simp only [ih]
        cases input with
        | dialed result =>
          rcases result with cause | value
          · rfl
          · rfl
        | elapsed => rfl
        | cancelled => rfl

theorem run_eq : r.run s = .ofLog (r.log s) := play_eq _ _ _

theorem logFrom_ended (fuel : Nat) (outcome : RetryOutcome α) (now : Nat) :
    r.logFrom s fuel (.ended outcome) now = [.ends outcome] := by
  cases fuel <;> rfl

theorem logFrom_step {phase : RetryPhase α} {now : Nat} {input : RetryInput ε α}
    (h : scriptedInput s now phase = some input) (fuel : Nat) :
    r.logFrom s (fuel + 1) phase now = phase.deed ::
      ((r.step phase input).2.toList.map .reports ++
        r.logFrom s fuel (r.step phase input).1 (phaseEnd s now phase)) := by
  cases phase with
  | ended outcome => cases h
  | waiting attempt delay => simp only [logFrom, h]
  | dialing attempt delay => simp only [logFrom, h]

theorem logFrom_waiting (fuel attempt : Nat) (delay : Duration) (now : Nat) :
    r.logFrom s (fuel + 1) (.waiting attempt delay) now = .waits delay ::
      if s.cancellation.duringWait attempt (now + timer delay) then [.ends .cancelled]
      else r.logFrom s fuel (.dialing attempt delay) (now + timer delay) := by
  by_cases hc : s.cancellation.duringWait attempt (now + timer delay) = true
  · have hinput : scriptedInput s now (.waiting attempt delay) = some .cancelled := if_pos hc
    rw [logFrom_step hinput, if_pos hc, step, logFrom_ended]
    rfl
  · have hinput : scriptedInput s now (.waiting attempt delay) = some .elapsed := if_neg hc
    rw [logFrom_step hinput, if_neg hc]
    rfl

theorem logFrom_dialing (fuel attempt : Nat) (delay : Duration) (now : Nat) :
    r.logFrom s (fuel + 1) (.dialing attempt delay) now = .dials attempt ::
      if s.cancellation.duringAttempt attempt
        ((s.dial attempt).map fun _ => now + s.takes attempt) then [.ends .cancelled]
      else match s.dial attempt with
        | none => []
        | some (.ok value) => [.ends (.connected attempt value)]
        | some (.error cause) => .reports ⟨attempt, cause, delay⟩ ::
          r.logFrom s fuel (r.after attempt (r.backoff.next delay)) (now + s.takes attempt) := by
  by_cases hc : s.cancellation.duringAttempt attempt
      ((s.dial attempt).map fun _ => now + s.takes attempt) = true
  · have hinput : scriptedInput s now (.dialing attempt delay) = some .cancelled := if_pos hc
    rw [logFrom_step hinput, if_pos hc, step, logFrom_ended]
    rfl
  · have hinput : scriptedInput s now (.dialing attempt delay) = (s.dial attempt).map .dialed :=
      if_neg hc
    rw [if_neg hc]
    rcases hd : s.dial attempt with _ | cause | value
    · rw [hd] at hinput
      simp only [logFrom, hinput]
      rfl
    · rw [hd] at hinput
      rw [logFrom_step hinput]
      rfl
    · rw [hd] at hinput
      rw [logFrom_step hinput, step, logFrom_ended]
      rfl

/-! Rounds -/

def dialEnd (r : Retry) (s : RetryScript ε α) : Nat → Nat
  | 0 => 0
  | k + 1 => r.dialEnd s k + timer (r.backoff.delay k) + s.takes (k + 1)

def waitEnd (r : Retry) (s : RetryScript ε α) (k : Nat) : Nat :=
  r.dialEnd s k + timer (r.backoff.delay k)

theorem dialEnd_succ (k : Nat) : r.dialEnd s (k + 1) = r.waitEnd s k + s.takes (k + 1) := rfl

/-- The cancellation does not come before the first attempts have ended, so many of them. -/
def Spares (r : Retry) (s : RetryScript ε α) (k : Nat) : Prop :=
  match s.cancellation with
  | .never => True
  | .before => k = 0
  | .at t => r.dialEnd s k ≤ min t longestTimer
  | .duringDial attempt => attempt = 0 ∨ k ≤ attempt

theorem Spares.of_succ {k : Nat} (h : r.Spares s (k + 1)) : r.Spares s k := by
  have hend : r.dialEnd s k ≤ r.dialEnd s (k + 1) := by
    rw [dialEnd_succ, waitEnd]
    omega
  unfold Spares at h ⊢
  split at h
  · trivial
  · cases h
  · exact Nat.le_trans hend h
  · exact h.imp_right Nat.le_of_succ_le

theorem Spares.not_duringWait {k : Nat} (h : r.Spares s (k + 1)) :
    s.cancellation.duringWait (k + 1) (r.waitEnd s k) = false := by
  rw [Spares, dialEnd_succ] at h
  unfold Cancellation.duringWait
  cases hc : s.cancellation with
  | never => rfl
  | before => simp [hc] at h
  | «at» t =>
    simp only [hc] at h
    exact decide_eq_false (by omega)
  | duringDial attempt =>
    simp only [hc] at h
    simp only [Bool.and_eq_false_iff, decide_eq_false_iff_not]
    omega

theorem Spares.not_duringAttempt {k : Nat} (h : r.Spares s (k + 1)) :
    s.cancellation.duringAttempt (k + 1) (some (r.dialEnd s (k + 1))) = false := by
  unfold Spares at h
  unfold Cancellation.duringAttempt
  cases hc : s.cancellation with
  | never => rfl
  | before => rfl
  | «at» t =>
    simp only [hc] at h
    exact decide_eq_false (Nat.not_lt.mpr h)
  | duringDial attempt => rfl

def round (r : Retry) (s : RetryScript ε α) (k : Nat) : List (RetryDeed ε α) :=
  .waits (r.backoff.delay k) :: .dials (k + 1) ::
    (s.cause? (k + 1)).toList.map fun cause => .reports ⟨k + 1, cause, r.backoff.delay k⟩

def rounds (r : Retry) (s : RetryScript ε α) (k : Nat) : List (RetryDeed ε α) :=
  (List.range k).flatMap (r.round s)

theorem rounds_succ (k : Nat) : r.rounds s (k + 1) = r.rounds s k ++ r.round s k := by
  unfold rounds
  rw [List.range_succ, List.flatMap_append, List.flatMap_singleton]

def logAfter (r : Retry) (s : RetryScript ε α) (k : Nat) : List (RetryDeed ε α) :=
  r.logFrom s (2 * (r.attempts - k)) (r.after k (r.backoff.delay k)) (r.dialEnd s k)

theorem logAfter_last : r.logAfter s r.attempts = [.ends .exhausted] := by
  rw [logAfter, after, if_neg (Nat.lt_irrefl _), logFrom_ended]

section

variable {k : Nat} (hk : k < r.attempts)

include hk

theorem logAfter_eq :
    r.logAfter s k = .waits (r.backoff.delay k) ::
      if s.cancellation.duringWait (k + 1) (r.waitEnd s k) then [.ends .cancelled]
      else .dials (k + 1) ::
        if s.cancellation.duringAttempt (k + 1)
          ((s.dial (k + 1)).map fun _ => r.dialEnd s (k + 1)) then [.ends .cancelled]
        else match s.dial (k + 1) with
          | none => []
          | some (.ok value) => [.ends (.connected (k + 1) value)]
          | some (.error cause) =>
            .reports ⟨k + 1, cause, r.backoff.delay k⟩ :: r.logAfter s (k + 1) := by
  have hfuel : 2 * (r.attempts - k) = 2 * (r.attempts - (k + 1)) + 1 + 1 := by omega
  rw [logAfter, after, if_pos hk, hfuel, logFrom_waiting, logFrom_dialing]
  rfl

theorem logAfter_cancelled_waiting
    (h : s.cancellation.duringWait (k + 1) (r.waitEnd s k) = true) :
    r.logAfter s k = [.waits (r.backoff.delay k), .ends .cancelled] := by
  rw [logAfter_eq hk, if_pos h]

theorem logAfter_cancelled_dialing
    (hwait : s.cancellation.duringWait (k + 1) (r.waitEnd s k) = false)
    (hdial : s.cancellation.duringAttempt (k + 1)
      ((s.dial (k + 1)).map fun _ => r.dialEnd s (k + 1)) = true) :
    r.logAfter s k = [.waits (r.backoff.delay k), .dials (k + 1), .ends .cancelled] := by
  rw [logAfter_eq hk, hwait, if_pos hdial]
  rfl

theorem logAfter_connected {value : α} (h : r.Spares s (k + 1))
    (hd : s.dial (k + 1) = some (.ok value)) :
    r.logAfter s k = r.round s k ++ [.ends (.connected (k + 1) value)] := by
  have hdial := h.not_duringAttempt
  rw [logAfter_eq hk, h.not_duringWait, round, RetryScript.cause?, hd, Option.map_some, hdial]
  rfl

theorem logAfter_failed {cause : ε} (h : r.Spares s (k + 1))
    (hd : s.dial (k + 1) = some (.error cause)) :
    r.logAfter s k = r.round s k ++ r.logAfter s (k + 1) := by
  have hdial := h.not_duringAttempt
  rw [logAfter_eq hk, h.not_duringWait, round, RetryScript.cause?, hd, Option.map_some, hdial]
  rfl

end

theorem log_eq_rounds {k : Nat} (hk : k ≤ r.attempts) (hfail : s.FailsFirst k)
    (h : r.Spares s k) : r.log s = r.rounds s k ++ r.logAfter s k := by
  induction k with
  | zero => rfl
  | succ k ih =>
    obtain ⟨cause, hd⟩ := hfail (k + 1) (Nat.le_add_left 1 k) (Nat.le_refl _)
    rw [ih (Nat.le_of_succ_le hk) hfail.of_succ h.of_succ, logAfter_failed hk h hd, rounds_succ,
      List.append_assoc]

/-! The whole retry -/

/-- The cancellation comes in the delay after so many failures, or just as that delay begins. -/
def CancelledWaiting (r : Retry) (s : RetryScript ε α) (k : Nat) : Prop :=
  ∃ t, s.cancellation = .at t ∧ r.dialEnd s k ≤ min t longestTimer ∧
    min t longestTimer < r.waitEnd s k

def CancelledDialing (r : Retry) (s : RetryScript ε α) (k : Nat) : Prop :=
  s.cancellation = .duringDial (k + 1) ∧ s.dial (k + 1) = none ∨
    ∃ t, s.cancellation = .at t ∧ r.waitEnd s k ≤ min t longestTimer ∧
      (s.dial (k + 1) = none ∨ min t longestTimer < r.dialEnd s (k + 1))

/-- The cancellation comes just as this attempt ends. -/
def CancelledAtEnd (r : Retry) (s : RetryScript ε α) (k : Nat) : Prop :=
  s.cancellation = .duringDial k ∨
    ∃ t, s.cancellation = .at t ∧ min t longestTimer = r.dialEnd s k

theorem spares_of_never (h : s.cancellation = .never) (k : Nat) : r.Spares s k := by
  rw [Spares, h]
  trivial

theorem CancelledAtEnd.spares {k : Nat} (h : r.CancelledAtEnd s k) : r.Spares s k := by
  unfold Spares
  rcases h with hc | ⟨t, hc, ht⟩
  · rw [hc]
    exact .inr (Nat.le_refl k)
  · rw [hc]
    exact Nat.le_of_eq ht.symm

theorem log_exhausted (hfail : s.FailsFirst r.attempts) (h : r.Spares s r.attempts) :
    r.log s = r.rounds s r.attempts ++ [.ends .exhausted] := by
  rw [log_eq_rounds (Nat.le_refl _) hfail h, logAfter_last]

theorem log_cancelled_before (hc : s.cancellation = .before) (hpos : 0 < r.attempts) :
    r.log s = [.waits r.backoff.min, .ends .cancelled] := by
  have hduring : s.cancellation.duringWait 1 (r.waitEnd s 0) = true := by
    rw [hc]
    rfl
  exact logAfter_cancelled_waiting hpos hduring

section

variable {k : Nat} (hk : k < r.attempts) (hfail : s.FailsFirst k)

include hk hfail

theorem log_connected {value : α} (h : r.Spares s (k + 1))
    (hd : s.dial (k + 1) = some (.ok value)) :
    r.log s = r.rounds s (k + 1) ++ [.ends (.connected (k + 1) value)] := by
  rw [log_eq_rounds (Nat.le_of_lt hk) hfail h.of_succ, logAfter_connected hk h hd, rounds_succ,
    List.append_assoc]

theorem log_cancelled_waiting (h : r.CancelledWaiting s k) :
    r.log s = r.rounds s k ++ [.waits (r.backoff.delay k), .ends .cancelled] := by
  obtain ⟨t, hc, hstart, hend⟩ := h
  have hspares : r.Spares s k := by
    rw [Spares, hc]
    exact hstart
  have hduring : s.cancellation.duringWait (k + 1) (r.waitEnd s k) = true := by
    rw [hc]
    exact decide_eq_true hend
  rw [log_eq_rounds (Nat.le_of_lt hk) hfail hspares, logAfter_cancelled_waiting hk hduring]

theorem log_cancelled_dialing (h : r.CancelledDialing s k) :
    r.log s =
      r.rounds s k ++ [.waits (r.backoff.delay k), .dials (k + 1), .ends .cancelled] := by
  have hspares : r.Spares s k := by
    unfold Spares
    rcases h with ⟨hc, _⟩ | ⟨t, hc, ht, _⟩
    · rw [hc]
      exact .inr (Nat.le_succ k)
    · rw [hc]
      exact Nat.le_trans (Nat.le_add_right _ _) ht
  rw [log_eq_rounds (Nat.le_of_lt hk) hfail hspares]
  congr 1
  apply logAfter_cancelled_dialing hk
  · rcases h with ⟨hc, _⟩ | ⟨t, hc, ht, _⟩
    · simp [hc, Cancellation.duringWait]
    · rw [hc]
      exact decide_eq_false (Nat.not_lt.mpr ht)
  · rcases h with ⟨hc, hd⟩ | ⟨t, hc, _, hd⟩
    · rw [hc, hd]
      exact decide_eq_true rfl
    · rw [hc]
      cases hdial : s.dial (k + 1) with
      | none => rfl
      | some result =>
        have hlt := hd.resolve_left (by simp [hdial])
        exact decide_eq_true hlt

theorem log_cancelled_atEnd (hb : r.backoff.Positive) (hpos : 0 < k) (h : r.CancelledAtEnd s k) :
    r.log s = r.rounds s k ++ [.waits (r.backoff.delay k), .ends .cancelled] := by
  have hspares := h.spares
  rcases h with hc | ⟨t, hc, ht⟩
  · have hduring : s.cancellation.duringWait (k + 1) (r.waitEnd s k) = true := by
      simp [hc, Cancellation.duringWait, hpos]
    rw [log_eq_rounds (Nat.le_of_lt hk) hfail hspares, logAfter_cancelled_waiting hk hduring]
  · have htimer := timer_pos (hb.delay k)
    have hend : min t longestTimer < r.waitEnd s k := by
      rw [waitEnd, ht]
      omega
    exact log_cancelled_waiting hk hfail ⟨t, hc, Nat.le_of_eq ht.symm, hend⟩

end

/-- A retry makes its rounds in order until it ends in one of its ways. The attempt with whose end the
cancellation comes still counts. -/
theorem log_decided (r : Retry) (hb : r.backoff.Positive) (s : RetryScript ε α) :
    r.run s = .ofLog (r.log s) ∧
    (s.cancellation = .never → ∀ k, r.Spares s k) ∧
    (∀ k value, k < r.attempts → s.FailsFirst k → r.Spares s (k + 1) →
      s.dial (k + 1) = some (.ok value) →
        r.log s = r.rounds s (k + 1) ++ [.ends (.connected (k + 1) value)]) ∧
    (s.FailsFirst r.attempts → r.Spares s r.attempts →
      r.log s = r.rounds s r.attempts ++ [.ends .exhausted]) ∧
    (s.cancellation = .before → 0 < r.attempts →
      r.log s = [.waits r.backoff.min, .ends .cancelled]) ∧
    (∀ k, k < r.attempts → s.FailsFirst k → r.CancelledWaiting s k →
      r.log s = r.rounds s k ++ [.waits (r.backoff.delay k), .ends .cancelled]) ∧
    (∀ k, k < r.attempts → s.FailsFirst k → r.CancelledDialing s k →
      r.log s =
        r.rounds s k ++ [.waits (r.backoff.delay k), .dials (k + 1), .ends .cancelled]) ∧
    ∀ k, r.CancelledAtEnd s k → r.Spares s k ∧
      (0 < k → k < r.attempts → s.FailsFirst k →
        r.log s = r.rounds s k ++ [.waits (r.backoff.delay k), .ends .cancelled]) := by
  refine ⟨run_eq, spares_of_never, ?_, log_exhausted, log_cancelled_before, ?_, ?_, ?_⟩
  · intro k value hk hfail hspares hd
    exact log_connected hk hfail hspares hd
  · intro k hk hfail hc
    exact log_cancelled_waiting hk hfail hc
  · intro k hk hfail hc
    exact log_cancelled_dialing hk hfail hc
  · intro k hc
    refine ⟨hc.spares, ?_⟩
    intro hpos hk hfail
    exact log_cancelled_atEnd hk hfail hb hpos hc

def refusedOnce : RetryScript String Nat where
  dial attempt := some (if attempt = 1 then .error "refused" else .ok attempt)
  cancellation := .duringDial 2

theorem connected_after_refusal :
    let r : Retry := ⟨⟨.ofMillis 100, .ofMillis 150⟩, 3⟩
    r.backoff.Positive ∧
    r.log refusedOnce =
      [.waits (.ofMillis 100), .dials 1, .reports ⟨1, "refused", .ofMillis 100⟩,
        .waits (.ofMillis 150), .dials 2, .ends (.connected 2 2)] := by
  intro r
  have hb : r.backoff.Positive := by decide
  have hfail : refusedOnce.FailsFirst 1 := by
    intro attempt hpos hle
    have hone : attempt = 1 := by omega
    rw [hone]
    exact ⟨"refused", rfl⟩
  obtain ⟨_, _, hconnected, _, _, _, _, hend⟩ := log_decided r hb refusedOnce
  exact ⟨hb, hconnected 1 2 (by decide) hfail (hend 2 (.inl rfl)).1 rfl⟩

/-- With no attempt there is no delay in which a cancellation would be noticed. -/
theorem exhausted_though_cancelled_before :
    ¬∀ (r : Retry) (s : RetryScript String Nat), r.backoff.Positive → s.cancellation = .before →
      (r.run s).outcome = some .cancelled := by
  intro h
  have hc := h ⟨⟨.ofMillis 100, .ofMillis 150⟩, 0⟩ ⟨fun _ => none, fun _ => 0, .before⟩
    (by decide) rfl
  cases hc

end Retry
end OrderEntry

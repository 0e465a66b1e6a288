import OrderEntry.Backoff

/-! A bounded number of attempts to connect, each after a delay. The phases take their inputs one at a
time; a run plays them against a script of what the attempts give and of when the retry is
cancelled. The clock of a run goes in whole milliseconds: a delay is over at the first of them that is
not before its end. -/

namespace OrderEntry

inductive RetryOutcome (α : Type)
  | connected (attempt : Nat) (value : α)
  | cancelled
  | exhausted
  deriving DecidableEq, Repr

inductive RetryPhase (α : Type)
  | waiting (attempt : Nat) (delay : Duration)
  | dialing (attempt : Nat) (delay : Duration)
  | ended (outcome : RetryOutcome α)
  deriving DecidableEq, Repr

inductive RetryInput (ε α : Type)
  | elapsed
  | dialed (result : Except ε α)
  | cancelled

structure FailedAttempt (ε : Type) where
  attempt : Nat
  cause : ε
  waited : Duration
  deriving DecidableEq, Repr

structure Retry where
  backoff : Backoff
  attempts : Nat
  deriving DecidableEq, Repr

namespace Retry

variable {ε α : Type}

def ofConfig (c : Config) : Retry := ⟨.ofConfig c, c.maxReconnectAttempts⟩

def after (r : Retry) (failures : Nat) (delay : Duration) : RetryPhase α :=
  if failures < r.attempts then .waiting (failures + 1) delay else .ended .exhausted

def start (r : Retry) : RetryPhase α := r.after 0 r.backoff.min

def step (r : Retry) : RetryPhase α → RetryInput ε α → RetryPhase α × Option (FailedAttempt ε)
  | .waiting attempt delay, .elapsed => (.dialing attempt delay, none)
  | .waiting .., .cancelled => (.ended .cancelled, none)
  | .dialing .., .cancelled => (.ended .cancelled, none)
  | .dialing attempt _, .dialed (.ok value) => (.ended (.connected attempt value), none)
  | .dialing attempt delay, .dialed (.error cause) =>
    (r.after attempt (r.backoff.next delay), some ⟨attempt, cause, delay⟩)
  | phase, _ => (phase, none)

end Retry

/-- In milliseconds: thirty years of 365 days. A timer that is set for longer goes off then, and not only one
whose end the clock could not tell: runs with a delay of 946080001 s show that it is over with one of
946080000 s. A cancellation comes when such a timer goes off, too. -/
def Retry.longestTimer : Nat := 30 * 365 * 86400 * 1000

def Retry.timer (delay : Duration) : Nat := min delay.ceilMillis longestTimer

/-- When a retry is cancelled. Times are in milliseconds from its start, attempts are counted from one. -/
inductive Cancellation
  | never
  | before
  | at (time : Nat)
  /-- At the moment at which this attempt ends, if it ends by itself. -/
  | duringDial (attempt : Nat)
  deriving DecidableEq, Repr

namespace Cancellation

/-- It comes before the delay of this attempt is over at `time`. One that comes at the same moment is
too late for this delay. -/
def duringWait (c : Cancellation) (attempt time : Nat) : Bool :=
  match c with
  | never => false
  | before => true
  | .at t => min t Retry.longestTimer < time
  | duringDial k => 0 < k && k < attempt

/-- It comes while this attempt is under way, which ends by itself at `finish`, if ever. One that comes at
the same moment is too late for this attempt. -/
def duringAttempt (c : Cancellation) (attempt : Nat) (finish : Option Nat) : Bool :=
  match c, finish with
  | never, _ | before, _ => false
  | .at _, none => true
  | .at t, some time => min t Retry.longestTimer < time
  | duringDial k, none => k = attempt
  | duringDial _, some _ => false

end Cancellation

/-- An attempt without result never ends. The others take so many milliseconds. -/
structure RetryScript (ε α : Type) where
  dial : Nat → Option (Except ε α)
  takes : Nat → Nat := fun _ => 0
  cancellation : Cancellation := .never

/-- The record of a retry. One without outcome never ends. -/
structure RetryRun (ε α : Type) where
  outcome : Option (RetryOutcome α)
  dialed : List Nat
  failures : List (FailedAttempt ε)
  deriving Repr

namespace Retry

variable {ε α : Type}

def scriptedInput (s : RetryScript ε α) (now : Nat) : RetryPhase α → Option (RetryInput ε α)
  | .waiting attempt delay =>
    if s.cancellation.duringWait attempt (now + timer delay) then some .cancelled else some .elapsed
  | .dialing attempt _ =>
    let finish := (s.dial attempt).map fun _ => now + s.takes attempt
    if s.cancellation.duringAttempt attempt finish then some .cancelled
    else (s.dial attempt).map .dialed
  | .ended _ => none

def play (r : Retry) (s : RetryScript ε α) : (fuel : Nat) → RetryPhase α → (now : Nat) → RetryRun ε α
  | _, .ended outcome, _ => ⟨some outcome, [], []⟩
  | 0, _, _ => ⟨none, [], []⟩
  | fuel + 1, phase, now =>
    match scriptedInput s now phase with
    | none => match phase with
      | .dialing attempt _ => ⟨none, [attempt], []⟩
      | _ => ⟨none, [], []⟩
    | some input =>
      let (next, failure) := r.step phase input
      match phase with
      | .waiting _ delay => r.play s fuel next (now + timer delay)
      | .dialing attempt _ =>
        let rest := r.play s fuel next (now + s.takes attempt)
        { rest with dialed := attempt :: rest.dialed, failures := failure.toList ++ rest.failures }
      | .ended outcome => ⟨some outcome, [], []⟩

/-- The whole retry. Each attempt takes two phases, so the fuel suffices. -/
def run (r : Retry) (s : RetryScript ε α) : RetryRun ε α := r.play s (2 * r.attempts) r.start 0

end Retry
end OrderEntry

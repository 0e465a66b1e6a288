import OrderEntry.Session

/-! The calls that change the link in service: connect and reconnect, of which one at a time is under
way, shutdown, which may come at any moment, and the wait for a link that is up. A call goes through
phases; between two of them other tasks may take steps. -/

namespace OrderEntry

inductive Purpose
  | connect
  | reconnect
  deriving DecidableEq, Repr

def Purpose.announced : Purpose → ConnState
  | connect => .connecting
  | reconnect => .reconnecting

inductive OwnerPhase
  | announcing (purpose : Purpose) (seen : Option ConnState)
  | dialing
  | unlinking
  | closingOld (old : Option LinkId)
  | retrying (phase : RetryPhase LinkId)
  | installing (purpose : Purpose) (attempt : Nat) (link : LinkId)
  | closingReplaced (purpose : Purpose) (attempt : Nat) (old : Option LinkId)
  | confirming (purpose : Purpose) (attempt : Nat) (seen : Option ConnState)
  /-- A shutdown came first, so the new link is taken back. -/
  | withdrawing
  | closingWithdrawn (taken : Option LinkId)
  | fallingBack (cause : TransportError) (seen : Option ConnState)
  | givingUp (seen : Option ConnState)
  | ended (result : Except ClientError Nat)

namespace OwnerPhase

def start (purpose : Purpose) : OwnerPhase := announcing purpose none

def announce (p : Purpose) (seen : Option ConnState) (s : Session) : OwnerPhase × Session :=
  match s.exchange seen p.announced with
  | .refused => (ended (.error .closed), s)
  | .seen state => (announcing p (some state), s)
  | .moved s => (match p with | .connect => dialing | .reconnect => unlinking, s)

def dialed (outcome : DialOutcome) (s : Session) : OwnerPhase × Session :=
  match outcome.link s.config with
  | .error cause => (fallingBack cause none, s)
  | .ok l =>
    let (id, s) := s.addLink l
    (installing .connect 1 id, s)

def retried (phase : RetryPhase LinkId) (input : RetryInput TransportError LinkId) (s : Session) :
    OwnerPhase × Session :=
  match (Retry.ofConfig s.config).step phase input with
  | (phase, none) => (retrying phase, s)
  | (phase, some failure) =>
    (retrying phase, (s.count .errors).report (.reconnectFailed failure.attempt failure.cause))

def redialed (phase : RetryPhase LinkId) (outcome : DialOutcome) (s : Session) :
    OwnerPhase × Session :=
  match outcome.link s.config with
  | .error cause => retried phase (.dialed (.error cause)) s
  | .ok l =>
    let (id, s) := s.addLink l
    retried phase (.dialed (.ok id)) s

def confirm (p : Purpose) (attempt : Nat) (seen : Option ConnState) (s : Session) :
    OwnerPhase × Session :=
  match s.exchange seen .connected with
  | .refused => (withdrawing, s)
  | .seen state => (confirming p attempt (some state), s)
  | .moved s =>
    match p with
    | .connect => (ended (.ok attempt), s)
    | .reconnect =>
      let s := s.count .reconnects
      (ended (.ok attempt), { s with outputs := s.outputs.announceReconnect attempt })

def fallBack (cause : TransportError) (seen : Option ConnState) (s : Session) :
    OwnerPhase × Session :=
  match s.exchange seen .disconnected with
  | .refused => (ended (.error (.transport cause)), s)
  | .seen state => (fallingBack cause (some state), s)
  | .moved s => (ended (.error (.transport cause)), s)

def giveUp (seen : Option ConnState) (s : Session) : OwnerPhase × Session :=
  let result := ended (.error (.maxReconnects s.config.maxReconnectAttempts))
  match s.exchange seen .closed with
  | .refused => (result, s)
  | .seen state => (givingUp (some state), s)
  | .moved s => (result, s)

def step (phase : OwnerPhase) (input : TaskInput) (s : Session) : OwnerPhase × Session :=
  match phase, input with
  | announcing p seen, .proceed => announce p seen s
  | dialing, .dialed outcome => dialed outcome s
  | unlinking, .proceed =>
    let (old, s) := s.takeLink
    (closingOld old, s)
  | closingOld old, .proceed => (retrying (Retry.ofConfig s.config).start, s.closeLink old)
  | retrying (.waiting k d), .elapsed => retried (.waiting k d) .elapsed s
  | retrying (.dialing k d), .dialed outcome => redialed (.dialing k d) outcome s
  | retrying (.ended (.connected k id)), .proceed => (installing .reconnect k id, s)
  | retrying (.ended .cancelled), .proceed => (ended (.error .closed), s)
  | retrying (.ended .exhausted), .proceed => (givingUp none, s)
  | retrying phase, .cancelled =>
    if s.cancelled then retried phase .cancelled s else (retrying phase, s)
  | installing p k id, .proceed =>
    let (old, s) := s.replaceLink id
    (closingReplaced p k old, s)
  | closingReplaced p k old, .proceed => (confirming p k none, s.closeLink old)
  | confirming p k seen, .proceed => confirm p k seen s
  | withdrawing, .proceed =>
    let (taken, s) := s.takeLink
    (closingWithdrawn taken, s)
  | closingWithdrawn taken, .proceed => (ended (.error .closed), s.closeLink taken)
  | fallingBack cause seen, .proceed => fallBack cause seen s
  | givingUp seen, .proceed => giveUp seen s
  | phase, _ => (phase, s)

end OwnerPhase

inductive ShutdownPhase
  | storing
  | taking
  | closing (taken : Option LinkId)
  | done
  deriving DecidableEq, Repr

def ShutdownPhase.step (phase : ShutdownPhase) (s : Session) : ShutdownPhase × Session :=
  match phase with
  | storing => (taking, s.close)
  | taking =>
    let (taken, s) := s.takeLink
    (closing taken, s)
  | closing taken => (done, s.closeLink taken)
  | done => (done, s)

/-- A shutdown during which no other task takes a step. -/
def Session.shutDown (s : Session) : Session :=
  let (taken, s) := s.close.takeLink
  s.closeLink taken

inductive LinkWait
  | checking (checksLeft : Nat)
  | pausing (checksLeft : Nat)
  | found (link : LinkId)
  | missing
  deriving DecidableEq, Repr

namespace LinkWait

def pause : Duration := .ofMillis 50

def start (c : Config) : LinkWait := checking c.maxReconnectAttempts

def step (wait : LinkWait) (input : TaskInput) (s : Session) : LinkWait :=
  match wait, input with
  | checking 0, .proceed => missing
  | checking (left + 1), .proceed =>
    match s.live? with
    | some id => found id
    | none => if s.state = .closed then missing else pausing left
  | pausing left, .elapsed => checking left
  | pausing left, .cancelled => if s.cancelled then missing else pausing left
  | wait, _ => wait

end LinkWait
end OrderEntry

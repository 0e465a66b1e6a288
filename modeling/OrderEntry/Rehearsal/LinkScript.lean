import OrderEntry.Rehearsal.Schedule

/-! Scripts for the calls that change or use the link in service, without the two loops of a client. A
step is played to its end before the next one starts. -/

namespace OrderEntry

structure LinkRehearsal where
  session : Session
  peer : Peer
  /-- Nanoseconds since the start. -/
  clock : Nat := 0
  cancelAt : Option Nat := none

inductive LinkStep
  | peer (step : PeerStep)
  | connect
  | reconnect
  | cancel
  | cancelAfter (delay : Duration)
  | waitForLink
  | shutDown
  | takeErrors
  | takeReconnects
  | remote
  | read
  | write (command : Command) (limited : Bool)
  | markDown
  | closeLink

inductive LinkAnswer
  | done
  | peer (answer : PeerAnswer)
  | connected (result : Except ClientError Unit)
  | reconnected (result : Except ClientError Nat)
  | found (link : Bool)
  | errors (errors : List ClientError)
  | reconnects (attempts : List Nat)
  | remote (remote : Option String)
  | noLink
  | read (reading : Reading)
  | written (result : Except TransportError Unit)
  | stalled
  | timedOut

structure LinkStatus where
  state : ConnState
  connected : Bool
  linkUp : Option Bool
  counters : Counters
  deriving DecidableEq, Repr

namespace LinkRehearsal

def new (config : Config) (errorsCapacity : Nat) (peer : Peer) : LinkRehearsal :=
  { session := { Session.new config with outputs := .new errorsCapacity }, peer }

def status (r : LinkRehearsal) : LinkStatus where
  state := r.session.state
  connected := r.session.isConnected
  linkUp := r.session.current?.map Link.up
  counters := r.session.counters

def elapse (r : LinkRehearsal) (delay : Duration) : Bool × LinkRehearsal :=
  let next := r.clock + delay.nanos
  match r.cancelAt with
  | none => (true, { r with clock := next })
  | some time =>
    if next < time then (true, { r with clock := next })
    else
      (false, { r with clock := max time r.clock, cancelAt := none
                       session := { r.session with cancelled := true } })

def nextInput (r : LinkRehearsal) : Readiness → Option TaskInput × LinkRehearsal
  | .now input => (some input, r)
  | .blocked => (none, r)
  | .after delay input =>
    match r.elapse delay with
    | (true, r) => (some input, r)
    | (false, r) => (none, r)

def callWithin : Nat → OwnerPhase → LinkRehearsal → Option (Except ClientError Nat) × LinkRehearsal
  | _, .ended result, r => (some result, r)
  | 0, _, r => (none, r)
  | fuel + 1, phase, r =>
    match r.nextInput (phase.readiness r.peer r.session) with
    | (some input, r) =>
      let (phase, session) := phase.step input r.session
      callWithin fuel phase { r with session }
    | (none, r) => callWithin fuel phase r

/-- An attempt is a wait and a dial. One interruption and the other phases of a call are fewer than
twenty more. -/
def call (r : LinkRehearsal) (purpose : Purpose) : Option (Except ClientError Nat) × LinkRehearsal :=
  callWithin (2 * r.session.config.maxReconnectAttempts + 20) (.start purpose) r

def waitWithin : Nat → LinkWait → LinkRehearsal → Bool × LinkRehearsal
  | _, .found _, r => (true, r)
  | _, .missing, r => (false, r)
  | 0, _, r => (false, r)
  | fuel + 1, wait, r =>
    match r.nextInput (wait.readiness r.session) with
    | (some input, r) => waitWithin fuel (wait.step input r.session) r
    | (none, r) => waitWithin fuel wait r

def waitForLink (r : LinkRehearsal) : Bool × LinkRehearsal :=
  waitWithin (2 * r.session.config.maxReconnectAttempts + 2) (.start r.session.config) r

def waitInVain (r : LinkRehearsal) : LinkRehearsal := (r.elapse Rehearsal.patience).2

def act (action : PeerAction) (r : LinkRehearsal) : PeerAnswer × LinkRehearsal :=
  match r.peer.step r.session action with
  | some (answer, peer, session) => (answer, { r with peer, session })
  | none => (Peer.inVain action, r.waitInVain)

def read (r : LinkRehearsal) (id : LinkId) : LinkAnswer × LinkRehearsal :=
  match r.session.readLink id with
  | (some reading, session) => (.read reading, { r with session })
  | (none, session) => (.timedOut, { r with session }.waitInVain)

def write (r : LinkRehearsal) (id : LinkId) (command : Command) (limited : Bool) :
    LinkAnswer × LinkRehearsal :=
  if !(r.session.link? id).any Link.up then (.written (.error .notConnected), r)
  else match r.peer.carry r.session id command with
    | none => if limited then (.stalled, r) else (.timedOut, r.waitInVain)
    | some sent =>
      let (result, session) := r.session.sendLink id command sent
      (.written result, { r with session })

def onLink (r : LinkRehearsal) (use : LinkId → LinkAnswer × LinkRehearsal) :
    LinkAnswer × LinkRehearsal :=
  match r.session.slot with
  | none => (.noLink, r)
  | some id => use id

def play (step : LinkStep) (r : LinkRehearsal) : LinkAnswer × LinkRehearsal :=
  let session := r.session
  match step with
  | .peer step =>
    let (answer, r) := step.play act r
    (.peer answer, r)
  | .connect =>
    match r.call .connect with
    | (some result, r) => (.connected (result.map fun _ => ()), r)
    | (none, r) => (.timedOut, r)
  | .reconnect =>
    match r.call .reconnect with
    | (some result, r) => (.reconnected result, r)
    | (none, r) => (.timedOut, r)
  | .cancel => (.done, { r with session := { session with cancelled := true } })
  | .cancelAfter delay => (.done, { r with cancelAt := some (r.clock + delay.nanos) })
  | .waitForLink =>
    let (found, r) := r.waitForLink
    (.found found, r)
  | .shutDown => (.done, { r with session := session.shutDown })
  | .takeErrors =>
    let (items, errors) := session.outputs.errors.drain
    (.errors items, { r with session := { session with outputs := { session.outputs with errors } } })
  | .takeReconnects =>
    let (items, reconnects) := session.outputs.reconnects.drain
    (.reconnects items,
      { r with session := { session with outputs := { session.outputs with reconnects } } })
  | .remote => (.remote session.remote?, r)
  | .read => r.onLink r.read
  | .write command limited => r.onLink fun id => r.write id command limited
  | .markDown =>
    r.onLink fun id => (.done, { r with session := session.updateLink id Link.markDown })
  | .closeLink => r.onLink fun id => (.done, { r with session := session.closeLink (some id) })

def playAll : List LinkStep → LinkRehearsal → List (LinkAnswer × LinkStatus)
  | [], _ => []
  | step :: steps, r =>
    let (answer, r) := r.play step
    (answer, r.status) :: playAll steps r

end LinkRehearsal

def rehearseLink (config : Config) (errorsCapacity : Nat) (peer : Peer) (script : List LinkStep) :
    List (LinkAnswer × LinkStatus) :=
  LinkRehearsal.playAll script (.new config errorsCapacity peer)

end OrderEntry

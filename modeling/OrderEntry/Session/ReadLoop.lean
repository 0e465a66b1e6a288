import OrderEntry.FatalReport
import OrderEntry.Session.Supervision

/-! The task that reads from the link in service, hands its events to the consumer and restores the link
after a failure. Too many failures in a row, with no event between them, end the client. -/

namespace OrderEntry

/-- The failure with this number ends the client. -/
def maxConsecutiveErrors : Nat := 100

/-- `failures` counts the failed reads since the last event. -/
inductive ReaderPhase
  | idle
  | looking (failures : Nat)
  | waiting (failures : Nat) (wait : LinkWait)
  | reading (failures : Nat) (link : LinkId)
  | restoring (failures : Nat) (call : OwnerPhase)
  | tripping (call : ShutdownPhase)
  | submitting (error : ClientError)
  | reporting (error : ClientError) (report : FatalReport)
  | stopped

namespace ReaderPhase

def waited (failures : Nat) : LinkWait → ReaderPhase
  | .found id => reading failures id
  | .missing => stopped
  | wait => waiting failures wait

def look (failures : Nat) (s : Session) : ReaderPhase :=
  if s.cancelled then stopped
  else match s.live? with
    | some id => reading failures id
    | none => waiting failures (.start s.config)

def failed (failures : Nat) (id : LinkId) (e : ClientError) (s : Session) : ReaderPhase × Session :=
  let s := (s.count .errors).report e
  if maxConsecutiveErrors ≤ failures + 1 then (tripping .storing, s)
  else if s.config.reconnectEnabled then (restoring (failures + 1) (.start .reconnect), s)
  else (stopped, s.updateLink id Link.markDown)

def read (failures : Nat) (id : LinkId) (s : Session) : ReaderPhase × Session :=
  match s.readLink id with
  | (none, s) => (reading failures id, s)
  | (some (.ok (some event)), s) => (looking 0, s.accept event)
  | (some (.ok none), s) => failed failures id (.transport .peerClosed) s
  | (some (.error e), s) => failed failures id (.read e) s

def restored (failures : Nat) : Except ClientError Nat → ReaderPhase
  | .ok _ => looking failures
  | .error .closed => stopped
  | .error fatal => submitting fatal

def reportInput? : TaskInput → Option FatalReport.Input
  | .proceed => some .resumed
  | .elapsed => some .expired
  | .cancelled => some .cancelled
  | _ => none

def reported (e : ClientError) (r : FatalReport) (errors : Mailbox ClientError) (s : Session) :
    ReaderPhase × Session :=
  let s := { s with outputs := { s.outputs with errors } }
  match r with
  | .waiting | .granted => (reporting e r, s)
  | .delivered | .lost => (stopped, s)

def step (phase : ReaderPhase) (input : TaskInput) (s : Session) : ReaderPhase × Session :=
  match phase, input with
  | looking failures, .proceed => (look failures s, s)
  | waiting failures wait, input => (waited failures (wait.step input s), s)
  | reading failures id, .proceed => read failures id s
  | reading failures id, .cancelled => (if s.cancelled then stopped else reading failures id, s)
  | restoring failures (.ended result), .proceed => (restored failures result, s)
  | restoring failures call, input =>
    let (call, s) := call.step input s
    (restoring failures call, s)
  | tripping .done, .proceed => (submitting (.maxConsecutiveErrors maxConsecutiveErrors), s)
  | tripping call, .proceed =>
    let (call, s) := call.step s
    (tripping call, s)
  | submitting e, .proceed =>
    let (r, errors) := FatalReport.start s.outputs.errors e
    reported e r errors s
  | submitting e, .cancelled => (if s.cancelled then stopped else submitting e, s)
  | reporting e r, input =>
    match reportInput? input with
    | none => (reporting e r, s)
    | some .cancelled =>
      if s.cancelled then
        let (r, errors) := r.step .cancelled s.outputs.errors e
        reported e r errors s
      else (reporting e r, s)
    | some i =>
      let (r, errors) := r.step i s.outputs.errors e
      reported e r errors s
  | phase, _ => (phase, s)

/-- After an error was received, a report that waits for room may have it. -/
def afterReceive (phase : ReaderPhase) (s : Session) : ReaderPhase × Session :=
  match phase with
  | reporting e r =>
    let (r, errors) := r.grant s.outputs.errors
    (reporting e r, { s with outputs := { s.outputs with errors } })
  | phase => (phase, s)

end ReaderPhase
end OrderEntry

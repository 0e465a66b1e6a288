import OrderEntry.Outputs

/-! The report of a fatal error. Unlike other reports it waits for room in the error mailbox, for a
limited time. Room that a receive makes is set aside for it, so no later report can take it. -/

namespace OrderEntry

inductive FatalReport
  | waiting
  /-- There is room, and the report has not used it yet. -/
  | granted
  | delivered
  | lost
  deriving DecidableEq, Repr

namespace FatalReport

def patience : Duration := .ofMillis 1000

inductive Input
  | resumed
  | expired
  | cancelled
  deriving DecidableEq, Repr

/-- The report is offered before the client is told to stop, or the loop looks at the mailbox first; a loop that
sees the signal first ends without this step. -/
def start (errors : Mailbox ClientError) (e : ClientError) : FatalReport × Mailbox ClientError :=
  match errors.offer e with
  | .ok errors => (delivered, errors)
  | .error .full => (waiting, errors)
  | .error .closed => (lost, errors)

/-- Called after every receive from the error mailbox. -/
def grant (r : FatalReport) (errors : Mailbox ClientError) : FatalReport × Mailbox ClientError :=
  match r with
  | waiting =>
    if errors.free = 0 then (waiting, errors)
    else (granted, { errors with reserved := errors.reserved + 1 })
  | r => (r, errors)

/-- The room that was set aside is of no use once the receiver is gone. -/
def useRoom (errors : Mailbox ClientError) (e : ClientError) : FatalReport × Mailbox ClientError :=
  let reserved := errors.reserved - 1
  if errors.receiving then (delivered, { errors with items := errors.items.push e, reserved })
  else (lost, { errors with reserved })

/-- A report that was given room uses it even when its time is up at that moment. -/
def step (r : FatalReport) (i : Input) (errors : Mailbox ClientError) (e : ClientError) :
    FatalReport × Mailbox ClientError :=
  match r, i with
  | waiting, .resumed => if errors.receiving then (waiting, errors) else (lost, errors)
  | waiting, .expired => (lost, errors)
  | waiting, .cancelled => (lost, errors)
  | granted, .resumed => useRoom errors e
  | granted, .expired => useRoom errors e
  | granted, .cancelled => (lost, { errors with reserved := errors.reserved - 1 })
  | r, _ => (r, errors)

def unattended (cancelled : Bool) (errors : Mailbox ClientError) (e : ClientError) :
    Mailbox ClientError :=
  let (r, errors) := start errors e
  (r.step (if cancelled then .cancelled else .expired) errors e).2

/-- A report while one error is received, a given time after it was asked for. A receive without delay
comes first; one at the moment at which time is up still makes room. -/
def attended (cancelled : Bool) (delay : Duration) (errors : Mailbox ClientError) (e : ClientError) :
    Receipt ClientError × Mailbox ClientError :=
  if delay.isZero then
    let (receipt, errors) := errors.receive
    (receipt, unattended cancelled errors e)
  else if cancelled || decide (patience < delay) then (unattended cancelled errors e).receive
  else
    let (r, errors) := start errors e
    let (receipt, errors) := errors.receive
    let (r, errors) := r.grant errors
    (receipt, (r.step .resumed errors e).2)

end FatalReport
end OrderEntry

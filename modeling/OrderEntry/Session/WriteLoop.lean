import OrderEntry.Session

/-! The task that takes commands from the queue and writes each to the link in service. A command whose
write fails is reported and never tried again. -/

namespace OrderEntry

inductive WriterPhase
  | idle
  | waiting
  | holding (command : Command)
  | writing (command : Command) (link : LinkId)
  | stopped
  deriving DecidableEq, Repr

namespace WriterPhase

def wrote (result : Except TransportError Unit) (s : Session) : WriterPhase × Session :=
  match result with
  | .ok () => (waiting, s.count .sent)
  | .error e => (waiting, (s.count .errors).report (.write e))

def stop (s : Session) (queue : Mailbox Command) : WriterPhase × Session × Mailbox Command :=
  (stopped, s, queue.dropReceiver)

def step (phase : WriterPhase) (input : TaskInput) (s : Session) (queue : Mailbox Command) :
    WriterPhase × Session × Mailbox Command :=
  match phase, input with
  | waiting, .proceed =>
    match queue.receive with
    | (.item c, queue) => (holding c, s, queue)
    | (.empty, queue) => (waiting, s, queue)
    | (.closed, queue) => stop s queue
  | waiting, .cancelled => if s.cancelled then stop s queue else (waiting, s, queue)
  | holding c, .proceed =>
    -- only here is it looked at whether the link is up
    match s.live? with
    | some id => (writing c id, s, queue)
    | none =>
      let (phase, s) := wrote (.error .notConnected) s
      (phase, s, queue)
  | holding c, .cancelled =>
    if s.cancelled && s.slot.isSome then stop s queue else (holding c, s, queue)
  | writing c id, .sent result =>
    let (result, s) := s.sendLink id c result
    let (phase, s) := wrote result s
    (phase, s, queue)
  | writing c id, .cancelled => if s.cancelled then stop s queue else (writing c id, s, queue)
  | phase, _ => (phase, s, queue)

end WriterPhase
end OrderEntry

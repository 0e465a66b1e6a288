import OrderEntry.Client
import OrderEntry.Rehearsal.Peer

/-! When a task of a rehearsal can take its next step, and with what input. A task that was told to stop
notices it before anything else it waits for. Time passes only when nothing can happen at once. -/

namespace OrderEntry

inductive Readiness
  | now (input : TaskInput)
  | after (delay : Duration) (input : TaskInput)
  | blocked

def Readiness.unlessCancelled (s : Session) (r : Readiness) : Readiness :=
  if s.cancelled then .now .cancelled else r

def Peer.dialReadiness (p : Peer) (c : Config) : Readiness :=
  match p.dial c with
  | some outcome => .now (.dialed outcome)
  | none => .after c.connectTimeout (.dialed .expired)

def RetryPhase.readiness {α : Type} (p : Peer) (s : Session) : RetryPhase α → Readiness
  | waiting _ delay => Readiness.unlessCancelled s (.after delay .elapsed)
  | dialing .. => Readiness.unlessCancelled s (p.dialReadiness s.config)
  | ended _ => .now .proceed

def OwnerPhase.readiness (p : Peer) (s : Session) : OwnerPhase → Readiness
  | dialing => p.dialReadiness s.config
  | retrying phase => phase.readiness p s
  | ended _ => .blocked
  | _ => .now .proceed

/-- The first pause is over at once. -/
def LinkWait.readiness (s : Session) : LinkWait → Readiness
  | checking _ => .now .proceed
  | pausing left =>
    Readiness.unlessCancelled s
      (.after (if left + 1 = s.config.maxReconnectAttempts then .ofNanos 0 else pause) .elapsed)
  | found _ | missing => .blocked

def FatalReport.readiness (s : Session) : FatalReport → Readiness
  | waiting =>
    Readiness.unlessCancelled s <|
      if s.outputs.errors.receiving then .after patience .elapsed else .now .proceed
  | granted => Readiness.unlessCancelled s (.now .proceed)
  | delivered | lost => .blocked

def ReaderPhase.readiness (p : Peer) (s : Session) : ReaderPhase → Readiness
  | idle | stopped => .blocked
  | looking _ => .now .proceed
  | waiting _ wait => wait.readiness s
  | reading _ id =>
    Readiness.unlessCancelled s (if (s.readLink id).1.isSome then .now .proceed else .blocked)
  | restoring _ (.ended _) => .now .proceed
  | restoring _ call => call.readiness p s
  | tripping _ => .now .proceed
  | submitting _ => Readiness.unlessCancelled s (.now .proceed)
  | reporting _ report => report.readiness s

def WriterPhase.readiness (p : Peer) (s : Session) (queue : Mailbox Command) : WriterPhase → Readiness
  | idle | stopped => .blocked
  | waiting =>
    Readiness.unlessCancelled s (if queue.items.size = 0 then .blocked else .now .proceed)
  | holding _ => .now .proceed
  | writing c id =>
    Readiness.unlessCancelled s <| match p.carry s id c with
      | some result => .now (.sent result)
      | none => .blocked

def CloseCall.readiness (c : Client) : CloseCall → Readiness
  | joining loops => if loops && c.isRunning then .blocked else .now .proceed
  | shutting _ => .now .proceed
  | returned => .blocked

namespace Client

def connectingReadiness (c : Client) (p : Peer) : Readiness :=
  match c.connecting with
  | none => .blocked
  | some (.ended _) => .now .proceed
  | some phase => phase.readiness p c.session

def tasks (c : Client) (p : Peer) : List (Readiness × (TaskInput → Move)) :=
  [(c.connectingReadiness p, Move.connecting), (c.reader.readiness p c.session, Move.reader),
    (c.writer.readiness p c.session c.queue, Move.writer)] ++
    c.closes.zipIdx.map fun (call, n) => (call.readiness c, fun _ => .closing n)

def prompt? (c : Client) (p : Peer) : Option Move :=
  (c.tasks p).findSome? fun
    | (.now input, move) => some (move input)
    | _ => none

def timed? (c : Client) (p : Peer) : Option (Duration × Move) :=
  (c.tasks p).foldl (fun
    | some first, (.after delay input, move) =>
      if delay < first.1 then some (delay, move input) else some first
    | none, (.after delay input, move) => some (delay, move input)
    | first, _ => first) none

end Client

def Rehearsal.patience : Duration := .ofMillis 10000

/-- Looks for something after every change, until the time for it is over. `settle` does all that can
happen at once, `pass` lets time pass until something else can happen. -/
def lookFor {σ α : Type} (settle : σ → σ) (pass : σ → Option (Duration × σ))
    (look : σ → Option (α × σ)) : Nat → Duration → σ → Option α × σ
  | 0, _, s => (none, s)
  | fuel + 1, left, s =>
    let s := settle s
    match look s, pass s with
    | some (a, s), _ => (some a, s)
    | none, none => (none, s)
    | none, some (delay, later) =>
      if left < delay then (none, s)
      else lookFor settle pass look fuel (.ofNanos (left.nanos - delay.nanos)) later

end OrderEntry

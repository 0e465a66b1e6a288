import OrderEntry.CommandLine.Launch
import OrderEntry.Recording
import OrderEntry.Rehearsal.ClientScript

/-! Scripts for the whole program and its peer. The program connects before the first step; it takes
everything that its client delivers at once. -/

namespace OrderEntry

structure ProgramRehearsal where
  peer : Peer
  rehearsal : Option Rehearsal := none
  options : Options := {}
  /-- The newest line first. -/
  output : List String
  /-- Goes into the record file; the newest event first. -/
  events : List Event := []
  exitCode : Option UInt8 := none

inductive ProgramStep
  | peer (step : PeerStep)
  | expect (text : String)
  | interrupt

inductive ProgramAnswer
  | peer (answer : PeerAnswer)
  | seen (seen : Bool)
  | sent

structure ProgramReport where
  exitCode : Option UInt8
  output : List String
  answers : List ProgramAnswer
  recorded : Option (List String)

namespace ProgramRehearsal

def recordPath : String := "<rec>"

def log (p : ProgramRehearsal) (l : LogLine) : ProgramRehearsal :=
  { p with output := l.text :: p.output }

def exit (p : ProgramRehearsal) (code : UInt8) : ProgramRehearsal := { p with exitCode := some code }

def openRecord (p : ProgramRehearsal) : ProgramRehearsal :=
  match (p.options.value? .recordFile).map RecordPath.check with
  | some (.error e) => p.log (.recorderStopped e)
  | _ => p

def sendFlush (p : ProgramRehearsal) (r : Rehearsal) : ProgramRehearsal :=
  if !p.options.has .flush then { p with rehearsal := some r }
  else
    let (client, reply) := r.client.send .flush
    let p := { p with rehearsal := some { r with client } }
    match reply with
    | .result (.error e) => p.log (.fault .warn "flush not queued" e)
    | _ => p

def connect (p : ProgramRehearsal) (r : Rehearsal) : ProgramRehearsal :=
  match r.call .connect with
  | (some (.ok ()), r) =>
    let p := p.log (.connected r.client.session.remote?)
    (p.sendFlush r).openRecord
  | (some (.error e), r) =>
    ({ p with rehearsal := some r }.log (.fault .error "connect failed" e)).exit 1
  | (none, r) => { p with rehearsal := some r }

def start (arguments : List String) (env : Environment) (peer : Peer) : ProgramRehearsal :=
  match Launch.start arguments env with
  | .refused _ => { peer, output := [], exitCode := some Launch.refusedCode }
  | .done code output => { peer, output := output.reverse, exitCode := some code }
  | .ready options client output =>
    { peer, options, output := output.reverse : ProgramRehearsal }.connect { client, peer }

def consume (p : ProgramRehearsal) (d : Delivery) : ProgramRehearsal :=
  let p := p.log (.ofDelivery d)
  match d with
  | .event e => { p with events := e :: p.events }
  | _ => p

def deliver? (r : Rehearsal) (channel : Channel) : Option (Delivery × Rehearsal) :=
  match r.receive channel with
  | (.item d, r) => some (d, r)
  | _ => none

def settleWithin : Nat → Rehearsal → ProgramRehearsal → ProgramRehearsal
  | 0, _, p => p
  | fuel + 1, r, p =>
    let r := r.settle
    match Channel.all.findSome? (deliver? r) with
    | some (d, r) => settleWithin fuel r (p.consume d)
    | none => { p with rehearsal := some r }

def settle (p : ProgramRehearsal) : ProgramRehearsal :=
  match p.rehearsal, p.exitCode with
  | some r, none => settleWithin Rehearsal.maxMoves r p
  | _, _ => p

def pass (p : ProgramRehearsal) : Option (Duration × ProgramRehearsal) :=
  match p.rehearsal, p.exitCode with
  | some r, none => r.pass.map fun (delay, r) => (delay, { p with rehearsal := some r })
  | _, _ => none

def wait {α : Type} (look : ProgramRehearsal → Option (α × ProgramRehearsal))
    (p : ProgramRehearsal) : Option α × ProgramRehearsal :=
  lookFor settle pass look Rehearsal.maxMoves Rehearsal.patience p

def close (p : ProgramRehearsal) (r : Rehearsal) : ProgramRehearsal :=
  let p := p.log .interrupted
  let (_, r) := r.call .close
  ({ p with rehearsal := some r }.log (.goodbye r.client.session.counters)).exit 0

def interrupt (p : ProgramRehearsal) : ProgramRehearsal :=
  match p.rehearsal, p.exitCode with
  | some r, none => p.close r
  | _, _ => p

def actAlone (action : PeerAction) (p : ProgramRehearsal) : PeerAnswer × ProgramRehearsal :=
  match p.peer.step (.new {}) action with
  | some (answer, peer, _) => (answer, { p with peer })
  | none => (Peer.inVain action, p)

def act (action : PeerAction) (p : ProgramRehearsal) : PeerAnswer × ProgramRehearsal :=
  let look (p : ProgramRehearsal) := do
    let r ← p.rehearsal
    let (answer, peer, session) ← r.peer.step r.client.session action
    return (answer, { p with rehearsal := some { r with peer, client := { r.client with session } } })
  if p.rehearsal.isNone then p.actAlone action
  else match p.wait look with
    | (some answer, p) => (answer, p)
    | (none, p) => (Peer.inVain action, p)

def play (step : ProgramStep) (p : ProgramRehearsal) : ProgramAnswer × ProgramRehearsal :=
  let p := p.settle
  match step with
  | .peer step =>
    let (answer, p) := step.play act p
    (.peer answer, p)
  | .expect text =>
    let look (p : ProgramRehearsal) :=
      if p.output.any (·.contains text) then some ((), p) else none
    let (found, p) := p.wait look
    (.seen found.isSome, p)
  | .interrupt => (.sent, p.interrupt)

def playAll : List ProgramStep → ProgramRehearsal → List ProgramAnswer × ProgramRehearsal
  | [], p => ([], p.settle)
  | step :: steps, p =>
    let (answer, p) := p.play step
    let (answers, p) := p.playAll steps
    (answer :: answers, p)

def recorded (p : ProgramRehearsal) : Option (List String) :=
  if p.options.value? .recordFile = some recordPath ∧
      p.rehearsal.any (fun r => !r.client.queueHeld) then
    some (p.events.reverse.map fun e => String.ofList (Record.json ⟨0, e⟩))
  else none

end ProgramRehearsal

def isHeartbeat (line : String) : Bool := line.contains s!"{programName}: heartbeat "

/-- A carriage return before the newline belongs to the end of the line. -/
def outputLines (text : String) : List String :=
  (text.splitOn "\n").map fun line =>
    if line.endsWith "\r" then (line.dropEnd 1).toString else line

def rehearseProgram (arguments : List String) (env : Environment) (peer : Peer)
    (script : List ProgramStep) : ProgramReport :=
  let (answers, p) := ProgramRehearsal.playAll script (.start arguments env peer)
  { exitCode := p.exitCode
    output := (p.output.reverse.flatMap outputLines).filter (!isHeartbeat ·)
    answers
    recorded := p.recorded }

end OrderEntry

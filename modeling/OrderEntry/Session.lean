import OrderEntry.ConnState
import OrderEntry.Counters
import OrderEntry.Dial
import OrderEntry.Outputs
import OrderEntry.Retry

/-! What the tasks of one client share: the connection state, the slot of the link in service, the links
opened so far, the counters, the outputs and the signal to stop. Every function here is one
indivisible step. -/

namespace OrderEntry

structure Session where
  config : Config
  state : ConnState := .disconnected
  slot : Option LinkId := none
  links : List Link := []
  counters : Counters := {}
  outputs : Outputs
  cancelled : Bool := false
  deriving Repr

inductive TaskInput
  | proceed
  | elapsed
  | cancelled
  | dialed (outcome : DialOutcome)
  | sent (result : Except String Unit)

namespace Session

def new (config : Config) : Session := { config, outputs := .new config.channelCapacity }

def count (s : Session) (k : Counter) : Session := { s with counters := s.counters.increment k }

def report (s : Session) (e : ClientError) : Session := { s with outputs := s.outputs.report e }

/-- A change of the state depends on the state seen before it, which may be out of date by then. -/
inductive Exchange
  | refused
  | seen (state : ConnState)
  | moved (s : Session)

def exchange (s : Session) (seen : Option ConnState) (next : ConnState) : Exchange :=
  if s.state = .closed then .refused
  else if seen = some s.state then .moved { s with state := next }
  else .seen s.state

def link? (s : Session) (id : LinkId) : Option Link := s.links[id]?

def current? (s : Session) : Option Link := s.slot.bind s.link?

def live? (s : Session) : Option LinkId :=
  s.slot.filter fun id => (s.link? id).any Link.up

def isConnected (s : Session) : Bool := s.state == .connected && s.live?.isSome

def remote? (s : Session) : Option String := s.current?.map Link.remote

def updateLink (s : Session) (id : LinkId) (f : Link → Link) : Session :=
  { s with links := s.links.modify id f }

def addLink (s : Session) (l : Link) : LinkId × Session :=
  (s.links.length, { s with links := s.links ++ [l] })

def replaceLink (s : Session) (id : LinkId) : Option LinkId × Session :=
  (s.slot, { s with slot := some id })

def takeLink (s : Session) : Option LinkId × Session := (s.slot, { s with slot := none })

def closeLink (s : Session) : Option LinkId → Session
  | some id => s.updateLink id Link.close
  | none => s

def close (s : Session) : Session := { s with state := .closed }

def readLink (s : Session) (id : LinkId) : Option Reading × Session :=
  match s.link? id with
  | none => (none, s)
  | some l =>
    let (reading, l) := l.read
    (reading, s.updateLink id fun _ => l)

def sendLink (s : Session) (id : LinkId) (c : Command) (sent : Except String Unit) :
    Except TransportError Unit × Session :=
  match s.link? id with
  | none => (.error .notConnected, s)
  | some l =>
    let (result, l) := l.send c sent
    (result, s.updateLink id fun _ => l)

def accept (s : Session) (e : Event) : Session :=
  let (outputs, accepted) := s.outputs.dispatch e
  let s := { s with outputs }.count .received
  if accepted then s else s.count .dropped

end Session
end OrderEntry

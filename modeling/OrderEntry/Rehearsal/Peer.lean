import OrderEntry.Session

/-! The other side of a rehearsal: a server that a script directs, and the network on the way to it.
The session numbers the links; the peer knows them by these numbers. -/

namespace OrderEntry

inductive Reception
  | accepting
  | full
  | stopped
  deriving DecidableEq, Repr

structure Peer where
  transport : Transport
  routed : Bool
  reception : Reception := .accepting
  nextLink : LinkId := 0
  link : Option LinkId := none
  /-- How much the peer has received: bytes of the accepted link, or datagrams of all links. -/
  received : Nat := 0
  deriving DecidableEq, Repr

inductive PeerAction
  | accept
  | send (data : Bytes)
  | receive (count : Nat)
  | receiveToEnd
  | close
  | reset
  | stop
  | listen
  | fill

inductive PeerStep
  | act (action : PeerAction)
  | serve (conversations : List Bytes)

inductive PeerAnswer
  | done
  | accepted
  | nothingToAccept
  | noConnection
  | noSender
  | timedOut
  | received (data : Bytes)
  | listening
  | filled (full : Bool)
  | served (conversations : Nat)
  deriving DecidableEq, Repr

namespace Peer

def loopback : Host := .ipv4 (0x7f000001)

def endpoint : Endpoint := ⟨loopback, 48391⟩

def address : String := endpoint.text

def unreachable : String := "Network is unreachable (os error 101)"

def resetByPeer : String := "Connection reset by peer (os error 104)"

def tooLong : String := "Message too long (os error 90)"

def maxDatagram : Nat := 65507

def notAvailable : String := "Cannot assign requested address (os error 99)"

def invalidArgument : String := "Invalid argument (os error 22)"

/-- What a host without a route answers when a link is opened. An address of 128 bits lacks a source
address first, unless it stands for one of 32 bits. A group of hosts cannot be the other end of a
stream. What only means something on one interface needs a zone. -/
def unrouted (transport : Transport) : Host → String
  | .ipv6 groups zone =>
    if (Host.mapped? groups).isSome || (Host.isMulticast groups && transport == .tcp) then unreachable
    else if Host.isInterfaceLocal groups && zone == 0 then invalidArgument
    else notAvailable
  | _ => unreachable

/-- The address of a host. No names are known but the one of the client's own host, and nobody can be
asked for others. -/
def lookUp : Host → Except String Host
  | .name text =>
    if text.map Char.toLower == "localhost".toList then .ok loopback
    else .error <| "failed to lookup address information: " ++
      if Host.isName text then "Temporary failure in name resolution"
      else "Name or service not known"
  | host => .ok host

/-- How many bytes the network takes in on one link before the peer receives some. -/
def window : Nat := 0x400000

def dial (p : Peer) (c : Config) : Option DialOutcome :=
  match Endpoint.parse c.dialAddress with
  | .error e => some (.unresolved e.message)
  | .ok e =>
    match lookUp e.host with
    | .error cause => some (.unresolved cause)
    | .ok host =>
      let remote : Endpoint := ⟨host, e.service⟩
      if !p.routed then some (.failed (unrouted c.transport host))
      else if c.transport == .udp then some (.opened remote.text)
      else if remote != endpoint then some (.failed refusal)
      else match p.reception with
        | .accepting => some (.opened remote.text)
        | .full => none
        | .stopped => some (.failed refusal)

def writtenBytes (s : Session) (id : LinkId) : Bytes :=
  ((s.link? id).map fun l => l.written.toList.flatten).getD []

def writtenDatagrams (s : Session) : List (Bytes × LinkId) :=
  s.links.zipIdx.flatMap fun (l, id) => l.written.toList.map (·, id)

def backlog (p : Peer) (s : Session) (id : LinkId) : Nat :=
  (writtenBytes s id).length - if p.link = some id then p.received else 0

def carry (p : Peer) (s : Session) (id : LinkId) (c : Command) : Option (Except String Unit) :=
  match s.link? id with
  | none => some (.ok ())
  | some l =>
    let size := match c.frame l.format with
      | .ok bytes => bytes.length
      | .error _ => 0
    match l.transport with
    | .udp => if maxDatagram < size then some (.error tooLong) else some (.ok ())
    | .tcp => if p.backlog s id + size ≤ window then some (.ok ()) else none

def deliver (s : Session) (id : LinkId) (a : Arrival) : Session := s.updateLink id (·.arrive a)

/-- No bytes would end a stream, so none arrive. -/
def sendBytes (s : Session) (id : LinkId) (data : Bytes) : Session :=
  if data.isEmpty then s else deliver s id (.bytes data)

def hangUp (p : Peer) (s : Session) (a : Arrival) : Peer × Session :=
  match p.link with
  | none => (p, s)
  | some id => ({ p with link := none }, deliver s id a)

def turnAway (p : Peer) (s : Session) : Peer × Session :=
  let waiting := List.range' p.nextLink (s.links.length - p.nextLink)
  ({ p with nextLink := s.links.length },
    waiting.foldl (fun s id => deliver s id (.failed resetByPeer)) s)

def stepStream (p : Peer) (s : Session) : PeerAction → Option (PeerAnswer × Peer × Session)
  | .accept =>
    if p.nextLink < s.links.length then
      let (p, s) := p.hangUp s (.bytes [])
      some (.accepted, { p with nextLink := p.nextLink + 1, link := some p.nextLink, received := 0 }, s)
    else none
  | .send data => some <| match p.link with
    | none => (.noConnection, p, s)
    | some id => (.done, p, sendBytes s id data)
  | .receive count =>
    match p.link with
    | none => some (.noConnection, p, s)
    | some id =>
      let unread := (writtenBytes s id).drop p.received
      if unread.length < count then none
      else some (.received (unread.take count), { p with received := p.received + count }, s)
  | .receiveToEnd =>
    match p.link with
    | none => some (.noConnection, p, s)
    | some id =>
      let unread := (writtenBytes s id).drop p.received
      if !(s.link? id).any Link.shut then none
      else some (.received unread, { p with received := p.received + unread.length }, s)
  | .close => some (.done, p.hangUp s (.bytes []))
  | .reset => some (.done, p.hangUp s (.failed resetByPeer))
  | .stop =>
    let (p, s) := p.turnAway s
    some (.done, { p with reception := .stopped }, s)
  | .listen => some (.listening, { p with reception := .accepting }, s)
  | .fill => some (.filled p.routed, { p with reception := .full }, s)

def stepDatagrams (p : Peer) (s : Session) : PeerAction → Option (PeerAnswer × Peer × Session)
  | .accept => some (.nothingToAccept, p, s)
  | .send data => some <| match p.link with
    | none => (.noSender, p, s)
    | some id => (.done, p, deliver s id (.bytes data))
  | .receive _ | .receiveToEnd =>
    match (writtenDatagrams s)[p.received]? with
    | none => none
    | some (data, id) =>
      some (.received data, { p with link := some id, received := p.received + 1 }, s)
  | .close | .reset => some (.done, p, s)
  | .stop => some (.done, { p with reception := .stopped }, s)
  | .listen =>
    some (.listening, { p with reception := .accepting, received := (writtenDatagrams s).length }, s)
  | .fill => some (.filled false, p, s)

def step (p : Peer) (s : Session) (action : PeerAction) : Option (PeerAnswer × Peer × Session) :=
  match p.transport with
  | .tcp => p.stepStream s action
  | .udp => p.stepDatagrams s action

def inVain : PeerAction → PeerAnswer
  | .accept => .nothingToAccept
  | _ => .timedOut

end Peer

def converse {α : Type} (act : PeerAction → α → PeerAnswer × α) :
    List Bytes → Nat → α → PeerAnswer × α
  | [], count, a => (.served count, a)
  | data :: conversations, count, a =>
    match act .accept a with
    | (.accepted, a) =>
      let (_, a) := act (.send data) a
      let (_, a) := act .close a
      converse act conversations (count + 1) a
    | (_, a) => (.served count, a)

def PeerStep.play {α : Type} (act : PeerAction → α → PeerAnswer × α) : PeerStep → α → PeerAnswer × α
  | .act action => act action
  | .serve conversations => converse act conversations 0

end OrderEntry

import OrderEntry.Rehearsal.Schedule

/-! Scripts for a client and its peer. Between two steps the tasks of the client do all that they can do
at once; time passes only in a step that waits. -/

namespace OrderEntry

structure Rehearsal where
  client : Client
  peer : Peer
  taken : Bool := false
  result : Option (Except ClientError Unit) := none

inductive Condition
  | counter (counter : Counter) (value : Nat)
  | state (state : ConnState)
  | connected (connected : Bool)
  deriving DecidableEq, Repr

inductive ClientStep
  | peer (step : PeerStep)
  | connect
  | close
  | send (command : Command) (times : Nat)
  | take
  | dropChannels
  | receive (channel : Channel)
  | tryReceive (channel : Channel)
  | drain (channel : Channel)
  | state
  | remote
  | config
  | wait (condition : Condition)

inductive ClientAnswer
  | done
  | peer (answer : PeerAnswer)
  | results (results : List (Except ClientError Unit))
  | taken (first : Bool)
  | receipt (receipt : Receipt Delivery)
  | drained (items : List Delivery) (closed : Bool)
  | state (state : ConnState) (connected : Bool) (counters : Counters)
  | remote (remote : Option String)
  | config (config : Config)
  | reached (reached : Bool)
  | timedOut

namespace Rehearsal

def new (config : Config) (peer : Peer) : Except ConfigError Rehearsal :=
  return { client := ← Client.new config, peer }

/-- A limit to the number of moves, far above what one step takes. -/
def maxMoves : Nat := 1_000_000

def move (r : Rehearsal) (m : Move) : Rehearsal :=
  match r.client.step m with
  | (client, .result result) => { r with client, result := some result }
  | (client, _) => { r with client }

def settleWithin : Nat → Rehearsal → Rehearsal
  | 0, r => r
  | fuel + 1, r =>
    match r.client.prompt? r.peer with
    | some m => settleWithin fuel (r.move m)
    | none => r

def settle (r : Rehearsal) : Rehearsal := settleWithin maxMoves r

def pass (r : Rehearsal) : Option (Duration × Rehearsal) :=
  (r.client.timed? r.peer).map fun (delay, m) => (delay, r.move m)

def wait {α : Type} (limit : Duration) (look : Rehearsal → Option (α × Rehearsal)) (r : Rehearsal) :
    Option α × Rehearsal :=
  lookFor settle pass look maxMoves limit r

def act (action : PeerAction) (r : Rehearsal) : PeerAnswer × Rehearsal :=
  let look (r : Rehearsal) := (r.peer.step r.client.session action).map fun (answer, peer, session) =>
    (answer, { r with peer, client := { r.client with session } })
  match r.wait patience look with
  | (some answer, r) => (answer, r)
  | (none, r) => (Peer.inVain action, r)

def call (r : Rehearsal) (m : Move) : Option (Except ClientError Unit) × Rehearsal :=
  let look (r : Rehearsal) := r.result.map (·, r)
  { r with result := none }.move m |>.wait (.ofNanos Duration.maxNanos) look

def callAnswer : Option (Except ClientError Unit) → ClientAnswer
  | some result => .results [result]
  | none => .timedOut

def send (command : Command) : Nat → Client → List (Except ClientError Unit) × Client
  | 0, c => ([], c)
  | times + 1, c =>
    let (c, reply) := c.send command
    let (results, c) := send command times c
    match reply with
    | .result result => (result :: results, c)
    | _ => (results, c)

def receive (channel : Channel) (r : Rehearsal) : Receipt Delivery × Rehearsal :=
  match r.client.receive channel with
  | (client, .receipt receipt) => (receipt, { r with client })
  | (client, _) => (.empty, { r with client })

def receiveSome (channel : Channel) (r : Rehearsal) : Option (Receipt Delivery × Rehearsal) :=
  match r.receive channel with
  | (.empty, _) => none
  | received => some received

def drain (channel : Channel) : Nat → Rehearsal → List Delivery × Bool × Rehearsal
  | 0, r => ([], false, r)
  | fuel + 1, r =>
    match r.receive channel with
    | (.empty, r) => ([], false, r)
    | (.closed, r) => ([], true, r)
    | (.item item, r) =>
      let (items, closed, r) := drain channel fuel r
      (item :: items, closed, r)

def holds (c : Condition) (r : Rehearsal) : Bool :=
  match c with
  | .counter k value => (r.client.session.counters.get k).toNat = value
  | .state state => r.client.session.state = state
  | .connected connected => r.client.session.isConnected = connected

def play (step : ClientStep) (r : Rehearsal) : ClientAnswer × Rehearsal :=
  let r := r.settle
  let session := r.client.session
  match step with
  | .peer step =>
    let (answer, r) := step.play act r
    (.peer answer, r)
  | .connect =>
    let (result, r) := r.call .connect
    (callAnswer result, r)
  | .close =>
    let (result, r) := r.call .close
    (callAnswer result, r)
  | .send command times =>
    let (results, client) := send command times r.client
    (.results results, { r with client })
  | .take => (.taken (!r.taken), { r with taken := true })
  | .dropChannels => (.done, Channel.all.foldl (fun r channel => r.move (.dropReceiver channel)) r)
  | .receive channel =>
    match r.wait patience (receiveSome channel) with
    | (some receipt, r) => (.receipt receipt, r)
    | (none, r) => (.timedOut, r)
  | .tryReceive channel =>
    let (receipt, r) := r.receive channel
    (.receipt receipt, r)
  | .drain channel =>
    let (items, closed, r) := r.drain channel maxMoves
    (.drained items closed, r)
  | .state => (.state session.state session.isConnected session.counters, r)
  | .remote => (.remote session.remote?, r)
  | .config => (.config session.config, r)
  | .wait condition =>
    let look (r : Rehearsal) := if r.holds condition then some ((), r) else none
    match r.wait patience look with
    | (reached, r) => (.reached reached.isSome, r)

def playAll : List ClientStep → Rehearsal → List ClientAnswer
  | [], _ => []
  | step :: steps, r =>
    let (answer, r) := r.play step
    answer :: playAll steps r

end Rehearsal

def rehearseClient (config : Config) (peer : Peer) (script : List ClientStep) :
    Except ConfigError (List ClientAnswer) :=
  return Rehearsal.playAll script (← Rehearsal.new config peer)

end OrderEntry

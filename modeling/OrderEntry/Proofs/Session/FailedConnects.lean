import OrderEntry.Proofs.Session.Stopping

/-! Connects that fail. Until a dial succeeds, a call to connect changes the state of the session and nothing
else, and nothing else that happens has anything to do with the call: a run falls apart into the moves of
the calls and all others. -/

namespace OrderEntry

def Move.isConnect : Move → Bool
  | .connect | .connecting _ => true
  | _ => false

/-- Neither a close nor a dial that succeeds. -/
def Move.isUnlucky : Move → Bool
  | .close | .connecting (.dialed (.opened _)) => false
  | _ => true

namespace Client

structure Fresh (config : Config) (c : Client) : Prop where
  config : c.session.config = config
  state : c.session.state = .disconnected
  slot : c.session.slot = none
  links : c.session.links = []
  cancelled : c.session.cancelled = false
  held : c.queueHeld = true
  connecting : c.connecting = none
  reader : c.reader = .idle
  writer : c.writer = .idle
  outputs : c.outputsHeld = true
  closes : c.closes = []

def placed (c : Client) (state : ConnState) (call : Option OwnerPhase) : Client :=
  { c with
    session := { c.session with state }
    connecting := call
    queueHeld := call.isNone }

inductive Trying : ConnState → Option OwnerPhase → Prop
  | idle : Trying .disconnected none
  | announcing (seen : Option ConnState) :
      Trying .disconnected (some (.announcing .connect seen))
  | dialing : Trying .connecting (some .dialing)
  | fallingBack (cause : TransportError) (seen : Option ConnState) :
      Trying .connecting (some (.fallingBack cause seen))
  | ended (cause : TransportError) :
      Trying .disconnected (some (.ended (.error (.transport cause))))

def connectResult? (c : Client) (m : Move) (_ : Client) : Option (Except ClientError Unit) :=
  match m, (c.step m).2 with
  | .connecting _, .result result => some result
  | _, _ => none

def dialFault? (c : Client) (m : Move) (_ : Client) : Option TransportError :=
  match c.connecting, m with
  | some .dialing, .connecting (.dialed outcome) =>
    match outcome.link c.session.config with
    | .ok _ => none
    | .error cause => some cause
  | _, _ => none

def owed : Option OwnerPhase → List TransportError
  | some (.fallingBack cause _) | some (.ended (.error (.transport cause))) => [cause]
  | _ => []

def failedConnect (cause : TransportError) : Except ClientError Unit := .error (.transport cause)

section

variable {config : Config} {b c : Client} {m : Move} {state : ConnState} {call : Option OwnerPhase}

theorem fresh_new (h : new config = .ok c) : c.Fresh config := by
  obtain rfl := new_eq h
  exact ⟨rfl, rfl, rfl, rfl, rfl, rfl, rfl, rfl, rfl, rfl, rfl⟩

theorem Fresh.placed_none (h : b.Fresh config) : b.placed .disconnected none = b := by
  obtain ⟨⟨_, state, _, _, _, _, _⟩, _, held, _, connecting, _, _, _, _⟩ := b
  obtain ⟨-, hstate, -, -, -, hheld, hconnecting, -, -, -, -⟩ := h
  dsimp only at hstate hheld hconnecting
  rw [hstate, hheld, hconnecting]
  rfl

theorem Fresh.with_outputs (h : b.Fresh config) (counters : Counters) (outputs : Outputs)
    (queue : Mailbox Command) :
    Fresh config { b with session := { b.session with counters, outputs }, queue } :=
  ⟨h.config, h.state, h.slot, h.links, h.cancelled, h.held, h.connecting, h.reader, h.writer,
    h.outputs, h.closes⟩

/-! ### Other moves -/

def Sideways (b : Client) (m : Move) (b' : Client) : Prop :=
  ∃ counters outputs queue,
    b' = { b with session := { b.session with counters, outputs }, queue } ∧
      ∀ state call, ((b.placed state call).step m).1 = b'.placed state call

theorem sideways_send (b : Client) (command : Command) :
    b.Sideways (.send command) (b.send command).1 := by
  fun_cases send b command with
  | case1 hc =>
    refine ⟨_, _, _, rfl, fun state call => ?_⟩
    simp [step, send, placed, hc, refuse]
  | case2 hc e hv =>
    refine ⟨_, _, _, rfl, fun state call => ?_⟩
    simp [step, send, placed, hc, hv, refuse]
  | case3 hc hv queue ho =>
    refine ⟨_, _, _, rfl, fun state call => ?_⟩
    simp [step, send, placed, hc, hv, ho]
  | case4 hc hv ho =>
    refine ⟨_, _, _, rfl, fun state call => ?_⟩
    simp [step, send, placed, hc, hv, ho, refuse, Session.count]
  | case5 hc hv ho =>
    refine ⟨_, _, _, rfl, fun state call => ?_⟩
    simp [step, send, placed, hc, hv, ho, refuse]

theorem updateLink_of_nil {s : Session} (h : s.links = []) (id : LinkId) (f : Link → Link) :
    s.updateLink id f = s := by
  unfold Session.updateLink
  rw [h, List.modify_nil, ← h]

theorem sideways_same (b : Client) (h : ∀ state call, ((b.placed state call).step m).1 =
    b.placed state call) : b.Sideways m b :=
  ⟨_, _, _, rfl, h⟩

theorem ne_close_of_isUnlucky (h : m.isUnlucky = true) : m ≠ .close := by
  rintro rfl
  cases h

/-- No other move than a close can tell whether a connect is under way. -/
theorem Fresh.sideways (h : b.Fresh config) (hm : m.isConnect = false) (hc : m ≠ .close) :
    b.Sideways m (b.step m).1 := by
  have hr : b.reader.isRunning = false := by
    rw [h.reader]
    rfl
  have hw : b.writer.isRunning = false := by
    rw [h.writer]
    rfl
  cases m with
  | connect | connecting => cases hm
  | close => exact absurd rfl hc
  | send command => exact b.sideways_send command
  | reader input =>
    have hs : (b.step (.reader input)).1 = b := stepReader_of_not_isRunning hr input
    rw [hs]
    exact b.sideways_same fun state call =>
      stepReader_of_not_isRunning (c := b.placed state call) hr input
  | writer input =>
    have hs : (b.step (.writer input)).1 = b := stepWriter_of_not_isRunning hw input
    rw [hs]
    exact b.sideways_same fun state call =>
      stepWriter_of_not_isRunning (c := b.placed state call) hw input
  | closing n =>
    have hs : ∀ c : Client, c.closes = [] → (c.step (.closing n)).1 = c := by
      intro c hnil
      simp only [step, stepClosing, hnil, List.getElem?_nil]
    rw [hs b h.closes]
    exact b.sideways_same fun state call => hs (b.placed state call) h.closes
  | arrive id a =>
    have hs : ∀ c : Client, c.session.links = [] → (c.step (.arrive id a)).1 = c := by
      intro c hnil
      simp only [step, updateLink_of_nil hnil]
    rw [hs b h.links]
    exact b.sideways_same fun state call => hs (b.placed state call) h.links
  | receive channel =>
    refine ⟨b.session.counters, (b.session.outputs.receive channel).2, b.queue, ?_,
      fun state call => ?_⟩
    · exact congrArg Prod.fst (receive_of_not_isRunning hr channel)
    · have hp := receive_of_not_isRunning (c := b.placed state call) hr channel
      simp only [step]
      rw [hp, receive_of_not_isRunning hr channel]
      rfl
  | dropReceiver channel => exact ⟨_, _, _, rfl, fun _ _ => rfl⟩

/-! ### The calls -/

structure Tries (config : Config) (m : Move) (state : ConnState) (call : Option OwnerPhase)
    (state' : ConnState) (call' : Option OwnerPhase) (result : Option (Except ClientError Unit))
    (fault : Option TransportError) : Prop where
  trying : Trying state' call'
  balance : result.toList ++ (owed call').map failedConnect =
    (owed call ++ fault.toList).map failedConnect
  step : ∀ b : Client, b.Fresh config →
    ((b.placed state call).step m).1 = b.placed state' call' ∧
      connectResult? (b.placed state call) m (b.placed state' call') = result ∧
      dialFault? (b.placed state call) m (b.placed state' call') = fault

theorem Tries.stay (ht : Trying state call)
    (h : ∀ b : Client, b.Fresh config → ((b.placed state call).step m).1 = b.placed state call ∧
      connectResult? (b.placed state call) m (b.placed state call) = none ∧
      dialFault? (b.placed state call) m (b.placed state call) = none) :
    Tries config m state call state call none none :=
  ⟨ht, by simp, h⟩

theorem tries_connect (ht : Trying state call) :
    ∃ state' call', Tries config .connect state call state' call' none none := by
  cases call with
  | none =>
    cases ht
    refine ⟨_, _, .announcing none, rfl, fun b hb => ⟨?_, rfl, rfl⟩⟩
    simp [step, connect, placed, hb.cancelled, OwnerPhase.start]
  | some phase =>
    -- the queue is not there, so a second call is refused
    refine ⟨_, _, .stay ht fun b hb => ⟨?_, rfl, ?_⟩⟩
    · simp [step, connect, placed, hb.cancelled, refuse]
    · simp [dialFault?]

theorem tries_announcing (seen : Option ConnState) :
    ∃ state' call', Tries config (.connecting .proceed) .disconnected
      (some (.announcing .connect seen)) state' call' none none := by
  by_cases hseen : seen = some .disconnected
  · refine ⟨_, _, .dialing, rfl, fun b _ => ⟨?_, ?_, rfl⟩⟩ <;>
      simp [step, connectResult?, stepConnecting, placed, OwnerPhase.step, OwnerPhase.announce,
        Session.exchange, hseen, Purpose.announced]
  · refine ⟨_, _, .announcing (some .disconnected), rfl, fun b _ => ⟨?_, ?_, rfl⟩⟩ <;>
      simp [step, connectResult?, stepConnecting, placed, OwnerPhase.step, OwnerPhase.announce,
        Session.exchange, hseen]

theorem tries_dialing {outcome : DialOutcome} {cause : TransportError}
    (ho : outcome.link config = .error cause) :
    Tries config (.connecting (.dialed outcome)) .connecting (some .dialing)
      .connecting (some (.fallingBack cause none)) none (some cause) := by
  refine ⟨.fallingBack cause none, rfl, fun b hb => ⟨?_, ?_, ?_⟩⟩
  · simp [step, stepConnecting, placed, OwnerPhase.step, OwnerPhase.dialed, hb.config, ho]
  · simp [step, connectResult?, stepConnecting, placed, OwnerPhase.step, OwnerPhase.dialed, hb.config, ho]
  · simp [dialFault?, placed, hb.config, ho]

theorem tries_fallingBack (cause : TransportError) (seen : Option ConnState) :
    ∃ state' call', Tries config (.connecting .proceed) .connecting
      (some (.fallingBack cause seen)) state' call' none none := by
  by_cases hseen : seen = some .connecting
  · refine ⟨_, _, .ended cause, rfl, fun b _ => ⟨?_, ?_, rfl⟩⟩ <;>
      simp [step, connectResult?, stepConnecting, placed, OwnerPhase.step, OwnerPhase.fallBack,
        Session.exchange, hseen]
  · refine ⟨_, _, .fallingBack cause (some .connecting), rfl, fun b _ => ⟨?_, ?_, rfl⟩⟩ <;>
      simp [step, connectResult?, stepConnecting, placed, OwnerPhase.step, OwnerPhase.fallBack,
        Session.exchange, hseen]

theorem tries_ended (cause : TransportError) :
    Tries config (.connecting .proceed) .disconnected (some (.ended (.error (.transport cause))))
      .disconnected none (some (failedConnect cause)) none :=
  ⟨.idle, rfl, fun _ _ => ⟨rfl, rfl, rfl⟩⟩

theorem Trying.step (ht : Trying state call) (config : Config) (hm : m.isConnect = true)
    (hu : m.isUnlucky = true) :
    ∃ state' call' result fault, Tries config m state call state' call' result fault := by
  cases m with
  | send | reader | writer | close | closing | arrive | receive | dropReceiver => cases hm
  | connect =>
    obtain ⟨state', call', h⟩ := tries_connect ht
    exact ⟨state', call', none, none, h⟩
  | connecting input =>
    cases ht with
    | idle => exact ⟨_, _, _, _, .stay .idle fun b _ => ⟨rfl, rfl, rfl⟩⟩
    | announcing seen =>
      cases input with
      | proceed =>
        obtain ⟨state', call', h⟩ := tries_announcing seen
        exact ⟨state', call', none, none, h⟩
      | elapsed | cancelled | dialed | sent =>
        exact ⟨_, _, _, _, .stay (.announcing seen) fun b _ => ⟨rfl, rfl, rfl⟩⟩
    | dialing =>
      cases input with
      | dialed outcome =>
        cases ho : outcome.link config with
        | error cause => exact ⟨_, _, _, _, tries_dialing ho⟩
        | ok link =>
          cases outcome with
          | opened remote => cases hu
          | unresolved | failed | expired => cases ho
      | proceed | elapsed | cancelled | sent =>
        exact ⟨_, _, _, _, .stay .dialing fun b _ => ⟨rfl, rfl, rfl⟩⟩
    | fallingBack cause seen =>
      cases input with
      | proceed =>
        obtain ⟨state', call', h⟩ := tries_fallingBack cause seen
        exact ⟨state', call', none, none, h⟩
      | elapsed | cancelled | dialed | sent =>
        exact ⟨_, _, _, _, .stay (.fallingBack cause seen) fun b _ => ⟨rfl, rfl, rfl⟩⟩
    | ended cause =>
      cases input with
      | proceed => exact ⟨_, _, _, _, tries_ended cause⟩
      | elapsed | cancelled | dialed | sent =>
        exact ⟨_, _, _, _, .stay (.ended cause) fun b _ => ⟨rfl, rfl, rfl⟩⟩

/-! ### A whole run -/

/-- What the calls do in a run is what they do alone, and the other moves do what they do without them. -/
structure Apart (moves : List Move) (b c : Client) (state : ConnState) (call : Option OwnerPhase)
    (state' : ConnState) (call' : Option OwnerPhase) : Prop where
  trying : Trying state' call'
  run : (b.placed state call).run moves =
    (b.run (moves.filter fun m => !m.isConnect)).placed state' call'
  alone : (c.placed state call).run (moves.filter Move.isConnect) = c.placed state' call'
  results : (b.placed state call).observe connectResult? moves =
    (c.placed state call).observe connectResult? (moves.filter Move.isConnect)
  balance : (b.placed state call).observe connectResult? moves ++ (owed call').map failedConnect =
    (owed call ++ (b.placed state call).observe dialFault? moves).map failedConnect

theorem observed_other {c' : Client} (hm : m.isConnect = false) :
    connectResult? c m c' = none ∧ dialFault? c m c' = none := by
  cases m with
  | connect | connecting => cases hm
  | send | reader | writer | close | closing | arrive | receive | dropReceiver =>
    simp [connectResult?, dialFault?]

theorem Fresh.step (h : b.Fresh config) (hm : m.isConnect = false) (hc : m ≠ .close) :
    (b.step m).1.Fresh config := by
  obtain ⟨counters, outputs, queue, he, -⟩ := h.sideways hm hc
  rw [he]
  exact h.with_outputs counters outputs queue

theorem Apart.tried {moves : List Move} {state₁ state' : ConnState} {call₁ call' : Option OwnerPhase}
    {result : Option (Except ClientError Unit)} {fault : Option TransportError}
    (h : Apart moves b c state₁ call₁ state' call') (hm : m.isConnect = true) (hb : b.Fresh config)
    (hc : c.Fresh config) (ht : Tries config m state call state₁ call₁ result fault) :
    Apart (m :: moves) b c state call state' call' := by
  obtain ⟨hstep, hresult, hfault⟩ := ht.step b hb
  obtain ⟨hstep', hresult', -⟩ := ht.step c hc
  have hfilter : (m :: moves).filter Move.isConnect = m :: moves.filter Move.isConnect :=
    List.filter_cons_of_pos hm
  have hother : (m :: moves).filter (fun m => !m.isConnect) = moves.filter fun m => !m.isConnect :=
    List.filter_cons_of_neg (by simp [hm])
  refine ⟨h.trying, ?_, ?_, ?_, ?_⟩
  · rw [hother, Client.run, hstep]
    exact h.run
  · rw [hfilter, Client.run, hstep']
    exact h.alone
  · rw [hfilter, observe, observe, hstep, hstep', hresult, hresult', h.results]
  · rw [observe, observe, hstep, hresult, hfault, List.append_assoc, h.balance, ← List.append_assoc,
      List.map_append, List.map_append, ← List.append_assoc, ht.balance, List.map_append]

theorem Apart.aside {moves : List Move} {state' : ConnState} {call' : Option OwnerPhase}
    (h : Apart moves (b.step m).1 c state call state' call') (hm : m.isConnect = false)
    (hstep : ((b.placed state call).step m).1 = (b.step m).1.placed state call) :
    Apart (m :: moves) b c state call state' call' := by
  have hfilter : (m :: moves).filter Move.isConnect = moves.filter Move.isConnect :=
    List.filter_cons_of_neg (by simp [hm])
  have hother : (m :: moves).filter (fun m => !m.isConnect) = m :: moves.filter fun m => !m.isConnect :=
    List.filter_cons_of_pos (by simp [hm])
  refine ⟨h.trying, ?_, ?_, ?_, ?_⟩
  · rw [hother, Client.run, Client.run, hstep]
    exact h.run
  · rw [hfilter]
    exact h.alone
  · rw [hfilter, observe, hstep, (observed_other hm).1]
    exact h.results
  · rw [observe, observe, hstep, (observed_other hm).1, (observed_other hm).2]
    exact h.balance

theorem Trying.run (ht : Trying state call) (hb : b.Fresh config) (hc : c.Fresh config)
    {moves : List Move} (hu : ∀ m ∈ moves, m.isUnlucky = true) :
    ∃ state' call', Apart moves b c state call state' call' := by
  -- the other moves change `b`; `c` stays, for the calls alone go on from where the last one left it
  induction moves generalizing b state call with
  | nil => exact ⟨state, call, ht, rfl, rfl, rfl, by simp [observe]⟩
  | cons m moves ih =>
    obtain ⟨hum, hum'⟩ := List.forall_mem_cons.mp hu
    cases hm : m.isConnect with
    | true =>
      obtain ⟨state₁, call₁, result, fault, h⟩ := ht.step config hm hum
      obtain ⟨state', call', h'⟩ := ih h.trying hb hum'
      exact ⟨state', call', h'.tried hm hb hc h⟩
    | false =>
      have hne := ne_close_of_isUnlucky hum
      obtain ⟨_, _, _, _, hstep⟩ := hb.sideways hm hne
      obtain ⟨state', call', h'⟩ := ih ht (hb.step hm hne) hum'
      exact ⟨state', call', h'.aside hm (hstep state call)⟩

theorem Fresh.run (h : b.Fresh config) {moves : List Move} (hm : ∀ m ∈ moves, m.isConnect = false)
    (hu : ∀ m ∈ moves, m.isUnlucky = true) : (b.run moves).Fresh config := by
  induction moves generalizing b with
  | nil => exact h
  | cons m moves ih =>
    obtain ⟨hm, hm'⟩ := List.forall_mem_cons.mp hm
    obtain ⟨hum, hum'⟩ := List.forall_mem_cons.mp hu
    exact ih (h.step hm (ne_close_of_isUnlucky hum)) hm' hum'

theorem Trying.placed_eq {state' : ConnState} (h : Trying state' none) (hb : b.Fresh config) :
    b.placed state' none = b := by
  cases h
  exact hb.placed_none

variable {moves : List Move}

theorem Fresh.apart (h : b.Fresh config) (hu : ∀ m ∈ moves, m.isUnlucky = true) :
    ∃ state call, Apart moves b b .disconnected none state call ∧
      b.run moves = (b.run (moves.filter fun m => !m.isConnect)).placed state call ∧
      (b.run (moves.filter fun m => !m.isConnect)).Fresh config := by
  obtain ⟨state, call, ha⟩ := Trying.idle.run h h hu
  have hrun := ha.run
  rw [h.placed_none] at hrun
  refine ⟨state, call, ha, hrun, h.run (fun m hm => ?_) fun m hm => hu m (List.mem_filter.mp hm).1⟩
  simpa using (List.mem_filter.mp hm).2

theorem Fresh.run_unlucky (h : b.Fresh config) (hu : ∀ m ∈ moves, m.isUnlucky = true)
    (hn : (b.run moves).connecting = none) :
    b.run moves = b.run (moves.filter fun m => !m.isConnect) ∧ (b.run moves).Fresh config := by
  obtain ⟨state, call, ha, hrun, hfresh⟩ := h.apart hu
  rw [hrun] at hn ⊢
  obtain rfl : call = none := hn
  rw [ha.trying.placed_eq hfresh]
  exact ⟨rfl, hfresh⟩

theorem Fresh.results_unlucky (h : b.Fresh config) (hu : ∀ m ∈ moves, m.isUnlucky = true) :
    b.observe connectResult? moves ++ (owed (b.run moves).connecting).map failedConnect =
      (b.observe dialFault? moves).map failedConnect := by
  obtain ⟨state, call, ha, hrun, -⟩ := h.apart hu
  have hbalance := ha.balance
  rw [h.placed_none] at hbalance
  rw [hrun]
  exact hbalance

end

end Client
end OrderEntry

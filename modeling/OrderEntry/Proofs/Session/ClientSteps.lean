import OrderEntry.Client
import OrderEntry.Proofs.Session.Bystanders

/-! All that one move can do to a client, one constructor for each kind of move. -/

namespace OrderEntry

inductive ReaderPhase.Granted : ReaderPhase → ReaderPhase → Prop
  | same (phase : ReaderPhase) : Granted phase phase
  | report (e : ClientError) (r r' : FatalReport) : Granted (reporting e r) (reporting e r')

/-- Neither a step of a loop nor an arrival. -/
def Move.IsCall : Move → Prop
  | .reader _ | .writer _ | .arrive .. => False
  | _ => True

theorem Move.IsCall.ne {m : Move} (h : m.IsCall) :
    (∀ input, m ≠ .writer input) ∧ ∀ id a, m ≠ .arrive id a := by
  cases m with
  | reader | writer | arrive => exact h.elim
  | send | connect | connecting | close | closing | receive | dropReceiver =>
    exact ⟨fun _ => nofun, fun _ _ => nofun⟩

namespace Client

inductive Step : Client → Move → Client → Prop
  | stay (c : Client) {m : Move} (hm : m.IsCall) : Step c m c
  | called {c : Client} {m : Move} {session : Session} {queue : Mailbox Command}
      {reader : ReaderPhase} (hb : c.session.Beside session) (hl : session.links = c.session.links)
      (hr : c.reader.Granted reader) (hm : m.IsCall) :
      Step c m { c with session, queue, reader }
  | connect {c : Client} (hc : c.session.cancelled = false) (hq : c.queueHeld = true) :
      Step c .connect { c with queueHeld := false, connecting := some (.start .connect) }
  | connecting {c : Client} {input : TaskInput} {call call' : OwnerPhase} {session : Session}
      (hc : c.connecting = some call) (h : call.Step c.session call' session) :
      Step c (.connecting input) { c with session, connecting := some call' }
  | connectFailed {c : Client} {e : ClientError} (hc : c.connecting = some (.ended (.error e))) :
      Step c (.connecting .proceed) { c with connecting := none, queueHeld := true }
  | connected {c : Client} {k : Nat} (hc : c.connecting = some (.ended (.ok k)))
      (ho : c.outputsHeld = true) :
      Step c (.connecting .proceed)
        { c with connecting := none, reader := .looking 0, writer := .waiting, handles := true }
  /-- The outputs went with a close, and the queue goes with the connect. -/
  | connectedLate {c : Client} {k : Nat} (hc : c.connecting = some (.ended (.ok k)))
      (ho : c.outputsHeld = false) :
      Step c (.connecting .proceed) { c with connecting := none, queue := c.queue.dropReceiver }
  | reader {c : Client} {input : TaskInput} {reader : ReaderPhase} {session : Session}
      (h : c.reader.Step c.session reader session) : Step c (.reader input) { c with reader, session }
  | writer {c : Client} {input : TaskInput} {writer : WriterPhase} {session : Session}
      {queue : Mailbox Command} (h : c.writer.Step c.session c.queue writer session queue) :
      Step c (.writer input) { c with writer, session, queue }
  | close {c : Client} : Step c .close c.close
  | joined {c : Client} {n : Nat} {loops : Bool} (hc : c.closes[n]? = some (.joining loops))
      (hr : loops = true → c.isRunning = false) :
      Step c (.closing n) { c with closes := c.closes.set n (.shutting .storing) }
  | shutting {c : Client} {n : Nat} {call : ShutdownPhase} (hc : c.closes[n]? = some (.shutting call)) :
      Step c (.closing n)
        { c with
          session := (call.step c.session).2
          closes := c.closes.set n (.shutting (call.step c.session).1) }
  | returned {c : Client} {n : Nat} (hc : c.closes[n]? = some (.shutting .done)) :
      Step c (.closing n)
        { c with
          queue := if c.queueHeld then c.queue.dropReceiver else c.queue
          queueHeld := false
          outputsHeld := false
          closes := c.closes.set n .returned }
  | arrive {c : Client} (id : LinkId) (a : Arrival) :
      Step c (.arrive id a) { c with session := c.session.updateLink id (·.arrive a) }

theorem step_send (c : Client) (command : Command) : Step c (.send command) (c.send command).1 := by
  fun_cases send c command with
  | case1 => exact .stay c trivial
  | case2 => exact .stay c trivial
  | case3 _ _ queue => exact .called (.refl _) rfl (.same _) trivial
  | case4 =>
    have hb := c.session.beside_count (k := .dropped) (by decide)
    exact .called hb rfl (.same _) trivial
  | case5 => exact .stay c trivial

theorem step_connect (c : Client) : Step c .connect c.connect.1 := by
  fun_cases connect c with
  | case1 => exact .stay c trivial
  | case2 => exact .stay c trivial
  | case3 hc hq =>
    rw [Bool.not_eq_true] at hc
    rw [Bool.not_eq_true, Bool.not_eq_false'] at hq
    exact .connect hc hq

theorem step_connecting (c : Client) (input : TaskInput) :
    Step c (.connecting input) (c.stepConnecting input).1 := by
  fun_cases stepConnecting c input with
  | case1 => exact .stay c trivial
  | case2 result hc =>
    fun_cases connected c result with
    | case1 e => exact .connectFailed hc
    | case2 k ho => exact .connected hc ho
    | case3 k ho => exact .connectedLate hc (by simpa using ho)
  | case3 call _ _ hc call' session hs =>
    have hk := call.step_kind input c.session
    rw [hs] at hk
    exact .connecting hc hk

theorem step_closing (c : Client) (n : Nat) : Step c (.closing n) (c.stepClosing n).1 := by
  fun_cases stepClosing c n with
  | case1 => exact .stay c trivial
  | case2 => exact .stay c trivial
  | case3 => exact .stay c trivial
  | case4 loops hc hr =>
    refine .joined hc fun hl => ?_
    simpa [hl] using hr
  | case5 hc => exact .returned hc
  | case6 call _ hc call' session hs =>
    have hk := Step.shutting hc
    rw [hs] at hk
    exact hk

theorem granted_afterReceive (phase : ReaderPhase) (s : Session) :
    phase.Granted (phase.afterReceive s).1 := by
  cases phase with
  | reporting e r => exact .report e r _
  | idle | looking | waiting | reading | restoring | tripping | submitting | stopped =>
    exact .same _

theorem beside_afterReceive (phase : ReaderPhase) (s : Session) :
    s.Beside (phase.afterReceive s).2 ∧ (phase.afterReceive s).2.links = s.links := by
  cases phase with
  | reporting e r => exact ⟨s.beside_outputs _, rfl⟩
  | idle | looking | waiting | reading | restoring | tripping | submitting | stopped =>
    exact ⟨.refl s, rfl⟩

theorem step_receive (c : Client) (channel : Channel) :
    Step c (.receive channel) (c.receive channel).1 := by
  cases channel with
  | errors =>
    have ho := c.session.beside_outputs (c.session.outputs.receive .errors).2
    obtain ⟨hb, hl⟩ := beside_afterReceive c.reader
      { c.session with outputs := (c.session.outputs.receive .errors).2 }
    exact .called (ho.trans hb) hl (granted_afterReceive ..) trivial
  | acks | trades | bookUpdates | cancelAcks | reconnects =>
    exact .called (c.session.beside_outputs _) rfl (.same _) trivial

theorem step_kind (c : Client) (m : Move) : Step c m (c.step m).1 := by
  cases m with
  | send command => exact c.step_send command
  | connect => exact c.step_connect
  | connecting input => exact c.step_connecting input
  | reader input => exact .reader (c.reader.step_kind input c.session)
  | writer input => exact .writer (c.writer.step_kind input c.session c.queue)
  | close => exact .close
  | closing n => exact c.step_closing n
  | arrive id arrival => exact .arrive id arrival
  | receive channel => exact c.step_receive channel
  | dropReceiver channel =>
    exact .called (c.session.beside_outputs _) rfl (.same _) trivial

end Client
end OrderEntry

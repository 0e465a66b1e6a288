import OrderEntry.Proofs.Session.ReaderSteps
import OrderEntry.Session.WriteLoop

/-! All that one step of the write loop can do to a session and to the queue, one constructor for each kind
of step. -/

namespace OrderEntry
namespace WriterPhase

inductive Step : WriterPhase → Session → Mailbox Command →
    WriterPhase → Session → Mailbox Command → Prop
  | stay (phase : WriterPhase) (s : Session) (queue : Mailbox Command) :
      Step phase s queue phase s queue
  | taken {s : Session} {queue queue' : Mailbox Command} {c : Command}
      (h : queue.receive = (.item c, queue')) : Step waiting s queue (holding c) s queue'
  | drained {s : Session} {queue queue' : Mailbox Command} (h : queue.receive = (.empty, queue')) :
      Step waiting s queue waiting s queue'
  | ended {s : Session} {queue queue' : Mailbox Command} (h : queue.receive = (.closed, queue')) :
      Step waiting s queue stopped s queue'.dropReceiver
  | waitStopped {s : Session} {queue : Mailbox Command} (h : s.cancelled = true) :
      Step waiting s queue stopped s queue.dropReceiver
  | found {c : Command} {s : Session} {queue : Mailbox Command} {id : LinkId}
      (h : s.live? = some id) : Step (holding c) s queue (writing c id) s queue
  | unlinked {c : Command} {s : Session} {queue : Mailbox Command} (h : s.live? = none) :
      Step (holding c) s queue waiting (s.noteError (.write .notConnected)) queue
  | holdStopped {c : Command} {s : Session} {queue : Mailbox Command} (h : s.cancelled = true) :
      Step (holding c) s queue stopped s queue.dropReceiver
  | written {c : Command} {id : LinkId} {sent : Except String Unit} {s s' : Session}
      {queue : Mailbox Command} (h : s.sendLink id c sent = (.ok (), s')) :
      Step (writing c id) s queue waiting (s'.count .sent) queue
  | failed {c : Command} {id : LinkId} {sent : Except String Unit} {s s' : Session}
      {queue : Mailbox Command} {e : TransportError}
      (h : s.sendLink id c sent = (.error e, s')) :
      Step (writing c id) s queue waiting (s'.noteError (.write e)) queue
  | writeStopped {c : Command} {id : LinkId} {s : Session} {queue : Mailbox Command}
      (h : s.cancelled = true) : Step (writing c id) s queue stopped s queue.dropReceiver

theorem step_kind (phase : WriterPhase) (input : TaskInput) (s : Session)
    (queue : Mailbox Command) :
    Step phase s queue (phase.step input s queue).1 (phase.step input s queue).2.1
      (phase.step input s queue).2.2 := by
  fun_cases WriterPhase.step phase input s queue with
  | case1 c queue' h => exact .taken h
  | case2 queue' h => exact .drained h
  | case3 queue' h => exact .ended h
  | case4 h => exact .waitStopped h
  | case5 => exact .stay ..
  | case6 c id h => exact .found h
  | case7 c h phase s' hw =>
    cases hw
    exact .unlinked h
  | case8 c h => exact .holdStopped (Bool.and_eq_true_iff.mp h).1
  | case9 => exact .stay ..
  | case10 c id sent result s' h phase s'' hw =>
    cases result with
    | ok _ =>
      cases hw
      exact .written h
    | error e =>
      cases hw
      exact .failed h
  | case11 c id h => exact .writeStopped h
  | case12 => exact .stay ..
  | case13 => exact .stay ..

end WriterPhase
end OrderEntry

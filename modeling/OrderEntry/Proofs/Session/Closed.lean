import OrderEntry.Proofs.FanOut
import OrderEntry.Proofs.Session.Stopping

/-! What may still happen to a client once its loops have ended, its link is released and a close has returned:
links that are out of service may change, and the consumers take what is left. -/

namespace OrderEntry

def Outputs.after (o : Outputs) : Move → Outputs
  | .receive ch => (o.receive ch).2
  | .dropReceiver ch => o.dropReceiver ch
  | _ => o

theorem Outputs.queue_after (o : Outputs) {m : Move} {ch : Channel} (hr : m ≠ .receive ch)
    (hd : m ≠ .dropReceiver ch) : (o.after m).queue ch = o.queue ch := by
  cases m with
  | receive ch' =>
    unfold after
    rw [queue_receive, if_neg]
    rintro rfl
    exact hr rfl
  | dropReceiver ch' =>
    unfold after
    rw [queue_dropReceiver, if_neg]
    rintro rfl
    exact hd rfl
  | send | connect | connecting | reader | writer | close | closing | arrive => rfl

namespace Client

variable {c c' : Client} {m : Move}

structure Gone (c : Client) : Prop where
  cancelled : c.session.cancelled = true
  state : c.session.state = .closed
  slot : c.session.slot = none
  reader : c.reader.isRunning = false
  writer : c.writer.isRunning = false
  connecting : c.connecting = none
  handles : c.handles = false
  queueHeld : c.queueHeld = false
  outputsHeld : c.outputsHeld = false

theorem send_of_cancelled (h : c.session.cancelled = true) (command : Command) :
    c.send command = (c, .result (.error .closed)) := if_pos h

theorem connect_of_cancelled (h : c.session.cancelled = true) :
    c.connect = (c, .result (.error .closed)) := if_pos h

theorem Gone.closeSession (h : c.Gone) : c.session.close = c.session := by
  unfold Session.close
  rw [← h.state]

theorem Gone.takeLink (h : c.Gone) : c.session.takeLink = (none, c.session) := by
  unfold Session.takeLink
  rw [← h.slot]

theorem Gone.isRunning (h : c.Gone) : c.isRunning = false := by
  unfold Client.isRunning
  rw [h.reader, h.writer]
  rfl

theorem Gone.outputs (h : c.Gone) : c.outputs = c.session.outputs.dropSenders := by
  unfold Client.outputs
  rw [h.outputsHeld, h.isRunning]
  rfl

theorem Gone.end_close (h : c.Gone) (closes : List CloseCall) :
    ({ c with
        queue := if c.queueHeld then c.queue.dropReceiver else c.queue
        queueHeld := false
        outputsHeld := false
        closes } : Client) = { c with closes } := by
  simp [h.queueHeld, h.outputsHeld]

theorem Gone.step_shutdown (h : c.Gone) (call : ShutdownPhase) :
    ∃ links, (call.step c.session).2 = { c.session with links } := by
  cases call with
  | storing => exact ⟨_, h.closeSession⟩
  | taking =>
    change ∃ links, c.session.takeLink.2 = _
    rw [h.takeLink]
    exact ⟨_, rfl⟩
  | closing taken => cases taken <;> exact ⟨_, rfl⟩
  | done => exact ⟨_, rfl⟩

theorem Gone.stepClosing_eq (h : c.Gone) (n : Nat) : ∃ links closes,
    (c.stepClosing n).1 = { c with session := { c.session with links }, closes } := by
  fun_cases Client.stepClosing c n with
  | case1 | case2 | case3 => exact ⟨_, _, rfl⟩
  | case4 => exact ⟨_, _, rfl⟩
  | case5 => exact ⟨_, _, h.end_close _⟩
  | case6 call _ _ call' session hs =>
    obtain ⟨links, he⟩ := h.step_shutdown call
    rw [hs] at he
    obtain rfl : session = _ := he
    exact ⟨links, _, rfl⟩

theorem Gone.step_eq (h : c.Gone) (m : Move) : ∃ links closes, (c.step m).1 =
    { c with session := { c.session with links, outputs := c.session.outputs.after m }, closes } := by
  cases m with
  | send command =>
    change ∃ _ _, (c.send command).1 = _
    rw [send_of_cancelled h.cancelled]
    exact ⟨_, _, rfl⟩
  | connect =>
    change ∃ _ _, c.connect.1 = _
    rw [connect_of_cancelled h.cancelled]
    exact ⟨_, _, rfl⟩
  | connecting input =>
    have hstay : c.stepConnecting input = (c, .none) := by
      unfold stepConnecting
      rw [h.connecting]
    change ∃ _ _, (c.stepConnecting input).1 = _
    rw [hstay]
    exact ⟨_, _, rfl⟩
  | reader input =>
    change ∃ _ _, c.stepReader input = _
    rw [stepReader_of_not_isRunning h.reader]
    exact ⟨_, _, rfl⟩
  | writer input =>
    change ∃ _ _, c.stepWriter input = _
    rw [stepWriter_of_not_isRunning h.writer]
    exact ⟨_, _, rfl⟩
  | close =>
    change ∃ _ _, c.close = _
    unfold close
    rw [← h.cancelled, ← h.handles]
    exact ⟨_, _, rfl⟩
  | closing n => exact h.stepClosing_eq n
  | arrive id arrival => exact ⟨_, _, rfl⟩
  | receive ch =>
    change ∃ _ _, (c.receive ch).1 = _
    rw [receive_of_not_isRunning h.reader]
    exact ⟨_, _, rfl⟩
  | dropReceiver ch => exact ⟨_, _, rfl⟩

theorem Gone.queue_step (h : c.Gone) (m : Move) (ch : Channel) :
    (c.step m).1.session.outputs.queue ch = (c.session.outputs.after m).queue ch := by
  obtain ⟨links, closes, he⟩ := h.step_eq m
  rw [he]

theorem Gone.step (h : c.Gone) (m : Move) : (c.step m).1.Gone := by
  obtain ⟨links, closes, he⟩ := h.step_eq m
  rw [he]
  exact { h with }

theorem Gone.run (h : c.Gone) (moves : List Move) : (c.run moves).Gone := by
  induction moves generalizing c with
  | nil => exact h
  | cons m moves ih => exact ih (h.step m)

def reclosing : Nat → CloseCall
  | 0 => .joining false
  | 1 => .shutting .storing
  | 2 => .shutting .taking
  | 3 => .shutting (.closing none)
  | 4 => .shutting .done
  | _ + 5 => .returned

theorem Gone.stepClosing_again (h : c.Gone) (n : Nat) :
    (({ c with closes := c.closes ++ [reclosing n] } : Client).stepClosing c.closes.length).1 =
      { c with closes := c.closes ++ [reclosing (n + 1)] } := by
  have hset (call : CloseCall) : (c.closes ++ [reclosing n]).set c.closes.length call =
      c.closes ++ [call] := by
    rw [List.set_append_right _ _ (Nat.le_refl _), Nat.sub_self]
    rfl
  unfold Client.stepClosing
  rw [List.getElem?_concat_length]
  match n with
  | 0 => exact congrArg (fun closes => ({ c with closes } : Client)) (hset _)
  | 1 =>
    change ({ c with session := c.session.close, closes := _ } : Client) = _
    rw [h.closeSession, hset]
    rfl
  | 2 =>
    change ({ c with
      session := c.session.takeLink.2
      closes := List.set _ _ (.shutting (.closing c.session.takeLink.1)) } : Client) = _
    rw [hset, h.takeLink]
    rfl
  | 3 => exact congrArg (fun closes => ({ c with closes } : Client)) (hset _)
  | 4 => exact (h.end_close _).trans (congrArg (fun closes => ({ c with closes } : Client)) (hset _))
  | _ + 5 => rfl

theorem Gone.run_close (h : c.Gone) (n : Nat) :
    c.run (.close :: List.replicate n (.closing c.closes.length)) =
      { c with closes := c.closes ++ [reclosing n] } := by
  induction n with
  | zero =>
    have hsame : { c.session with cancelled := true } = c.session := by rw [← h.cancelled]
    change c.close = _
    simp [close, hsame, h.handles, reclosing]
  | succ n ih =>
    rw [List.replicate_succ', ← List.cons_append, run_append, ih]
    exact h.stepClosing_again n

/-! ### What the consumers are told -/

def told? (ch : Channel) (c : Client) (m : Move) (_ : Client) : Option (Receipt Delivery) :=
  match m, (c.step m).2 with
  | .receive ch', .receipt r => if ch' = ch then some r else none
  | _, _ => none

def asks (ch : Channel) (moves : List Move) : Nat :=
  moves.countP fun
    | .receive ch' => ch' = ch
    | _ => false

theorem Gone.told?_receive (h : c.Gone) (ch : Channel) (c' : Client) :
    told? ch c (.receive ch) c' =
      some { c.session.outputs.queue ch with sending := false }.receive.1 := by
  unfold told?
  change (match Move.receive ch, (c.receive ch).2 with
    | .receive ch', .receipt r => if ch' = ch then some r else none
    | _, _ => none) = _
  rw [receive_of_not_isRunning h.reader, h.outputs]
  dsimp only
  rw [if_pos rfl, Outputs.receive_eq, Outputs.queue_dropSenders]

theorem told?_of_ne {ch : Channel} (hm : m ≠ .receive ch) : told? ch c m c' = none := by
  unfold told?
  split
  next ch' r =>
    rw [if_neg]
    rintro rfl
    exact hm rfl
  next => rfl

/-- A consumer that stays gets the queued items in their order, and after the last of them the end. -/
def Drains (c : Client) (moves : List Move) : Prop :=
  ∀ ch, .dropReceiver ch ∉ moves →
    c.observe (told? ch) moves =
        ((c.session.outputs.queue ch).items.take (asks ch moves)).map .item ++
          List.replicate (asks ch moves - (c.session.outputs.queue ch).items.length) .closed ∧
      ((c.run moves).session.outputs.queue ch).items =
        (c.session.outputs.queue ch).items.drop (asks ch moves)

theorem Gone.drains (h : c.Gone) (moves : List Move) : c.Drains moves := by
  intro ch hd
  induction moves generalizing c with
  | nil =>
    refine ⟨?_, rfl⟩
    simp [asks, observe]
  | cons m moves ih =>
    obtain ⟨hm, hd⟩ := not_or.mp (mt List.mem_cons.mpr hd)
    obtain ⟨htold, hleft⟩ := ih (h.step m) hd
    have hqueue := h.queue_step m ch
    change (told? ch c m _).toList ++ (c.step m).1.observe (told? ch) moves = _ ∧
      (((c.step m).1.run moves).session.outputs.queue ch).items = _
    by_cases hr : m = .receive ch
    · obtain rfl := hr
      have hasks : asks ch (.receive ch :: moves) = asks ch moves + 1 :=
        List.countP_cons_of_pos (decide_eq_true rfl)
      have hafter : (c.session.outputs.after (.receive ch)).queue ch =
          (c.session.outputs.queue ch).receive.2 := by
        unfold Outputs.after
        rw [Outputs.queue_receive, if_pos rfl]
      rw [hafter] at hqueue
      rw [htold, hleft, hqueue, hasks, h.told?_receive]
      rcases (c.session.outputs.queue ch).receive_ended with ⟨hi, he, hq⟩ | ⟨d, items, hi, he, hq⟩
      · rw [he, hq, hi]
        simp [List.replicate_succ]
      · rw [he, hq, hi]
        simp
    · have hasks : asks ch (m :: moves) = asks ch moves := by
        refine List.countP_cons_of_neg ?_
        cases m with
        | receive ch' =>
          intro he
          rw [decide_eq_true_iff] at he
          exact hr (congrArg _ he)
        | send | connect | connecting | reader | writer | close | closing | arrive | dropReceiver =>
          rintro ⟨⟩
      rw [Outputs.queue_after _ hr (Ne.symm hm)] at hqueue
      rw [htold, hleft, hqueue, hasks, told?_of_ne hr]
      exact ⟨rfl, rfl⟩

/-! ### To the callers -/

/-- What is true of a client from the return of a close on. -/
structure Shut (c : Client) : Prop where
  state : c.session.state = .closed
  unconnected : c.session.isConnected = false
  send : ∀ command, c.send command = (c, .result (.error .closed))
  connect : c.connect = (c, .result (.error .closed))

theorem shut_of_closed (hc : c.session.cancelled = true) (hs : c.session.state = .closed) : c.Shut where
  state := hs
  unconnected := by
    unfold Session.isConnected
    rw [hs]
    rfl
  send := send_of_cancelled hc
  connect := connect_of_cancelled hc

/-- What is true besides once the loops have ended. -/
structure Final (c : Client) : Prop extends c.Shut where
  slot : c.session.slot = none
  loops : c.isRunning = false
  counters : ∀ m, (c.step m).1.session.counters = c.session.counters
  queue : ∀ m ch, m ≠ .receive ch → m ≠ .dropReceiver ch →
    (c.step m).1.session.outputs.queue ch = c.session.outputs.queue ch
  /-- A further close changes nothing but how far it has come itself. -/
  closing : ∀ n, c.run (.close :: List.replicate n (.closing c.closes.length)) =
    { c with closes := c.closes ++ [reclosing n] }

theorem Gone.final (h : c.Gone) : c.Final where
  toShut := shut_of_closed h.cancelled h.state
  slot := h.slot
  loops := h.isRunning
  counters := by
    intro m
    obtain ⟨links, closes, he⟩ := h.step_eq m
    rw [he]
  queue := by
    intro m ch hr hd
    rw [h.queue_step, Outputs.queue_after _ hr hd]
  closing := h.run_close

end Client
end OrderEntry

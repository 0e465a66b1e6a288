import OrderEntry.Proofs.Session.Ledger
import OrderEntry.Proofs.Session.WireOrder

/-! The way of a command from its caller to a link. At any moment the ledger of the run balances: a command
that was accepted is queued, in the hand of the write loop, written to one link or failed, and what is
given up or discarded is so only after the client was told to stop. -/

namespace OrderEntry

theorem Ledger.note_send (l : Ledger) (c : Client) (command : Command) :
    l.note c (.send command) = l.answered command (c.send command).2 := by
  have hlost : c.queue.lost (c.step (.send command)).1.queue = [] := by
    refine Mailbox.lost_of_receiving ?_
    unfold Client.step
    dsimp only
    fun_cases Client.send c command with
    | case3 _ _ queue ho =>
      obtain ⟨_, _, rfl⟩ := Mailbox.offer_eq_ok ho
      rfl
    | case1 | case2 | case4 | case5 => rfl
  unfold note
  rw [hlost, List.append_nil]

theorem Ledger.taken_prefix_note (l : Ledger) (c : Client) (m : Move) :
    l.taken <+: (l.note c m).taken := by
  cases m with
  | send command =>
    rw [l.note_send]
    unfold answered
    split <;> exact List.prefix_rfl
  | writer => exact List.prefix_append ..
  | connect | connecting | reader | close | closing | arrive | receive | dropReceiver =>
    exact List.prefix_rfl

namespace Client

theorem taken_prefix_ledger (c : Client) (l : Ledger) (moves : List Move) :
    l.taken <+: (c.ledger l moves).taken := by
  induction moves generalizing c l with
  | nil => exact List.prefix_rfl
  | cons m moves ih => exact (l.taken_prefix_note c m).trans (ih ..)

structure Accounts (c : Client) (l : Ledger) : Prop where
  tidy : c.Tidy
  prepared : c.queueHeld = true ∨ c.connecting ≠ none → c.writer = .idle
  queued : Queued c.queue c.session l
  handled : Handled c.writer c.session l
  delivered : Delivered c.session l

namespace Accounts

variable {c c' : Client} {l : Ledger} {m : Move}

theorem prepared_step (h : c.Accounts l) (hs : Step c m c') :
    c'.queueHeld = true ∨ c'.connecting ≠ none → c'.writer = .idle := by
  cases hs with
  | connect _ hq => exact fun _ => h.prepared (.inl hq)
  | connecting hc | connectFailed hc | connectedLate hc =>
    exact fun _ => h.prepared (.inr (by rw [hc]; exact nofun))
  | connected hc =>
    rintro (hq | hn)
    · cases (h.tidy.held hq).1.symm.trans hc
    · exact absurd rfl hn
  | writer hk =>
    intro hp
    have hi := h.prepared hp
    revert hk
    rw [hi]
    intro hk
    cases hk
    rfl
  | returned =>
    rintro (hq | hn)
    · cases hq
    · exact h.prepared (.inr hn)
  | stay | called | reader | close | joined | shutting | arrive => exact h.prepared

theorem aside (h : c.Accounts l) (hs : Step c m c') (hq : c'.queue = c.queue)
    (hw : c'.writer = c.writer ∨ c.writer = .idle ∧ c'.writer = .waiting)
    (hu : c.session.Unwritten c'.session) :
    c'.Accounts { l with discarded := l.discarded ++ c.queue.lost c'.queue } := by
  have hcancel : c.session.cancelled = true → c'.session.cancelled = true := fun hc => by
    cases hn : c'.session.cancelled with
    | true => rfl
    | false => cases hc.symm.trans (hs.cancelled_of_after hn)
  have hhandled : Handled c'.writer c.session l := by
    rcases hw with hw | ⟨hi, hw⟩
    · rw [hw]
      exact h.handled
    · rw [hw]
      refine h.handled.same ?_ ?_ <;> rw [hi]
      · exact nofun
      · rfl
  rw [hq, Mailbox.lost_of_receiving rfl, List.append_nil]
  exact {
    tidy := h.tidy.step hs
    prepared := h.prepared_step hs
    queued := hq ▸ h.queued.congr hs.config hs.cancelled_of_after
    handled := hhandled.of_eq rfl rfl rfl hcancel
    delivered := h.delivered.unwritten hu hs.config }

theorem send (h : c.Accounts l) (command : Command) :
    (c.step (.send command)).1.Accounts (l.note c (.send command)) := by
  have hk := c.step_send command
  rw [l.note_send]
  unfold Client.step Ledger.answered
  dsimp only
  revert hk
  fun_cases Client.send c command with
  | case1 => exact fun _ => h
  | case2 => exact fun _ => h
  | case3 _ _ queue ho =>
    intro hk
    exact {
      tidy := h.tidy.step hk
      prepared := h.prepared
      queued := h.queued.accept ho
      handled := h.handled.of_eq rfl rfl rfl id
      delivered := h.delivered.of_eq rfl }
  | case4 =>
    intro hk
    have hq : Queued c.queue (c.session.count .dropped) l := h.queued.congr rfl id
    have hu : c.session.Unwritten (c.session.count .dropped) := ⟨rfl, fun _ => .inl rfl⟩
    exact {
      tidy := h.tidy.step hk
      prepared := h.prepared
      queued := hq.of_eq rfl rfl rfl
      handled := h.handled.of_eq rfl rfl rfl id
      delivered := (h.delivered.unwritten hu rfl).of_eq rfl }
  | case5 => exact fun _ => h

theorem writer (h : c.Accounts l) (input : TaskInput) :
    (c.step (.writer input)).1.Accounts (l.note c (.writer input)) := by
  have hk := c.writer.step_kind input c.session c.queue
  have hf := c.writer.finishes input c.session c.queue
  exact {
    tidy := h.tidy.step (c.step_kind (.writer input))
    prepared := h.prepared_step (c.step_kind (.writer input))
    queued := h.queued.stepped hk input
    handled := (h.handled.stepped hk hf).of_eq rfl rfl rfl id
    delivered := (h.delivered.stepped hf).of_eq rfl }

theorem dropped (h : c.Accounts l) (hs : Step c m c') (hc : c.session.cancelled = true)
    (hq : c'.queue = c.queue.dropReceiver) (hw : c'.writer = c.writer)
    (hss : c'.session = c.session) :
    c'.Accounts { l with discarded := l.discarded ++ c.queue.lost c'.queue } := by
  have hd := h.queued.drop hc
  rw [← hq] at hd
  exact {
    tidy := h.tidy.step hs
    prepared := h.prepared_step hs
    queued := hss ▸ hd
    handled := by
      rw [hw, hss]
      exact h.handled.of_eq rfl rfl rfl id
    delivered := by
      rw [hss]
      exact h.delivered.of_eq rfl }

theorem connecting (h : c.Accounts l) (input : TaskInput) :
    (c.step (.connecting input)).1.Accounts (l.note c (.connecting input)) := by
  have hk := c.step_connecting input
  unfold Ledger.note Client.step
  dsimp only
  revert hk
  fun_cases stepConnecting c input with
  | case1 => exact fun hk => h.aside hk rfl (.inl rfl) (.refl _)
  | case2 result hc =>
    have hidle := h.prepared (.inr (by rw [hc]; exact Option.some_ne_none _))
    fun_cases connected c result with
    | case1 => exact fun hk => h.aside hk rfl (.inl rfl) (.refl _)
    | case2 => exact fun hk => h.aside hk rfl (.inr ⟨hidle, rfl⟩) (.refl _)
    | case3 k ho =>
      have hcancel := h.tidy.closing (h.tidy.ended (by simpa using ho))
      exact fun hk => h.dropped hk hcancel rfl rfl rfl
  | case3 call _ _ hc call' session hs =>
    have hu := (call.step_kind input c.session).unwritten
    rw [hs] at hu
    exact fun hk => h.aside hk rfl (.inl rfl) hu

theorem closing (h : c.Accounts l) (n : Nat) :
    (c.step (.closing n)).1.Accounts (l.note c (.closing n)) := by
  have hk := c.step_closing n
  unfold Ledger.note Client.step
  dsimp only
  revert hk
  fun_cases Client.stepClosing c n with
  | case5 hc queue =>
    intro hk
    have hcancel : c.session.cancelled = true := h.tidy.closing (ne_nil_of_getElem? hc)
    rcases Bool.eq_false_or_eq_true c.queueHeld with hq | hq
    · have hdrop : queue = c.queue.dropReceiver := if_pos hq
      exact h.dropped hk hcancel hdrop rfl rfl
    · have hsame : queue = c.queue := if_neg (by rw [hq]; exact Bool.false_ne_true)
      exact h.aside hk hsame (.inl rfl) (.refl _)
  | case6 call _ hc call' session hs =>
    have hu := call.unwritten_step c.session
    rw [hs] at hu
    exact fun hk => h.aside hk rfl (.inl rfl) hu
  | case1 => exact fun hk => h.aside hk rfl (.inl rfl) (.refl _)
  | case2 => exact fun hk => h.aside hk rfl (.inl rfl) (.refl _)
  | case3 => exact fun hk => h.aside hk rfl (.inl rfl) (.refl _)
  | case4 => exact fun hk => h.aside hk rfl (.inl rfl) (.refl _)

theorem receive (h : c.Accounts l) (channel : Channel) :
    (c.step (.receive channel)).1.Accounts (l.note c (.receive channel)) := by
  have hk := c.step_receive channel
  have hs : (c.receive channel).1.queue = c.queue ∧ (c.receive channel).1.writer = c.writer ∧
      c.session.Unwritten (c.receive channel).1.session := by
    cases channel with
    | errors =>
      refine ⟨rfl, rfl, ?_⟩
      unfold Client.receive
      cases c.reader <;> exact ⟨rfl, fun _ => .inl rfl⟩
    | acks | trades | bookUpdates | cancelAcks | reconnects =>
      exact ⟨rfl, rfl, rfl, fun _ => .inl rfl⟩
  exact h.aside hk hs.1 (.inl hs.2.1) hs.2.2

theorem step (h : c.Accounts l) (m : Move) : (c.step m).1.Accounts (l.note c m) := by
  have hk := c.step_kind m
  cases m with
  | send command => exact h.send command
  | connecting input => exact h.connecting input
  | writer input => exact h.writer input
  | closing n => exact h.closing n
  | receive channel => exact h.receive channel
  | connect =>
    have hs : c.connect.1.queue = c.queue ∧ c.connect.1.writer = c.writer ∧
        c.connect.1.session = c.session := by
      fun_cases Client.connect c <;> exact ⟨rfl, rfl, rfl⟩
    refine h.aside hk hs.1 (.inl hs.2.1) ?_
    exact ⟨congrArg (·.counters.sent) hs.2.2, fun id => .inl (congrArg (·.output? id) hs.2.2)⟩
  | reader input => exact h.aside hk rfl (.inl rfl) (c.reader.step_kind input c.session).unwritten
  | close => exact h.aside hk rfl (.inl rfl) ⟨rfl, fun _ => .inl rfl⟩
  | arrive id a =>
    exact h.aside hk rfl (.inl rfl) (Session.unwritten_updateLink fun _ _ => ⟨rfl, rfl⟩)
  | dropReceiver channel => exact h.aside hk rfl (.inl rfl) ⟨rfl, fun _ => .inl rfl⟩

theorem run (h : c.Accounts l) (moves : List Move) : (c.run moves).Accounts (c.ledger l moves) := by
  induction moves generalizing c l with
  | nil => exact h
  | cons m moves ih => exact ih (h.step m)

theorem send_valid (h : c.Accounts l) {command : Command} (hc : c.session.cancelled = false)
    (hv : command.check c.session.config.symbolFields = .ok ()) :
    if c.queue.toList.length = c.session.config.channelCapacity then
      c.send command =
        ({ c with session.counters.dropped := c.session.counters.dropped + 1 },
          .result (.error .queueFull))
    else ∃ queue, c.send command = ({ c with queue }, .result (.ok ())) ∧
      queue.toList = c.queue.toList ++ [command] := by
  have ho := Mailbox.offer_of_receiving (h.queued.receiving hc) h.queued.reserved command
  have hs : ¬ c.session.cancelled = true := by
    rw [hc]
    exact nofun
  rw [← h.queued.capacity]
  rcases Nat.lt_or_ge c.queue.toList.length c.queue.capacity with hlt | hge
  · rw [if_pos hlt] at ho
    rw [if_neg (Nat.ne_of_lt hlt)]
    refine ⟨{ c.queue with items := c.queue.items.push command }, ?_,
      Fifo.toList_push c.queue.items command⟩
    unfold Client.send
    rw [if_neg hs, hv, ho]
  · rw [if_neg (Nat.not_lt.mpr hge)] at ho
    rw [if_pos (Nat.le_antisymm h.queued.room hge)]
    unfold Client.send
    rw [if_neg hs, hv, ho]
    rfl

end Accounts

theorem accounts_new {config : Config} {c : Client} (h : new config = .ok c) : c.Accounts {} := by
  have ht := tidy_new h
  obtain rfl := new_eq h
  exact {
    tidy := ht
    prepared := fun _ => rfl
    queued := {
      order := rfl
      capacity := rfl
      reserved := rfl
      sending := rfl
      room := Nat.zero_le _
      receiving := fun _ => rfl
      discarded := fun hn => absurd rfl hn
      gone := nofun }
    handled := ⟨rfl, Nat.zero_le 1, fun hn => absurd rfl hn⟩
    delivered := ⟨rfl, fun _ => .inl ⟨rfl, rfl⟩⟩ }

theorem send_invalid (c : Client) {command : Command} {e : ValidationError}
    (h : command.check c.session.config.symbolFields = .error e) :
    c.send command =
      (c, .result (.error (if c.session.cancelled then .closed else .validation e))) := by
  unfold send
  rw [h]
  split <;> rfl

end Client

def Move.isValidSend (symbols : SymbolFields) : Move → Bool
  | .send command => (command.check symbols).isOk
  | _ => false

namespace Client

variable {c : Client} {l : Ledger} {m : Move}

theorem Accounts.kept (h : c.Accounts l) (hc : c.session.cancelled = false) :
    l.abandoned = [] ∧ l.discarded = [] := by
  refine ⟨Decidable.of_not_not fun hn => ?_, Decidable.of_not_not fun hn => ?_⟩
  · cases hc.symm.trans (h.handled.abandoned hn).2
  · cases (h.queued.discarded hn).symm.trans (h.queued.receiving hc)

theorem Accounts.room (h : c.Accounts l) :
    c.queue.toList.length ≤ c.session.config.channelCapacity :=
  h.queued.capacity ▸ h.queued.room

theorem Accounts.length_accepted (h : c.Accounts l) (hc : c.session.cancelled = false) :
    l.accepted.length = l.taken.length + c.queue.toList.length := by
  rw [h.queued.order, (h.kept hc).2, List.length_append]
  rfl

theorem Accounts.length_note (h : c.Accounts l) (hc : c.session.cancelled = false) (m : Move) :
    if c.queue.toList.length = c.session.config.channelCapacity then
      (l.note c m).accepted.length = l.accepted.length ∧
        (l.note c m).refused.length =
          l.refused.length + if m.isValidSend c.session.config.symbolFields then 1 else 0
    else
      (l.note c m).accepted.length =
          l.accepted.length + (if m.isValidSend c.session.config.symbolFields then 1 else 0) ∧
        (l.note c m).refused.length = l.refused.length := by
  cases m with
  | send command =>
    rw [l.note_send, Move.isValidSend]
    cases hv : command.check c.session.config.symbolFields with
    | error e =>
      rw [send_invalid c hv, hc]
      split <;> exact ⟨rfl, rfl⟩
    | ok =>
      have hs := h.send_valid hc hv
      split at hs
      next hfull =>
        rw [if_pos hfull, hs]
        exact ⟨rfl, List.length_append⟩
      next hfull =>
        obtain ⟨queue, hs, _⟩ := hs
        rw [if_neg hfull, hs]
        exact ⟨List.length_append, rfl⟩
  | connect | connecting | reader | writer | close | closing | arrive | receive | dropReceiver =>
    split <;> exact ⟨rfl, rfl⟩

theorem Accounts.length_ledger (h : c.Accounts l) {moves : List Move}
    (hc : (c.run moves).session.cancelled = false) :
    (c.ledger l moves).accepted.length + (c.ledger l moves).refused.length =
      l.accepted.length + l.refused.length +
        moves.countP (Move.isValidSend c.session.config.symbolFields) := by
  induction moves generalizing c l with
  | nil => rfl
  | cons m moves ih =>
    have hs := (c.step_kind m).cancelled_of_after (cancelled_of_run hc)
    have hi := ih (h.step m) hc
    have hnote := h.length_note hs m
    rw [(c.step_kind m).config] at hi
    rw [List.countP_cons, ledger, hi]
    split at hnote <;> omega

theorem Accounts.stalled (h : c.Accounts l) {moves : List Move}
    (hc : (c.run moves).session.cancelled = false) (ht : (c.ledger l moves).taken = l.taken) :
    (c.ledger l moves).refused.length = l.refused.length +
      (moves.countP (Move.isValidSend c.session.config.symbolFields) -
        (c.session.config.channelCapacity - c.queue.toList.length)) := by
  induction moves generalizing c l with
  | nil =>
    rw [List.countP_nil, Nat.zero_sub]
    rfl
  | cons m moves ih =>
    have hnext : (c.step m).1.session.cancelled = false := cancelled_of_run hc
    have hs := (c.step_kind m).cancelled_of_after hnext
    have hkept : (l.note c m).taken = l.taken := by
      have hp := l.taken_prefix_note c m
      have hp' := (c.step m).1.taken_prefix_ledger (l.note c m) moves
      have hle : (l.note c m).taken.length ≤ l.taken.length := ht ▸ hp'.length_le
      exact (hp.eq_of_length_le hle).symm
    have hi := ih (h.step m) hc (ht.trans hkept.symm)
    have hlen := h.length_accepted hs
    have hlen' := (h.step m).length_accepted hnext
    have hnote := h.length_note hs m
    have hroom := (h.step m).room
    rw [(c.step_kind m).config] at hi hroom
    rw [hkept] at hlen'
    rw [List.countP_cons, ledger, hi]
    generalize (if m.isValidSend c.session.config.symbolFields then 1 else 0) = offered at hnote ⊢
    split at hnote <;> omega

theorem Accounts.balance (h : c.Accounts l) :
    l.accepted.length = l.sent + l.failed + c.queue.toList.length +
      (l.abandoned ++ c.writer.inHand).length + l.discarded.length := by
  have hf : l.finished.length = l.sent + l.failed := by
    rw [List.length_eq_countP_add_countP fun p => p.2.isWritten]
    simp only [Ledger.sent, Ledger.failed, Bool.not_eq_true, Bool.decide_eq_false]
  rw [h.queued.order, h.handled.order]
  simp only [List.length_append, List.length_map, hf]
  omega

theorem Accounts.frames (h : c.Accounts l) (id : LinkId) :
    l.frames c.session.config.wireFormat id =
      match c.session.link? id with
      | none => []
      | some link => link.written.toList.map .ok := by
  have hd := h.delivered.frames id
  unfold Session.output? at hd
  cases hl : c.session.link? id with
  | none =>
    rw [hl] at hd
    rcases hd with ⟨_, hd⟩ | ⟨_, hn, _⟩
    · exact hd
    · cases hn
  | some link =>
    rw [hl] at hd
    rcases hd with ⟨hn, _⟩ | ⟨written, hs, hd⟩
    · cases hn
    · obtain ⟨_, rfl⟩ := Prod.mk.inj (Option.some.inj hs)
      exact hd

theorem stepWriter_waiting {command : Command} {rest : List Command} (hw : c.writer = .waiting)
    (hq : c.queue.toList = command :: rest) :
    (c.stepWriter .proceed).writer = .holding command ∧
      (c.stepWriter .proceed).queue.toList = rest := by
  obtain ⟨queue, hr, hl⟩ := Mailbox.receive_of_toList_cons hq
  unfold stepWriter WriterPhase.step
  rw [hw]
  dsimp only
  rw [hr]
  exact ⟨rfl, hl⟩

theorem stepWriter_holding {command : Command} (hw : c.writer = .holding command) :
    match c.session.live? with
    | some id => (c.stepWriter .proceed).writer = .writing command id
    | none => c.writer.finished? .proceed c.session = some (command, .failed .notConnected) := by
  unfold stepWriter WriterPhase.step WriterPhase.finished?
  rw [hw]
  cases c.session.live? <;> rfl

theorem finished?_writing (command : Command) (id : LinkId) (sent : Except String Unit)
    (s : Session) :
    (WriterPhase.writing command id).finished? (.sent sent) s = some (command, .written id) ∨
      ∃ e, (WriterPhase.writing command id).finished? (.sent sent) s =
        some (command, .failed e) := by
  unfold WriterPhase.finished?
  dsimp only
  split
  · exact .inl rfl
  · exact .inr ⟨_, rfl⟩

structure Accounted (config : Config) (moves : List Move) (c : Client) (l : Ledger) : Prop where
  queued : l.accepted = l.taken ++ (l.discarded ++ c.queue.toList)
  /-- The write loop gets through with them in the same order, one at a time. -/
  taken : l.taken = l.finished.map Prod.fst ++ (l.abandoned ++ c.writer.inHand)
  single : (l.abandoned ++ c.writer.inHand).length ≤ 1
  balance : l.accepted.length = l.sent + l.failed + c.queue.toList.length +
    (l.abandoned ++ c.writer.inHand).length + l.discarded.length
  room : c.queue.toList.length ≤ config.channelCapacity
  kept : c.session.cancelled = false → l.abandoned = [] ∧ l.discarded = []
  gone : l.discarded ≠ [] → c.queue.toList = []
  sent : c.session.counters.sent = .ofNat l.sent
  frames : ∀ id, l.frames config.wireFormat id =
    match c.session.link? id with
    | none => []
    | some link => link.written.toList.map .ok
  stepped : ∀ input,
    c.session.Noted (c.writer.finished? input c.session) (c.stepWriter input).session
  takes : c.writer = .waiting → ∀ command rest, c.queue.toList = command :: rest →
    (c.stepWriter .proceed).writer = .holding command ∧
      (c.stepWriter .proceed).queue.toList = rest
  tried : ∀ command, c.writer = .holding command →
    match c.session.live? with
    | some id => (c.stepWriter .proceed).writer = .writing command id
    | none => c.writer.finished? .proceed c.session = some (command, .failed .notConnected)
  settled : ∀ command id, c.writer = .writing command id → ∀ sent,
    c.writer.finished? (.sent sent) c.session = some (command, .written id) ∨
      ∃ e, c.writer.finished? (.sent sent) c.session = some (command, .failed e)
  invalid : ∀ command e, command.check config.symbolFields = .error e →
    c.send command =
      (c, .result (.error (if c.session.cancelled then .closed else .validation e)))
  valid : c.session.cancelled = false → ∀ command, command.check config.symbolFields = .ok () →
    if c.queue.toList.length = config.channelCapacity then
      c.send command =
        ({ c with session.counters.dropped := c.session.counters.dropped + 1 },
          .result (.error .queueFull))
    else ∃ queue, c.send command = ({ c with queue }, .result (.ok ())) ∧
      queue.toList = c.queue.toList ++ [command]
  offered : c.session.cancelled = false →
    l.accepted.length + l.refused.length = moves.countP (Move.isValidSend config.symbolFields)
  /-- As long as the write loop takes nothing more, what the queue has no room for is refused. -/
  stalled : ∀ more : List Move, (c.run more).session.cancelled = false →
    (c.ledger l more).taken = l.taken →
      (c.ledger l more).refused.length = l.refused.length +
        (more.countP (Move.isValidSend config.symbolFields) -
          (config.channelCapacity - c.queue.toList.length))

/-- Whatever the callers, the tasks and the network do, and in whatever order: every command that was given
to the client is accounted for at any moment. -/
theorem every_command_accounted_for {config : Config} {c : Client} (h : new config = .ok c)
    (moves : List Move) : Accounted config moves (c.run moves) (c.ledger {} moves) := by
  have hn := accounts_new h
  have ha := hn.run moves
  have hinit : c.session.config = config := by
    rw [new_eq h]
    rfl
  have hconfig := c.config_run moves
  rw [hinit] at hconfig
  have hlen (hc : (c.run moves).session.cancelled = false) :
      (c.ledger {} moves).accepted.length + (c.ledger {} moves).refused.length =
        moves.countP (Move.isValidSend config.symbolFields) := by
    have hl := hn.length_ledger hc
    rw [hinit] at hl
    exact hl.trans (Nat.zero_add _)
  exact {
    queued := ha.queued.order
    taken := ha.handled.order
    single := ha.handled.single
    balance := ha.balance
    room := hconfig ▸ ha.room
    kept := ha.kept
    gone := fun hd => ha.queued.gone (ha.queued.discarded hd)
    sent := ha.delivered.sent
    frames := hconfig ▸ ha.frames
    stepped := fun input => ((c.run moves).writer.finishes input _ _).noted
    takes := fun hw _ _ hq => stepWriter_waiting hw hq
    tried := fun _ hw => stepWriter_holding hw
    settled := fun command id hw sent => hw ▸ finished?_writing command id sent _
    invalid := fun _ _ hv => send_invalid _ (hconfig ▸ hv)
    valid := fun hc _ hv => hconfig ▸ ha.send_valid hc (hconfig ▸ hv)
    offered := hlen
    stalled := fun more hc ht => by
      have hs := ha.stalled hc ht
      rw [hconfig] at hs
      exact hs }

def faultyMoves : List Move :=
  .send (.cancel ⟨1, 7, none⟩) :: .send .flush :: .send (.cancel ⟨1, 8, none⟩) :: connectMoves ++
    [.writer .proceed, .writer .proceed, .writer (.sent (.ok ())),
      .writer .proceed, .writer .proceed, .writer (.sent (.error "reset")), .writer .proceed]

theorem accounted_for_on_faulty_link :
    new lineConfig = .ok lineClient ∧
      (lineClient.ledger {} faultyMoves).finished =
        [(.cancel ⟨1, 7, none⟩, .written 0), (.flush, .failed (.io "reset"))] ∧
      (lineClient.run faultyMoves).writer = .holding (.cancel ⟨1, 8, none⟩) ∧
      Accounted lineConfig faultyMoves (lineClient.run faultyMoves)
        (lineClient.ledger {} faultyMoves) := by
  have hn : new lineConfig = .ok lineClient := rfl
  exact ⟨hn, by rfl, by rfl, every_command_accounted_for hn faultyMoves⟩

def unconnectedMoves : List Move :=
  [.send .flush, .send .flush, .close, .closing 0, .closing 0, .closing 0, .closing 0, .closing 0]

/-- Commands that are queued when the client is closed are neither sent nor failed. -/
theorem discarded_on_close :
    ¬ ∀ (config : Config) (c : Client), new config = .ok c → ∀ moves, ∃ rest ≤ 1,
      (c.ledger {} moves).accepted.length =
        (c.ledger {} moves).sent + (c.ledger {} moves).failed +
          (c.run moves).queue.toList.length + rest := by
  intro h
  obtain ⟨rest, hle, he⟩ := h lineConfig lineClient rfl unconnectedMoves
  change 2 = 0 + 0 + 0 + rest at he
  omega

end Client
end OrderEntry

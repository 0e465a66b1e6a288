import OrderEntry.Proofs.Session.FailedConnects
import OrderEntry.Proofs.Session.Outbound

/-! Connects that are tried again until one succeeds. A client on which some have failed is taken by the next one
as a new client would be, and the write loop that it starts finds the commands of all this time in the queue.
Main statement: connects that fail return their cause and leave no trace, the one that succeeds starts both
loops, and there is no other start. -/

namespace OrderEntry
namespace WriterPhase

def awaits : WriterPhase → TaskInput → Bool
  | waiting, .proceed | holding _, .proceed | writing .., .sent _ => true
  | _, _ => false

def left : WriterPhase → Nat
  | holding _ => 2
  | writing .. => 1
  | idle | waiting | stopped => 0

inductive Served : WriterPhase → Bool → WriterPhase → Prop
  | unasked (phase : WriterPhase) : Served phase false phase
  | taken (c : Command) : Served waiting true (holding c)
  | found (c : Command) (id : LinkId) : Served (holding c) true (writing c id)
  | unlinked (c : Command) : Served (holding c) true waiting
  | settled (c : Command) (id : LinkId) : Served (writing c id) true waiting

theorem served (phase : WriterPhase) (input : TaskInput) {s : Session} {queue : Mailbox Command}
    (hc : s.cancelled = false) (hq : queue.toList ≠ []) :
    Served phase (phase.awaits input) (phase.step input s queue).1 := by
  obtain ⟨command, rest, hl⟩ := List.exists_cons_of_ne_nil hq
  obtain ⟨_, hitem, _⟩ := Mailbox.receive_of_toList_cons hl
  fun_cases WriterPhase.step phase input s queue with
  | case1 c => exact .taken c
  | case2 queue' hr => cases hr.symm.trans hitem
  | case3 queue' hr => cases hr.symm.trans hitem
  | case4 h => cases hc.symm.trans h
  | case5 => exact .unasked _
  | case6 c id => exact .found c id
  | case7 c h phase s' hw =>
    cases hw
    exact .unlinked c
  | case8 c h =>
    rw [hc] at h
    cases h
  | case9 => exact .unasked _
  | case10 c id sent result s' h phase s'' hw =>
    cases result with
    | ok _ =>
      cases hw
      exact .settled c id
    | error e =>
      cases hw
      exact .settled c id
  | case11 c id h => cases hc.symm.trans h
  | case12 => exact .unasked _
  | case13 _ _ hwaiting _ hholding _ hwriting _ =>
    have hnot : phase.awaits input = false := by
      unfold awaits
      split
      · exact (hwaiting rfl rfl).elim
      · exact (hholding _ rfl rfl).elim
      · exact (hwriting _ _ _ rfl rfl).elim
      · rfl
    rw [hnot]
    exact .unasked phase

theorem Served.left_le {phase phase' : WriterPhase} {awaited : Bool} (h : Served phase awaited phase') :
    phase'.left + awaited.toNat ≤ 3 * (phase.taken? phase').toList.length + phase.left := by
  cases h with
  | unasked => simp [left]
  | taken | found | unlinked | settled => simp [left, taken?]

end WriterPhase

theorem Ledger.accepted_prefix_note (l : Ledger) (c : Client) (m : Move) :
    l.accepted <+: (l.note c m).accepted := by
  cases m with
  | send command =>
    rw [l.note_send]
    unfold answered
    split
    · exact List.prefix_append ..
    · exact List.prefix_rfl
    · exact List.prefix_rfl
  | connect | connecting | reader | writer | close | closing | arrive | receive | dropReceiver =>
    exact List.prefix_rfl

namespace Client

theorem accepted_prefix_ledger (c : Client) (l : Ledger) (moves : List Move) :
    l.accepted <+: (c.ledger l moves).accepted := by
  induction moves generalizing c l with
  | nil => exact List.prefix_rfl
  | cons m moves ih => exact (l.accepted_prefix_note c m).trans (ih ..)

def beginConnect : List Move := [.connect, .connecting .proceed, .connecting .proceed]

def endConnect (outcome : DialOutcome) : List Move :=
  [.connecting (.dialed outcome), .connecting .proceed, .connecting .proceed, .connecting .proceed,
    .connecting .proceed, .connecting .proceed]

def connectWith (outcome : DialOutcome) : List Move := beginConnect ++ endConnect outcome

def linked (c : Client) (remote : String) : Client :=
  { c with
    session := { c.session with
      state := .connected
      slot := some 0
      links := [c.session.newLink remote] }
    queueHeld := false
    connecting := none
    reader := .looking 0
    writer := .waiting
    handles := true }

section

variable {config : Config} {b c : Client} {l : Ledger} {m : Move} {moves : List Move}

theorem Fresh.begin_connect (h : b.Fresh config) :
    b.run beginConnect = b.placed .connecting (some .dialing) ∧
      b.observe connectResult? beginConnect = [] := by
  obtain ⟨⟨_, _, _, _, counters, outputs, _⟩, queue, _, _, _, _, _, _, _⟩ := b
  obtain ⟨rfl, rfl, rfl, rfl, rfl, rfl, rfl, rfl, rfl, rfl, rfl⟩ := h
  exact ⟨rfl, rfl⟩

theorem Fresh.end_connect_failed (h : b.Fresh config) {outcome : DialOutcome} {cause : TransportError}
    (ho : outcome.link config = .error cause) :
    (b.placed .connecting (some .dialing)).run (endConnect outcome) = b ∧
      (b.placed .connecting (some .dialing)).observe connectResult? (endConnect outcome) =
        [failedConnect cause] := by
  obtain ⟨⟨_, _, _, _, counters, outputs, _⟩, queue, _, _, _, _, _, _, _⟩ := b
  obtain ⟨rfl, rfl, rfl, rfl, rfl, rfl, rfl, rfl, rfl, rfl, rfl⟩ := h
  cases outcome with
  | opened remote => cases ho
  | unresolved | failed | expired =>
    cases ho
    exact ⟨rfl, rfl⟩

theorem Fresh.end_connect_opened (h : b.Fresh config) (remote : String) :
    (b.placed .connecting (some .dialing)).run (endConnect (.opened remote)) = b.linked remote ∧
      (b.placed .connecting (some .dialing)).observe connectResult? (endConnect (.opened remote)) =
        [.ok ()] := by
  obtain ⟨⟨_, _, _, _, counters, outputs, _⟩, queue, _, _, _, _, _, _, _⟩ := b
  obtain ⟨rfl, rfl, rfl, rfl, rfl, rfl, rfl, rfl, rfl, rfl, rfl⟩ := h
  exact ⟨rfl, rfl⟩

theorem Fresh.connect_fails (h : b.Fresh config) {outcome : DialOutcome} {cause : TransportError}
    (ho : outcome.link config = .error cause) :
    b.run (connectWith outcome) = b ∧
      b.observe connectResult? (connectWith outcome) = [failedConnect cause] := by
  obtain ⟨hbegin, hnone⟩ := h.begin_connect
  rw [connectWith, run_append, observe_append, hbegin, hnone]
  exact h.end_connect_failed ho

theorem Fresh.connect_succeeds (h : b.Fresh config) (remote : String) :
    b.run (connectWith (.opened remote)) = b.linked remote ∧
      b.observe connectResult? (connectWith (.opened remote)) = [.ok ()] := by
  obtain ⟨hbegin, hnone⟩ := h.begin_connect
  rw [connectWith, run_append, observe_append, hbegin, hnone]
  exact h.end_connect_opened remote

/-! ### The start of the loops -/

/-- How many connects have succeeded, each of which starts both loops. -/
def starts (c : Client) (moves : List Move) : Nat := (c.observe connectResult? moves).countP Except.isOk

inductive Begun (c : Client) : Nat → Prop
  | before (reader : c.reader = .idle) (writer : c.writer = .idle) : Begun c 0
  | after (held : c.queueHeld = false) (connecting : c.connecting = none) : Begun c 1

theorem idle_writer_step {phase : WriterPhase} {s s' : Session} {queue queue' : Mailbox Command}
    (h : WriterPhase.Step .idle s queue phase s' queue') : phase = .idle := by
  cases h
  rfl

theorem idle_of_step {c' : Client} (hs : Step c m c') (hm : m.isConnect = false)
    (hr : c.reader = .idle) (hw : c.writer = .idle) : c'.reader = .idle ∧ c'.writer = .idle := by
  cases hs with
  | called _ _ hg => exact ⟨granted_idle hg hr, hw⟩
  | reader h => exact ⟨(idle_step h hr).1, hw⟩
  | writer h => exact ⟨hr, idle_writer_step (hw ▸ h)⟩
  | connect | connecting | connectFailed | connected | connectedLate => cases hm
  | stay | close | joined | shutting | returned | arrive => exact ⟨hr, hw⟩

theorem begun_connecting (ht : c.Tidy) (hr : c.reader = .idle) (hw : c.writer = .idle)
    (input : TaskInput) :
    (c.step (.connecting input)).1.Begun
      ((connectResult? c (.connecting input) (c.step (.connecting input)).1).toList.countP
        Except.isOk) := by
  simp only [connectResult?, Client.step]
  fun_cases stepConnecting c input with
  | case1 => exact .before hr hw
  | case2 result hc =>
    have hheld : c.queueHeld = false := by
      cases hq : c.queueHeld with
      | false => rfl
      | true => cases (ht.held hq).1.symm.trans hc
    fun_cases connected c result with
    | case1 => exact .before hr hw
    | case2 => exact .after hheld rfl
    | case3 => exact .before hr hw
  | case3 => exact .before hr hw

theorem stays_begun {c' : Client} (hs : Step c m c') (hh : c.queueHeld = false)
    (hc : c.connecting = none) : c'.queueHeld = false ∧ c'.connecting = none := by
  cases hs with
  | connect _ hq => cases hh.symm.trans hq
  | connecting hn | connectFailed hn | connected hn | connectedLate hn => cases hc.symm.trans hn
  | returned => exact ⟨rfl, hc⟩
  | stay | called | reader | writer | close | joined | shutting | arrive => exact ⟨hh, hc⟩

theorem Begun.step {n : Nat} (h : c.Begun n) (ht : c.Tidy) (m : Move) :
    (c.step m).1.Begun (n + (connectResult? c m (c.step m).1).toList.countP Except.isOk) := by
  cases h with
  | before hr hw =>
    rw [Nat.zero_add]
    cases hm : m.isConnect with
    | false =>
      obtain ⟨hr', hw'⟩ := idle_of_step (c.step_kind m) hm hr hw
      rw [(observed_other hm).1]
      exact .before hr' hw'
    | true =>
      cases m with
      | connecting input => exact begun_connecting ht hr hw input
      | connect =>
        have hs : c.connect.1.reader = c.reader ∧ c.connect.1.writer = c.writer := by
          fun_cases connect c <;> exact ⟨rfl, rfl⟩
        exact .before (hs.1.trans hr) (hs.2.trans hw)
      | send | reader | writer | close | closing | arrive | receive | dropReceiver => cases hm
  | after hh hc =>
    have hnone : connectResult? c m (c.step m).1 = none := by
      cases m with
      | connecting input => simp only [connectResult?, Client.step, stepConnecting, hc]
      | connect | send | reader | writer | close | closing | arrive | receive | dropReceiver =>
        simp [connectResult?]
    obtain ⟨hh', hc'⟩ := stays_begun (c.step_kind m) hh hc
    rw [hnone]
    exact .after hh' hc'

theorem Begun.run {n : Nat} (h : c.Begun n) (ht : c.Tidy) (moves : List Move) :
    (c.run moves).Begun (n + c.starts moves) := by
  induction moves generalizing c n with
  | nil => exact h
  | cons m moves ih =>
    have hrun := ih (h.step ht m) (ht.step (c.step_kind m))
    rw [Nat.add_assoc] at hrun
    unfold starts at hrun ⊢
    rw [observe, List.countP_append]
    exact hrun

theorem Begun.connect_refused (h : c.Begun 1) (hc : c.session.cancelled = false) :
    c.step .connect = (c, .result (.error .alreadyConnected)) := by
  cases h with
  | after hh =>
    simp [Client.step, Client.connect, hc, hh, refuse]

/-! ### The write loop at work -/

def served? (c : Client) (m : Move) (_ : Client) : Option Unit :=
  match m with
  | .writer input => if c.writer.awaits input then some () else none
  | _ => none

theorem length_served? (c : Client) (input : TaskInput) (c' : Client) :
    (served? c (.writer input) c').toList.length = (c.writer.awaits input).toNat := by
  cases h : c.writer.awaits input <;> simp [served?, h]

theorem left_of_step {c' : Client} (ha : c.Accounts l) (hs : Step c m c')
    (hm : ∀ input, m ≠ .writer input) : c'.writer.left = c.writer.left := by
  cases hs with
  | connected hc =>
    rw [ha.prepared (.inr (by rw [hc]; exact nofun))]
    rfl
  | writer => exact absurd rfl (hm _)
  | stay | called | connect | connecting | connectFailed | connectedLate | reader | close | joined
  | shutting | returned | arrive => rfl

theorem served_step (ha : c.Accounts l) (hc : c.session.cancelled = false)
    (hn : l.taken.length < l.accepted.length) (m : Move) :
    3 * l.taken.length + (c.step m).1.writer.left + (served? c m (c.step m).1).toList.length ≤
      3 * (l.note c m).taken.length + c.writer.left := by
  have hother (hm : ∀ input, m ≠ .writer input) (hs : served? c m (c.step m).1 = none) :
      3 * l.taken.length + (c.step m).1.writer.left + (served? c m (c.step m).1).toList.length ≤
        3 * (l.note c m).taken.length + c.writer.left := by
    have hkept := (l.taken_prefix_note c m).length_le
    rw [left_of_step ha (c.step_kind m) hm, hs, Option.toList_none, List.length_nil]
    omega
  cases m with
  | writer input =>
    have hlen := ha.length_accepted hc
    have hq : c.queue.toList ≠ [] := by
      intro hnil
      rw [hnil, List.length_nil] at hlen
      omega
    have hleft := (c.writer.served input hc hq).left_le
    have hnote : (l.note c (.writer input)).taken.length = l.taken.length +
        (c.writer.taken? (c.writer.step input c.session c.queue).1).toList.length :=
      List.length_append
    have hwriter : (c.step (.writer input)).1.writer = (c.writer.step input c.session c.queue).1 := rfl
    rw [length_served?, hnote, hwriter]
    omega
  | send | connect | connecting | reader | close | closing | arrive | receive | dropReceiver =>
    exact hother nofun rfl

theorem served_run (ha : c.Accounts l) (hc : (c.run moves).session.cancelled = false) {n : Nat}
    (hn : n ≤ l.accepted.length) :
    n ≤ (c.ledger l moves).taken.length ∨
      3 * l.taken.length + (c.run moves).writer.left + (c.observe served? moves).length ≤
        3 * (c.ledger l moves).taken.length + c.writer.left := by
  induction moves generalizing c l with
  | nil => exact .inr (Nat.le_refl _)
  | cons m moves ih =>
    have hlive := @cancelled_of_run c (m :: moves) hc
    have hgrown := (l.accepted_prefix_note c m).length_le
    -- while fewer than `n` are taken the queue is not empty, so this input counts; after that nothing is to show
    rcases Nat.lt_or_ge l.taken.length n with hlt | hge
    · refine (ih (ha.step m) hc (Nat.le_trans hn hgrown)).imp_right fun hrun => ?_
      have hstep := served_step ha hlive (Nat.lt_of_lt_of_le hlt hn) m
      rw [observe, List.length_append]
      change _ ≤ 3 * ((c.step m).1.ledger (l.note c m) moves).taken.length + _
      change _ + ((c.step m).1.run moves).writer.left + _ ≤ _
      omega
    · exact .inl (Nat.le_trans hge (c.taken_prefix_ledger l (m :: moves)).length_le)

theorem ledger_append (c : Client) (l : Ledger) (before after : List Move) :
    c.ledger l (before ++ after) = (c.run before).ledger (c.ledger l before) after := by
  induction before generalizing c l with
  | nil => rfl
  | cons m before ih => exact ih ..

theorem served_queue (ha : c.Accounts l) (hw : c.writer = .waiting)
    (hc : (c.run moves).session.cancelled = false) {queued : List Command} (hq : queued <+: l.accepted) :
    queued <+: (c.ledger l moves).taken ++ (c.run moves).queue.toList ∧
      (3 * queued.length ≤ (c.observe served? moves).length → queued <+: (c.ledger l moves).taken) := by
  have hend := ha.run moves
  have horder : (c.ledger l moves).accepted = (c.ledger l moves).taken ++ (c.run moves).queue.toList := by
    rw [hend.queued.order, (hend.kept hc).2, List.nil_append]
  have hstart : queued <+: (c.ledger l moves).accepted := hq.trans (c.accepted_prefix_ledger l moves)
  rw [horder] at hstart
  refine ⟨hstart, fun henough => ?_⟩
  have hlen : queued.length ≤ (c.ledger l moves).taken.length := by
    rcases served_run ha hc hq.length_le with hle | hle
    · exact hle
    · rw [hw, WriterPhase.left] at hle
      omega
  exact List.prefix_of_prefix_length_le hstart (List.prefix_append ..) hlen

/-! ### Before the first start -/

theorem taken_of_not_started (h : c.Begun 0) (ht : c.Tidy) (hs : c.starts moves = 0) :
    (c.ledger l moves).taken = l.taken := by
  induction moves generalizing c l with
  | nil => rfl
  | cons m moves ih =>
    unfold starts at hs
    rw [observe, List.countP_append] at hs
    obtain ⟨hm, hrest⟩ := Nat.add_eq_zero_iff.mp hs
    have hstep := h.step ht m
    rw [hm] at hstep
    have hnote : (l.note c m).taken = l.taken := by
      cases m with
      | writer input =>
        cases h with
        | before _ hw =>
          change l.taken ++ (c.writer.taken? _).toList = _
          rw [hw]
          exact List.append_nil _
      | send command =>
        rw [l.note_send]
        unfold Ledger.answered
        split <;> rfl
      | connect | connecting | reader | close | closing | arrive | receive | dropReceiver => rfl
    exact (ih hstep (ht.step (c.step_kind m)) hrest).trans hnote

theorem Fresh.begun (h : b.Fresh config) : b.Begun 0 := .before h.reader h.writer

theorem Fresh.starts_unlucky (h : b.Fresh config) (hu : ∀ m ∈ moves, m.isUnlucky = true) :
    b.starts moves = 0 := by
  have hresults := h.results_unlucky hu
  refine List.countP_eq_zero.mpr fun result hr => ?_
  have hmem : result ∈ (b.observe dialFault? moves).map failedConnect :=
    hresults ▸ List.mem_append_left _ hr
  obtain ⟨cause, -, rfl⟩ := List.mem_map.mp hmem
  exact nofun

end

/-- What connects whose dials fail have made of a client, and what becomes of the next one. -/
structure Retried (config : Config) (c : Client) (moves : List Move) : Prop where
  unlinked : (c.run moves).session.slot = none ∧ (c.run moves).session.links = [] ∧
    (c.run moves).reader = .idle ∧ (c.run moves).writer = .idle
  queued : (c.ledger {} moves).accepted = (c.run moves).queue.toList
  /-- Afterwards all is as if only the other moves had been made. -/
  restored : (c.run moves).connecting = none →
    (c.run moves).session.state = .disconnected ∧
      c.run moves = c.run (moves.filter fun m => !m.isConnect)
  returned : (c.run moves).connecting = none →
    c.observe connectResult? moves = (c.observe dialFault? moves).map failedConnect
  /-- Another connect that fails does so whatever happens meanwhile, and leaves only that behind. -/
  fails : (c.run moves).connecting = none → ∀ outcome cause, outcome.link config = .error cause →
    ∀ call : List Move, (∀ m ∈ call, m.isUnlucky = true) →
      call.filter Move.isConnect = connectWith outcome →
        (c.run moves).observe connectResult? call = [failedConnect cause] ∧
          ((c.run moves).run call).connecting = none ∧
          (c.run moves).run call = (c.run moves).run (call.filter fun m => !m.isConnect)
  succeeds : (c.run moves).connecting = none → ∀ remote,
    (c.run moves).observe connectResult? (connectWith (.opened remote)) = [.ok ()] ∧
      (c.run moves).run (connectWith (.opened remote)) = (c.run moves).linked remote
  /-- Then the write loop takes the commands in the order in which they were accepted, and with three inputs
  for each it has taken them all. -/
  served : (c.run moves).connecting = none → ∀ remote after,
    (((c.run moves).linked remote).run after).session.cancelled = false →
      (c.run moves).queue.toList <+:
          (c.ledger {} (moves ++ connectWith (.opened remote) ++ after)).taken ++
            (((c.run moves).linked remote).run after).queue.toList ∧
        (3 * (c.run moves).queue.toList.length ≤
            (((c.run moves).linked remote).observe served? after).length →
          (c.run moves).queue.toList <+:
            (c.ledger {} (moves ++ connectWith (.opened remote) ++ after)).taken)

section

variable {config : Config} {c : Client} {moves : List Move}

theorem Fresh.fails (h : c.Fresh config) {outcome : DialOutcome} {cause : TransportError}
    (ho : outcome.link config = .error cause) {call : List Move}
    (hu : ∀ m ∈ call, m.isUnlucky = true) (hcall : call.filter Move.isConnect = connectWith outcome) :
    c.observe connectResult? call = [failedConnect cause] ∧ (c.run call).connecting = none ∧
      c.run call = c.run (call.filter fun m => !m.isConnect) := by
  obtain ⟨hsame, hresult⟩ := h.connect_fails ho
  obtain ⟨state, phase, ha, hrun, hfresh⟩ := h.apart hu
  have halone := ha.alone
  have hresults := ha.results
  rw [h.placed_none, hcall] at halone hresults
  have hn : (c.run call).connecting = none := by
    rw [hrun]
    change phase = none
    have hphase := congrArg Client.connecting (halone.symm.trans hsame)
    exact hphase.trans h.connecting
  exact ⟨hresults.trans hresult, hn, (h.run_unlucky hu hn).1⟩

theorem Fresh.queued (h : c.Fresh config) (ha : c.Accounts {}) (hu : ∀ m ∈ moves, m.isUnlucky = true) :
    (c.ledger {} moves).accepted = (c.run moves).queue.toList := by
  obtain ⟨_, _, _, hrun, hfresh⟩ := h.apart hu
  have hend := ha.run moves
  have hcancel : (c.run moves).session.cancelled = false := by
    rw [hrun]
    exact hfresh.cancelled
  rw [hend.queued.order, (hend.kept hcancel).2,
    taken_of_not_started h.begun ha.tidy (h.starts_unlucky hu)]
  rfl

theorem retried (h : new config = .ok c) (hu : ∀ m ∈ moves, m.isUnlucky = true) :
    Retried config c moves := by
  have hf := fresh_new h
  have ha := accounts_new h
  have hqueued := hf.queued ha hu
  have hagain (hn : (c.run moves).connecting = none) := hf.run_unlucky hu hn
  exact {
    unlinked := by
      obtain ⟨_, _, _, hrun, hfresh⟩ := hf.apart hu
      rw [hrun]
      exact ⟨hfresh.slot, hfresh.links, hfresh.reader, hfresh.writer⟩
    queued := hqueued
    restored := fun hn => ⟨(hagain hn).2.state, (hagain hn).1⟩
    returned := fun hn => by
      have hresults := hf.results_unlucky hu
      rw [hn] at hresults
      exact (List.append_nil _).symm.trans hresults
    fails := fun hn _ _ ho _ hu' hcall => (hagain hn).2.fails ho hu' hcall
    succeeds := fun hn remote => ((hagain hn).2.connect_succeeds remote).symm
    served := fun hn remote after hc => by
      have hlinked := ((hagain hn).2.connect_succeeds remote).1
      have hd := (ha.run moves).run (connectWith (.opened remote))
      have hgrown := (c.run moves).accepted_prefix_ledger (c.ledger {} moves)
        (connectWith (.opened remote))
      rw [hqueued] at hgrown
      rw [hlinked] at hd
      rw [ledger_append, ledger_append, run_append, hlinked]
      exact served_queue hd rfl hc hgrown }

/-- A connect that fails leaves a client as it was, among any other moves and any number of times, and the
first that succeeds finds every command in its place. After that a connect is refused until the client
is closed, so that each loop is started once. -/
theorem failed_connects_leave_no_trace (h : new config = .ok c) :
    (∀ moves : List Move, (∀ m ∈ moves, m.isUnlucky = true) → Retried config c moves) ∧
    ∀ moves, c.starts moves ≤ 1 ∧
      (c.starts moves = 0 → (c.run moves).reader = .idle ∧ (c.run moves).writer = .idle) ∧
      (c.starts moves = 1 → (c.run moves).session.cancelled = false →
        (c.run moves).step .connect = (c.run moves, .result (.error .alreadyConnected))) := by
  refine ⟨fun moves hu => retried h hu, fun moves => ?_⟩
  have hb := (fresh_new h).begun.run (tidy_new h) moves
  rw [Nat.zero_add] at hb
  refine ⟨?_, fun hs => ?_, fun hs hc => ?_⟩
  · generalize c.starts moves = n at hb
    cases hb with
    | before => exact Nat.zero_le 1
    | after => exact Nat.le_refl 1
  · rw [hs] at hb
    cases hb with
    | before hr hw => exact ⟨hr, hw⟩
  · rw [hs] at hb
    exact hb.connect_refused hc

end

def retriedMoves : List Move :=
  .send .flush :: connectWith (.failed "refused") ++
    .send (.cancel ⟨1, 7, none⟩) :: connectWith .expired

def servedMoves : List Move :=
  [.writer .proceed, .writer .proceed, .writer (.sent (.ok ())),
    .writer .proceed, .writer .proceed, .writer (.sent (.error "reset"))]

theorem both_taken_after_third_connect :
    new lineConfig = .ok lineClient ∧ (∀ m ∈ retriedMoves, m.isUnlucky = true) ∧
      (lineClient.run retriedMoves).connecting = none ∧
      (lineClient.observe connectResult? retriedMoves).length = 2 ∧
      (lineClient.run retriedMoves).queue.toList = [.flush, .cancel ⟨1, 7, none⟩] ∧
      [.flush, .cancel ⟨1, 7, none⟩] <+:
        (lineClient.ledger {} (retriedMoves ++ connectWith (.opened "peer") ++ servedMoves)).taken ∧
      lineClient.starts (retriedMoves ++ connectWith (.opened "peer")) = 1 ∧
      ((lineClient.run (retriedMoves ++ connectWith (.opened "peer"))).step .connect).2 =
        .result (.error .alreadyConnected) := by
  have hn : new lineConfig = .ok lineClient := rfl
  have hu : ∀ m ∈ retriedMoves, m.isUnlucky = true := by decide
  have hfree : (lineClient.run retriedMoves).connecting = none := rfl
  have hqueue : (lineClient.run retriedMoves).queue.toList = [.flush, .cancel ⟨1, 7, none⟩] := rfl
  have hstarts : lineClient.starts (retriedMoves ++ connectWith (.opened "peer")) = 1 := rfl
  obtain ⟨hretried, hstarted⟩ := failed_connects_leave_no_trace hn
  have hserved := (hretried retriedMoves hu).served hfree "peer" servedMoves rfl
  have hagain := (hstarted (retriedMoves ++ connectWith (.opened "peer"))).2.2 hstarts rfl
  rw [hqueue] at hserved
  exact ⟨hn, hu, hfree, rfl, hqueue, hserved.2 (by decide), hstarts, congrArg Prod.snd hagain⟩

end Client
end OrderEntry

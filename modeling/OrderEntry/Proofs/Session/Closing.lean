import OrderEntry.Proofs.Session.CloseCalls
import OrderEntry.Proofs.Session.Outbound

/-! A call to close returns, wherever the loops are, and no client comes back from it. Whether it is the end of
the loops as well is another matter: only the call that has their handles waits for them, and one that comes
in the meantime overtakes it. -/

namespace OrderEntry

def CloseCall.length : CloseCall → Nat
  | joining _ => 5
  | shutting call => call.length + 1
  | returned => 0

theorem CloseCall.length_le (call : CloseCall) : call.length ≤ 5 := by
  rcases call with _ | call | _
  · exact Nat.le_refl 5
  · exact Nat.le_trans (Nat.succ_le_succ call.length_le) (by decide)
  · exact Nat.zero_le 5

theorem WriterPhase.length_mono {queue queue' : Mailbox Command}
    (h : queue'.toList.length ≤ queue.toList.length) (phase : WriterPhase) :
    phase.length queue' ≤ phase.length queue := by
  cases phase <;> (simp only [length]; omega)

namespace Client

variable {c c' : Client} {m : Move} {n : Nat}

def IsClosing (c : Client) (n : Nat) : Prop := ∃ call, c.closes[n]? = some call ∧ call ≠ .returned

theorem IsClosing.closes_ne_nil (h : c.IsClosing n) : c.closes ≠ [] :=
  let ⟨_, hc, _⟩ := h
  ne_nil_of_getElem? hc

def closeLeft (c : Client) (n : Nat) : Nat := (c.closes[n]?).elim 0 CloseCall.length

/-- The number of answers after which the call has returned. -/
def toClose (c : Client) (n : Nat) : Nat :=
  c.reader.length c.session + c.writer.length c.queue + c.closeLeft n

def cue (c : Client) (n : Nat) : Move :=
  match c.reader.cue?, c.writer.cue? with
  | some input, _ => .reader input
  | none, some input => .writer input
  | none, none => .closing n

/-- Each task goes on, or it notices that it was told to stop. -/
def round (n : Nat) : List Move :=
  [.reader .proceed, .reader .cancelled, .writer .proceed, .writer .cancelled, .closing n]

/-- Nothing of importance has happened, or the call is closer to its end. -/
def Nears (n : Nat) (c c' : Client) : Prop :=
  c'.cue n = c.cue n ∧ c'.toClose n ≤ c.toClose n ∨ c'.toClose n < c.toClose n

theorem Nears.refl (n : Nat) (c : Client) : Nears n c c := .inl ⟨rfl, Nat.le_refl _⟩

theorem Nears.le (h : Nears n c c') : c'.toClose n ≤ c.toClose n := h.elim And.right Nat.le_of_lt

theorem nears_of_lengths
    (hreader : c'.reader.cue? = c.reader.cue? ∧
        c'.reader.length c'.session ≤ c.reader.length c.session ∨
      c'.reader.length c'.session < c.reader.length c.session)
    (hwriter : c'.writer.cue? = c.writer.cue? ∧ c'.writer.length c'.queue ≤ c.writer.length c.queue ∨
      c'.writer.length c'.queue < c.writer.length c.queue)
    (hleft : c'.closeLeft n ≤ c.closeLeft n) : Nears n c c' := by
  unfold Nears cue toClose
  rcases hreader with ⟨hr, _⟩ | _
  · rcases hwriter with ⟨hw, _⟩ | _
    · rw [hr, hw]
      exact .inl ⟨rfl, by omega⟩
    · exact .inr (by omega)
  · exact .inr (by omega)

theorem receive_granted (c : Client) (ch : Channel) : ∃ reader session,
    (c.receive ch).1 = { c with reader, session } ∧ c.reader.Granted reader ∧
      c.session.Beside session := by
  cases ch with
  | errors =>
    have ho := c.session.beside_outputs (c.session.outputs.receive .errors).2
    obtain ⟨hb, _⟩ := beside_afterReceive c.reader
      { c.session with outputs := (c.session.outputs.receive .errors).2 }
    exact ⟨_, _, rfl, granted_afterReceive .., ho.trans hb⟩
  | acks | trades | bookUpdates | cancelAcks | reconnects =>
    exact ⟨_, _, rfl, .same _, c.session.beside_outputs _⟩

theorem nears_aside {session : Session} (hb : c.session.Beside session) {reader : ReaderPhase}
    (hr : c.reader.Granted reader) : Nears n c { c with session, reader } := by
  obtain ⟨hcue, hlen⟩ := hr.length_eq session
  have hle := c.reader.length_aside hb.config (.inl hb.state)
  rw [← hlen] at hle
  exact nears_of_lengths (.inl ⟨hcue, hle⟩) (.inl ⟨rfl, Nat.le_refl _⟩) (Nat.le_refl _)

/-! ### The steps of the calls -/

structure Spares (c c' : Client) : Prop where
  reader : c'.reader.cue? = c.reader.cue? ∧
    c'.reader.length c'.session ≤ c.reader.length c.session
  writer : c'.writer.cue? = c.writer.cue? ∧ c'.writer.length c'.queue ≤ c.writer.length c.queue

theorem Closable.spares_closing (h : c.Closable) (n : Nat) : c.Spares (c.stepClosing n).1 := by
  fun_cases Client.stepClosing c n with
  | case1 | case2 | case3 | case4 => exact ⟨⟨rfl, Nat.le_refl _⟩, rfl, Nat.le_refl _⟩
  | case5 hc queue =>
    have hlist : queue.toList.length ≤ c.queue.toList.length := by
      rcases Bool.eq_false_or_eq_true c.queueHeld with hq | hq
      · rw [show queue = c.queue.dropReceiver from if_pos hq]
        exact Nat.zero_le _
      · rw [show queue = c.queue from if_neg (by rw [hq]; exact Bool.false_ne_true)]
    exact ⟨⟨rfl, Nat.le_refl _⟩, rfl, c.writer.length_mono hlist⟩
  | case6 call _ hc call' session hs =>
    have hkeeps := call.keeps_step c.session
    have hstate := call.closed_step c.session (h.reached_of_getElem? hc).closed
    rw [hs] at hkeeps hstate
    exact ⟨⟨rfl, c.reader.length_aside hkeeps.config (.inr hstate)⟩, rfl, Nat.le_refl _⟩

theorem closeLeft_lt (hw : c.IsClosing n)
    (hr : c.isRunning = false ∨ c.closes[n]? ≠ some (.joining true)) :
    (c.stepClosing n).1.closeLeft n < c.closeLeft n := by
  obtain ⟨call, hc, hn⟩ := hw
  have hset (call' : CloseCall) : (c.closes.set n call')[n]? = some call' :=
    List.getElem?_set_self (List.getElem?_eq_some_iff.mp hc).1
  have hwas : c.closeLeft n = call.length := by rw [closeLeft, hc, Option.elim_some]
  rw [hwas]
  fun_cases Client.stepClosing c n with
  | case1 hnone => cases hnone.symm.trans hc
  | case2 hret =>
    cases hret.symm.trans hc
    exact absurd rfl hn
  | case3 loops hj hrun =>
    obtain ⟨rfl, hrun⟩ := Bool.and_eq_true_iff.mp hrun
    cases hrun.symm.trans (hr.resolve_right (not_not_intro hj))
  | case4 loops hj =>
    cases hj.symm.trans hc
    rw [closeLeft, hset]
    exact Nat.lt_succ_self 4
  | case5 hdone =>
    cases hdone.symm.trans hc
    rw [closeLeft, hset]
    exact Nat.one_pos
  | case6 call₀ hne hs call' session he =>
    cases hs.symm.trans hc
    have hlen := call₀.length_step c.session
    have hpos : 0 < call₀.length := by
      cases call₀ with
      | storing | taking | closing => exact Nat.succ_pos _
      | done => exact absurd rfl hne
    rw [he] at hlen
    change call'.length = _ at hlen
    rw [closeLeft, hset]
    change call'.length + 1 < call₀.length + 1
    omega

theorem closeLeft_of_ne {k : Nat} (hk : k ≠ n) : (c.stepClosing k).1.closeLeft n = c.closeLeft n := by
  have hset (call : CloseCall) : (c.closes.set k call)[n]? = c.closes[n]? := List.getElem?_set_ne hk
  unfold closeLeft
  fun_cases Client.stepClosing c k with
  | case1 | case2 | case3 => rfl
  | case4 | case5 | case6 => rw [hset]

theorem Closable.nears_closing (h : c.Closable) (hw : c.IsClosing n) (k : Nat) :
    Nears n c (c.stepClosing k).1 := by
  have hs := h.spares_closing k
  have hle : (c.stepClosing k).1.closeLeft n ≤ c.closeLeft n := by
    rcases Decidable.em (k = n) with rfl | hk
    · by_cases hr : c.isRunning = false ∨ c.closes[k]? ≠ some (.joining true)
      · exact Nat.le_of_lt (closeLeft_lt hw hr)
      · -- it waits for the loops
        obtain ⟨hrun, hj⟩ := not_or.mp hr
        have hstay : c.stepClosing k = (c, .none) := by
          unfold Client.stepClosing
          rw [Decidable.of_not_not hj]
          exact if_pos (Bool.not_eq_false _ ▸ hrun)
        rw [hstay]
    · exact Nat.le_of_eq (closeLeft_of_ne hk)
  exact nears_of_lengths (.inl hs.reader) (.inl hs.writer) hle

theorem closeLeft_close (hw : c.IsClosing n) : c.close.closeLeft n = c.closeLeft n := by
  obtain ⟨call, hc, _⟩ := hw
  have hlt := (List.getElem?_eq_some_iff.mp hc).1
  unfold closeLeft
  exact congrArg (·.elim 0 CloseCall.length) (List.getElem?_append_left hlt)

theorem Closable.nears (h : c.Closable) (hw : c.IsClosing n) (m : Move) : Nears n c (c.step m).1 := by
  have hc := h.tidy.closing hw.closes_ne_nil
  cases m with
  | send command =>
    change Nears n c (c.send command).1
    rw [send_of_cancelled hc]
    exact .refl n c
  | connect =>
    change Nears n c c.connect.1
    rw [connect_of_cancelled hc]
    exact .refl n c
  | connecting input =>
    have hstay : c.stepConnecting input = (c, .none) := by
      unfold stepConnecting
      rw [h.alone hw.closes_ne_nil]
    change Nears n c (c.stepConnecting input).1
    rw [hstay]
    exact .refl n c
  | reader input =>
    have hs := (c.reader.step_kind input c.session).length_lt hc
    exact nears_of_lengths hs (.inl ⟨rfl, Nat.le_refl _⟩) (Nat.le_refl _)
  | writer input =>
    have hs := c.writer.step_kind input c.session c.queue
    have hreader := c.reader.length_aside hs.beside.config (.inl hs.beside.state)
    exact nears_of_lengths (.inl ⟨rfl, hreader⟩) hs.length_lt (Nat.le_refl _)
  | close =>
    have hreader : c.reader.length c.close.session ≤ c.reader.length c.session :=
      c.reader.length_aside rfl (.inl rfl)
    have hleft := Nat.le_of_eq (closeLeft_close hw)
    exact nears_of_lengths (.inl ⟨rfl, hreader⟩) (.inl ⟨rfl, Nat.le_refl _⟩) hleft
  | closing k => exact h.nears_closing hw k
  | arrive id arrival =>
    have hb := c.session.beside_updateLink id (f := (·.arrive arrival)) fun _ _ hu => hu
    exact nears_aside hb (.same c.reader)
  | receive ch =>
    obtain ⟨reader, session, he, hr, hb⟩ := c.receive_granted ch
    change Nears n c (c.receive ch).1
    rw [he]
    exact nears_aside hb hr
  | dropReceiver ch => exact nears_aside (c.session.beside_outputs _) (.same c.reader)

theorem cue_mem_round (c : Client) (n : Nat) : c.cue n ∈ round n := by
  unfold cue round
  split
  next input hr =>
    rcases ReaderPhase.cue?_eq hr with rfl | rfl <;> simp
  next input _ hw =>
    rcases WriterPhase.cue?_eq hw with rfl | rfl <;> simp
  next => simp

theorem Closable.toClose_cue (h : c.Closable) (hw : c.IsClosing n) :
    (c.step (c.cue n)).1.toClose n < c.toClose n := by
  have hc := h.tidy.closing hw.closes_ne_nil
  unfold cue
  split
  next input hr =>
    have hlt := h.proper.length_cue hc hr
    have hleft : (c.stepReader input).closeLeft n = c.closeLeft n := rfl
    change (c.stepReader input).toClose n < c.toClose n
    unfold toClose
    rw [hleft]
    exact Nat.add_lt_add_right (Nat.add_lt_add_right hlt _) _
  next input _ hwriter =>
    have hlt : (c.writer.step input c.session c.queue).1.length
        (c.writer.step input c.session c.queue).2.2 < c.writer.length c.queue :=
      WriterPhase.length_cue hc hwriter
    have hb := (c.writer.step_kind input c.session c.queue).beside
    have hle := c.reader.length_aside hb.config (.inl hb.state)
    have hleft : (c.stepWriter input).closeLeft n = c.closeLeft n := rfl
    change (c.stepWriter input).toClose n < c.toClose n
    unfold toClose
    rw [hleft]
    exact Nat.add_lt_add_right (Nat.add_lt_add_of_le_of_lt hle hlt) _
  next hreader hwriter =>
    have hstopped : c.isRunning = false := by
      unfold isRunning
      rw [ReaderPhase.isRunning_iff_cue?, WriterPhase.isRunning_iff_cue?, hreader, hwriter]
      rfl
    have hs := h.spares_closing n
    have hlt := closeLeft_lt hw (.inl hstopped)
    exact Nat.add_lt_add_of_le_of_lt (Nat.add_le_add hs.reader.2 hs.writer.2) hlt

/-! ### Until the call returns -/

theorem IsClosing.step (hw : c.IsClosing n) (m : Move) :
    (c.step m).1.IsClosing n ∨ m = .closing n ∧ c.closes[n]? = some (.shutting .done) := by
  obtain ⟨call, hc, hn⟩ := hw
  have hlt := (List.getElem?_eq_some_iff.mp hc).1
  have hset {k : Nat} {call' : CloseCall} (hn' : k = n → call' ≠ .returned) :
      ∃ call, (c.closes.set k call')[n]? = some call ∧ call ≠ .returned := by
    rcases Decidable.em (k = n) with rfl | hk
    · exact ⟨call', List.getElem?_set_self hlt, hn' rfl⟩
    · exact ⟨call, (List.getElem?_set_ne hk).trans hc, hn⟩
  have hs := c.step_kind m
  generalize (c.step m).1 = c' at hs
  cases hs with
  | @returned k hk =>
    rcases Decidable.em (k = n) with rfl | hne
    · exact .inr ⟨rfl, hk⟩
    · exact .inl (hset fun he => absurd he hne)
  | joined | shutting => exact .inl (hset fun _ => nofun)
  | close => exact .inl ⟨call, (List.getElem?_append_left hlt).trans hc, hn⟩
  | stay | called | connect | connecting | connectFailed | connected | connectedLate | reader | writer
  | arrive => exact .inl ⟨call, hc, hn⟩

def ReturnsIn (c : Client) (n : Nat) (moves : List Move) : Prop :=
  ∃ before, before ++ [.closing n] <+: moves ∧ (c.run before).closes[n]? = some (.shutting .done)

theorem ReturnsIn.cons {moves : List Move} (h : (c.step m).1.ReturnsIn n moves) :
    c.ReturnsIn n (m :: moves) := by
  obtain ⟨before, hb, hdone⟩ := h
  exact ⟨m :: before, List.cons_prefix_cons.mpr ⟨rfl, hb⟩, hdone⟩

theorem Closable.nears_run (h : c.Closable) (hw : c.IsClosing n) (moves : List Move) :
    c.ReturnsIn n moves ∨ (c.run moves).IsClosing n ∧
      (c.run moves).toClose n ≤ c.toClose n ∧
        (c.cue n ∈ moves → (c.run moves).toClose n < c.toClose n) := by
  induction moves generalizing c with
  | nil => exact .inr ⟨hw, Nat.le_refl _, nofun⟩
  | cons m moves ih =>
    rcases hw.step m with hw' | ⟨rfl, hdone⟩
    · -- the rest of the moves starts from a client that is no further from its end
      rcases ih (h.step (h.mayDo hw.closes_ne_nil m)) hw' with hr | ⟨hrun, hle, hcue⟩
      · exact .inl hr.cons
      · have hstep := h.nears hw m
        refine .inr ⟨hrun, Nat.le_trans hle hstep.le, ?_⟩
        intro hmem
        rcases hstep with ⟨hsame, hle'⟩ | hlt
        · -- nothing has happened yet, so what was waited for is waited for still
          rcases List.mem_cons.mp hmem with rfl | hmem
          · exact Nat.lt_of_le_of_lt hle (h.toClose_cue hw)
          · rw [hsame] at hcue
            exact Nat.lt_of_lt_of_le (hcue hmem) hle'
        · exact Nat.lt_of_le_of_lt hle hlt
    · exact .inl ⟨[], ⟨moves, rfl⟩, hdone⟩

theorem ReturnsIn.append {moves : List Move} (h : c.ReturnsIn n moves) (more : List Move) :
    c.ReturnsIn n (moves ++ more) := by
  obtain ⟨before, hb, hdone⟩ := h
  exact ⟨before, hb.trans (List.prefix_append ..), hdone⟩

theorem ReturnsIn.of_run {moves more : List Move} (h : (c.run moves).ReturnsIn n more) :
    c.ReturnsIn n (moves ++ more) := by
  obtain ⟨before, hb, hdone⟩ := h
  refine ⟨moves ++ before, ?_, ?_⟩
  · rw [List.append_assoc]
    exact (List.prefix_append_right_inj moves).mpr hb
  · rw [run_append]
    exact hdone

theorem toClose_pos (hw : c.IsClosing n) : 0 < c.toClose n := by
  obtain ⟨call, hc, hn⟩ := hw
  refine Nat.lt_of_lt_of_le ?_ (Nat.le_add_left ..)
  rw [closeLeft, hc]
  rcases call with _ | call | _
  · exact Nat.succ_pos _
  · exact Nat.succ_pos _
  · exact absurd rfl hn

theorem Closable.returnsIn {turns : Nat} {moves : List Move} (h : c.Closable) (hw : c.IsClosing n)
    (hn : c.toClose n ≤ turns) (hturns : (List.replicate turns (round n)).flatten.Sublist moves) :
    c.ReturnsIn n moves := by
  induction turns generalizing c moves with
  | zero => exact absurd (toClose_pos hw) (Nat.not_lt_of_le hn)
  | succ turns ih =>
    rw [List.replicate_succ, List.flatten_cons] at hturns
    obtain ⟨first, rest, rfl, hround, hrest⟩ := List.append_sublist_iff.mp hturns
    rcases h.nears_run hw first with hr | ⟨hrun, _, hcue⟩
    · exact hr.append rest
    · -- whatever the call waits for comes in the first round
      have hlt := hcue (hround.subset (c.cue_mem_round n))
      have hleft : (c.run first).toClose n ≤ turns := Nat.le_of_lt_succ (Nat.lt_of_lt_of_le hlt hn)
      have hnext := h.run (h.connectsApart hw.closes_ne_nil first)
      exact (ih hnext hrun hleft hrest).of_run

theorem Closable.toClose_le (h : c.Closable)
    (hroom : c.queue.toList.length ≤ c.session.config.channelCapacity) (n : Nat) :
    c.toClose n ≤ 4 * c.session.config.maxReconnectAttempts +
      3 * c.session.config.channelCapacity + 26 := by
  have hreader := h.proper.length_le
  have hwriter := c.writer.length_le c.queue
  have hclose : c.closeLeft n ≤ 5 := by
    unfold closeLeft
    cases c.closes[n]? with
    | none => exact Nat.zero_le 5
    | some call => exact call.length_le
  unfold toClose
  omega

/-! ### The whole -/

theorem stepClosing_result_iff :
    (c.stepClosing n).2 = .result (.ok ()) ↔ c.closes[n]? = some (.shutting .done) := by
  fun_cases Client.stepClosing c n with
  | case1 hc | case2 hc | case3 _ hc | case4 _ hc =>
    rw [hc]
    constructor <;> (intro h; cases h)
  | case5 hc => exact iff_of_true rfl hc
  | case6 call hdone hc =>
    rw [hc]
    constructor
    · intro h
      cases h
    · rintro ⟨⟩
      exact absurd rfl hdone

theorem returned_of_done (hc : c.closes[n]? = some (.shutting .done)) :
    .returned ∈ (c.stepClosing n).1.closes := by
  unfold stepClosing
  rw [hc]
  exact List.mem_set (List.getElem?_eq_some_iff.mp hc).1 _

/-- Wherever the loops are, a call to close returns after a bounded number of rounds in which each task may go
on or notice that it was told to stop; it needs neither the network nor a timer for that. From then on the
client is closed and refuses everything. A loop that still runs by then is waited for by another call, and
the return is the end of everything if and only if there is none: then nothing changes any more, and each
channel gives what was queued on it and ends. -/
theorem close_is_final_iff_loops_ended {config : Config} (h : new config = .ok c) (moves : List Move)
    (ha : c.connectsApart moves = true) :
    (∀ n, (c.run moves).IsClosing n → ∀ more,
      (List.replicate (4 * config.maxReconnectAttempts + 3 * config.channelCapacity + 26)
        (round n)).flatten.Sublist more →
      ∃ before, before ++ [.closing n] <+: more ∧
        (((c.run moves).run before).step (.closing n)).2 = .result (.ok ())) ∧
    ∀ before n, moves = before ++ [.closing n] →
      ((c.run before).step (.closing n)).2 = .result (.ok ()) →
      (∀ more, ((c.run moves).run more).Shut) ∧
      ((c.run moves).isRunning = true → .joining true ∈ (c.run moves).closes) ∧
      ((∀ more, ((c.run moves).run more).Final ∧ (c.run moves).Drains more) ↔
        (c.run moves).isRunning = false) := by
  have hclosable := (closable_new h).run ha
  refine ⟨?_, ?_⟩
  · intro n hw more hturns
    have hconfig : (c.run moves).session.config = config := by
      rw [config_run, new_eq h]
      rfl
    have hroom := ((accounts_new h).run moves).room
    have hle := hclosable.toClose_le hroom n
    rw [hconfig] at hle
    obtain ⟨before, hb, hdone⟩ := hclosable.returnsIn hw hle hturns
    exact ⟨before, hb, stepClosing_result_iff.mpr hdone⟩
  · rintro before n rfl hr
    have hdone := stepClosing_result_iff.mp hr
    have hmem : .returned ∈ (c.run (before ++ [.closing n])).closes := by
      rw [run_append]
      exact returned_of_done hdone
    have hn := List.ne_nil_of_mem hmem
    refine ⟨fun more => ?_, fun hrun => ?_, fun hf => (hf []).1.loops, fun hrun more => ?_⟩
    · have hlater := hclosable.run (hclosable.connectsApart hn more)
      have hstill := returned_mem_run hmem more
      exact shut_of_closed (hlater.tidy.closing (List.ne_nil_of_mem hstill)) (hlater.reached _ hstill).1
    · exact (hclosable.joined hrun).resolve_left (by rw [hclosable.handles hn]; exact nofun)
    · have hgone := hclosable.gone hmem hrun
      exact ⟨(hgone.run more).final, hgone.drains more⟩

/-! A client that is closed while its read loop waits before an attempt to reconnect and a write is stalled -/

def smallConfig : Config := { protocol := .line, channelCapacity := 2, maxReconnectAttempts := 1 }

def smallClient : Client :=
  { session := .new smallConfig, queue := { capacity := smallConfig.channelCapacity } }

def stalledMoves : List Move :=
  connectMoves ++
    [.arrive 0 (.bytes "A,1,10\n".toUTF8.toList), .arrive 0 (.failed "reset"), .send .flush,
      .writer .proceed, .writer .proceed] ++
    [.reader .proceed, .reader .proceed, .reader .proceed, .reader .proceed] ++
    [.reader .proceed, .reader .proceed, .reader .proceed, .reader .proceed, .close]

def closedMoves : List Move :=
  stalledMoves ++ [.reader .cancelled, .reader .proceed, .reader .proceed, .writer .cancelled] ++
    [.closing 0, .closing 0, .closing 0, .closing 0]

theorem closed_in_backoff :
    (new smallConfig = .ok smallClient ∧ smallClient.connectsApart stalledMoves = true ∧
      smallClient.connectsApart (closedMoves ++ [.closing 0]) = true) ∧
      (∃ before, before ++ [.closing 0] <+: (List.replicate 36 (round 0)).flatten ∧
        (((smallClient.run stalledMoves).run before).step (.closing 0)).2 = .result (.ok ())) ∧
      (smallClient.run (closedMoves ++ [.closing 0])).Final ∧
      (smallClient.run (closedMoves ++ [.closing 0])).observe (told? .acks)
          [.receive .acks, .send .flush, .receive .acks] =
        [.item (.event (.ack ⟨1, 10, none⟩)), .closed] := by
  have hn : new smallConfig = .ok smallClient := rfl
  have hstalled : smallClient.connectsApart stalledMoves = true := by decide +kernel
  have hclosed : smallClient.connectsApart (closedMoves ++ [.closing 0]) = true := by decide +kernel
  have hjoining : (smallClient.run stalledMoves).closes[0]? = some (.joining true) := by decide +kernel
  have hdone : (smallClient.run closedMoves).closes[0]? = some (.shutting .done) := by decide +kernel
  have hended : (smallClient.run (closedMoves ++ [.closing 0])).isRunning = false := by decide +kernel
  have hqueued : ((smallClient.run (closedMoves ++ [.closing 0])).session.outputs.queue .acks).items =
      [.event (.ack ⟨1, 10, none⟩)] := by decide +kernel
  have hreply : ((smallClient.run closedMoves).step (.closing 0)).2 = .result (.ok ()) :=
    stepClosing_result_iff.mpr hdone
  have hreturns := (close_is_final_iff_loops_ended hn stalledMoves hstalled).1 0
    ⟨_, hjoining, nofun⟩ _ (List.Sublist.refl _)
  obtain ⟨_, hafter⟩ := close_is_final_iff_loops_ended hn (closedMoves ++ [.closing 0]) hclosed
  have hall := (hafter closedMoves 0 rfl hreply).2.2.mpr hended
  obtain ⟨htold, _⟩ := (hall [.receive .acks, .send .flush, .receive .acks]).2 .acks (by simp)
  rw [hqueued] at htold
  exact ⟨⟨hn, hstalled, hclosed⟩, hreturns, (hall []).1, htold⟩

def overlappingMoves : List Move :=
  connectMoves ++
    [.arrive 0 (.bytes "A,1,10\n".toUTF8.toList), .reader .proceed, .close, .close, .closing 1, .closing 1,
      .closing 1, .closing 1]

/-- The second close returns first, and after that the read loop still counts an event and hands it over. -/
theorem loops_outlive_overlapping_close :
    ¬ ∀ (config : Config) (c : Client), new config = .ok c → ∀ before n,
      c.connectsApart (before ++ [.closing n]) = true →
        ((c.run before).step (.closing n)).2 = .result (.ok ()) →
          (c.run (before ++ [.closing n])).Final := by
  intro h
  have hdone : (lineClient.run overlappingMoves).closes[1]? = some (.shutting .done) := by decide +kernel
  have hf := h lineConfig lineClient rfl overlappingMoves 1 (by decide +kernel)
    (stepClosing_result_iff.mpr hdone)
  have hcounters := congrArg Counters.received (hf.counters (.reader .proceed))
  exact absurd hcounters (by decide +kernel)

end Client
end OrderEntry

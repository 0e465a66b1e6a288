import OrderEntry.Proofs.Session.LoopStages
import OrderEntry.Proofs.Session.WireOrder

/-! The circuit breaker in the runs of a client. The rules on failures in a row hold in every run, and the
number that the loop carries with it is the number in its log. After the last failure the loop shuts the
session down itself and ends as soon as it got its turns and the time for its report has passed. -/

namespace OrderEntry

def Move.readerInput? : Move → Option TaskInput
  | .reader input => some input
  | _ => none

namespace Client

def deeds (c : Client) : Move → List Deed
  | .reader input => c.reader.deeds input c.session (c.stepReader input).reader
  | _ => []

def log (c : Client) : List Move → List Deed
  | [] => []
  | m :: moves => c.deeds m ++ (c.step m).1.log moves

/-- A close has gone on while the read loop still ran. -/
def Overtakes (c : Client) (moves : List Move) : Prop :=
  ∃ before, before <+: moves ∧ (c.run before).reader.isRunning = true ∧
    CloseCall.Unwaited (c.run before).closes

variable {c c' : Client} {m : Move} {stage : Stage} {id : LinkId} {overtaken : Prop}

theorem log_append (c : Client) (before after : List Move) :
    c.log (before ++ after) = c.log before ++ (c.run before).log after := by
  induction before generalizing c with
  | nil => rfl
  | cons m before ih =>
    simp only [List.cons_append, log, run, ih, List.append_assoc]

theorem overtakes_start (hr : c.reader.isRunning = true) (hw : CloseCall.Unwaited c.closes)
    (moves : List Move) : c.Overtakes moves := ⟨[], List.nil_prefix, hr, hw⟩

theorem Overtakes.cons {moves : List Move} (h : (c.step m).1.Overtakes moves) :
    c.Overtakes (m :: moves) := by
  obtain ⟨before, hb, hr⟩ := h
  exact ⟨m :: before, List.cons_prefix_cons.mpr ⟨rfl, hb⟩, hr⟩

theorem Overtakes.append {moves : List Move} (h : c.Overtakes moves) (more : List Move) :
    c.Overtakes (moves ++ more) := by
  obtain ⟨before, hb, hr⟩ := h
  exact ⟨before, hb.trans (List.prefix_append ..), hr⟩

theorem Overtakes.of_run {moves more : List Move} (h : (c.run moves).Overtakes more) :
    c.Overtakes (moves ++ more) := by
  obtain ⟨before, hb, hr⟩ := h
  rw [← run_append] at hr
  exact ⟨moves ++ before, (List.prefix_append_right_inj moves).mpr hb, hr⟩

structure Runs (c : Client) (overtaken : Prop) (stage : Stage) : Prop where
  loop : c.reader.At c.session c.closes overtaken stage
  fits : stage.Fits
  tidy : c.Tidy
  reconnects : c.session.config.reconnectEnabled = true

theorem Runs.idle_of_connecting (h : c.Runs overtaken stage) {call : OwnerPhase}
    (hc : c.connecting = some call) : c.reader = .idle ∧ stage = .looking 0 := by
  have hr := h.tidy.idle_of_connecting hc
  have hl := h.loop
  rw [hr] at hl
  cases hl
  exact ⟨hr, rfl⟩

theorem Runs.aside (h : c.Runs overtaken stage) (hk : Step c m c') (hm : ∀ input, m ≠ .reader input)
    (ho : c.reader.isRunning = true → CloseCall.Unwaited c.closes → overtaken) :
    c'.reader.At c'.session c'.closes overtaken stage ∧ c'.reader.todo = c.reader.todo := by
  have hset {n : Nat} {call : CloseCall} (call' : CloseCall) (hc : c.closes[n]? = some call)
      (hn : ∀ id, call ≠ .shutting (.closing (some id))) :
      c.reader.At c.session (c.closes.set n call') overtaken stage :=
    h.loop.settles (Session.settles_set _ hc (.refl _) fun id he => absurd he (hn id)) fun _ => id
  cases hk with
  | stay | connect => exact ⟨h.loop, rfl⟩
  | called hb _ hr => exact ⟨hr.at (h.loop.beside hb), hr.todo_eq⟩
  | connecting hc | connectFailed hc | connectedLate hc =>
    obtain ⟨hr, rfl⟩ := h.idle_of_connecting hc
    rw [hr]
    exact ⟨.idle, rfl⟩
  | connected hc =>
    obtain ⟨hr, rfl⟩ := h.idle_of_connecting hc
    rw [hr]
    exact ⟨.looking 0, rfl⟩
  | reader => exact absurd rfl (hm _)
  | writer hs => exact ⟨h.loop.beside hs.beside, rfl⟩
  | close =>
    have hs : c.session.Settles c.closes overtaken c.session (c.closes ++ [.joining c.handles]) :=
      c.session.settles_append ..
    exact ⟨h.loop.settles ⟨hs.slot, hs.closed, hs.down, hs.taken⟩ fun _ => id, rfl⟩
  | joined hc => exact ⟨hset _ hc nofun, rfl⟩
  | shutting hc => exact ⟨h.loop.settles (Session.settles_shutting hc) ho, rfl⟩
  | returned hc => exact ⟨hset _ hc nofun, rfl⟩
  | arrive id a =>
    exact ⟨h.loop.beside (c.session.beside_updateLink id (f := (·.arrive a)) fun _ _ hu => hu), rfl⟩

theorem deeds_of_ne (hm : ∀ input, m ≠ .reader input) (c : Client) : c.deeds m = [] := by
  cases m with
  | reader input => exact absurd rfl (hm input)
  | _ => rfl

theorem Runs.step (h : c.Runs overtaken stage) (m : Move)
    (ho : c.reader.isRunning = true → CloseCall.Unwaited c.closes → overtaken) :
    ∃ stage', stage.Path (c.deeds m) stage' ∧ (c.step m).1.Runs overtaken stage' := by
  have hk := c.step_kind m
  have hloop : ReaderPhase.Advances stage (c.deeds m) (c.step m).1.reader (c.step m).1.session
      (c.step m).1.closes overtaken := by
    by_cases hm : ∃ input, m = .reader input
    · obtain ⟨input, rfl⟩ := hm
      exact h.loop.step h.fits h.reconnects input
    · have hne : ∀ input, m ≠ .reader input := fun input he => hm ⟨input, he⟩
      rw [deeds_of_ne hne]
      exact ReaderPhase.advances_nil (h.aside hk hne ho).1
  obtain ⟨stage', hp, ha⟩ := hloop
  refine ⟨stage', hp, ha, hp.fits h.fits, h.tidy.step hk, ?_⟩
  rw [hk.config]
  exact h.reconnects

theorem Runs.run (h : c.Runs overtaken stage) {moves : List Move} (ho : c.Overtakes moves → overtaken) :
    ∃ stage', stage.Path (c.log moves) stage' ∧ (c.run moves).Runs overtaken stage' := by
  induction moves generalizing c stage with
  | nil => exact ⟨stage, .nil stage, h⟩
  | cons m moves ih =>
    obtain ⟨mid, hp, hr⟩ := h.step m fun hrun hw => ho (overtakes_start hrun hw _)
    obtain ⟨stage', hp', hr'⟩ := ih hr fun h => ho h.cons
    exact ⟨stage', hp.append hp', hr'⟩

theorem Runs.todo_run (h : c.Runs overtaken stage) (hl : stage.IsLast) {moves : List Move}
    (ho : c.Overtakes moves → overtaken)
    (hs : c.reader.todo.Sublist (moves.filterMap Move.readerInput?)) :
    (c.run moves).reader.todo = [] := by
  induction moves generalizing c stage with
  | nil => exact List.sublist_nil.mp hs
  | cons m moves ih =>
    have hnow : c.reader.isRunning = true → CloseCall.Unwaited c.closes → overtaken :=
      fun hrun hw => ho (overtakes_start hrun hw _)
    obtain ⟨stage', hp, hr⟩ := h.step m hnow
    refine ih hr (hp.isLast hl) (fun h => ho h.cons) ?_
    by_cases hm : ∃ input, m = .reader input
    · obtain ⟨input, rfl⟩ := hm
      have hk := c.reader.step_kind input c.session
      generalize ht : c.reader.todo = todo at hs
      cases hs with
      | cons _ hs =>
        have hle := h.loop.todo_suffix hl hk
        rw [ht] at hle
        exact hle.sublist.trans hs
      | cons_cons _ hs => exact (h.loop.todo_step hl ht).sublist.trans hs
    · have hne : ∀ input, m ≠ .reader input := fun input he => hm ⟨input, he⟩
      rw [(h.aside (c.step_kind m) hne hnow).2]
      cases m with
      | reader input => exact absurd rfl (hne input)
      | _ => exact hs

theorem runs_new {config : Config} (h : new config = .ok c) (he : config.reconnectEnabled = true)
    (overtaken : Prop) : c.Runs overtaken (.looking 0) := by
  have ht := tidy_new h
  obtain rfl := new_eq h
  exact ⟨.idle, Stage.fits_start, ht, he⟩

/-- The number of failures in a row is what the loop has counted, and it keeps to the rules: below the last,
each failure is followed by one reconnect, and there is no reconnect else. After the last, the loop does
nothing but shut the session down, report and end; once it did so, the session is closed without a link,
the link that failed is down, and the loop ends whenever it gets its turns. Only a close that has overtaken
the loop can take the link before the loop does, and then it is this close that takes it down. -/
theorem breaker_trips_at_last_failure {config : Config} (h : new config = .ok c)
    (he : config.reconnectEnabled = true) (moves : List Move) :
    Regular (c.log moves) ∧
      (∀ n, (c.run moves).reader.counted? = some n → failuresInARow (c.log moves) = n) ∧
      ∀ before id r after, c.log moves = before ++ .read id r :: after → r.failure?.isSome = true →
        failuresInARow before + 1 = maxConsecutiveErrors →
        (∃ taken, ReaderPhase.Took (c.Overtakes moves) id taken ∧ after <+: lastDeeds taken) ∧
          (after ≠ [] → (c.run moves).session.Broken (c.run moves).closes (c.Overtakes moves) id) ∧
          ∀ more : List Move, ReaderPhase.lastInputs.Sublist (more.filterMap Move.readerInput?) →
            (c.run (moves ++ more)).reader = .stopped ∧
              ∃ taken, ReaderPhase.Took (c.Overtakes (moves ++ more)) id taken ∧
                c.log (moves ++ more) = before ++ .read id r :: lastDeeds taken := by
  obtain ⟨stage, hp, hr⟩ := (runs_new h he (c.Overtakes moves)).run id
  refine ⟨hp.regular hr.loop.ne_failed, fun n hn => ?_, fun before id r after hl hf hn => ?_⟩
  · rw [hp.failures_eq, hr.loop.counted hn]
  · have ht : stage.Trips id after := (hl ▸ hp).after_last hf hn
    refine ⟨hr.loop.took_of_trips ht, hr.loop.broken_of_trips ht, fun more hm => ?_⟩
    -- here a close may overtake the loop later as well
    obtain ⟨stage, hp, hr⟩ := (runs_new h he (c.Overtakes (moves ++ more))).run fun ho => ho.append more
    have ht : stage.Trips id after := (hl ▸ hp).after_last hf hn
    obtain ⟨stage', hp', hr'⟩ := hr.run Overtakes.of_run
    have htodo := hr.todo_run ht.isLast Overtakes.of_run
      ((hr.loop.todo_suffix_lastInputs ht.isLast).sublist.trans hm)
    obtain ⟨hstop, id', taken, rfl⟩ := hr'.loop.stopped_of_todo (hp'.isLast ht.isLast) htodo
    have hlog : c.log (moves ++ more) = before ++ .read id r :: (after ++ (c.run moves).log more) := by
      rw [log_append, hl, List.append_assoc, List.cons_append]
    have hfull := hp.append hp'
    rw [← log_append, hlog] at hfull
    obtain ⟨rfl, hrest⟩ := hfull.after_last hf hn
    rw [List.append_nil] at hrest
    rw [run_append, hlog, ← hrest]
    exact ⟨hstop, taken, hr'.loop.broken_and_took.2, rfl⟩

/-! A client whose link is reset over and over, and restored at the first attempt each time -/

def looped (reader : ReaderPhase) (s : Session) : Client :=
  { lineClient with session := s, queueHeld := false, reader, writer := .waiting, handles := true }

def lineSession (links : List Link) (counters : Counters) (outputs : Outputs) (state : ConnState)
    (slot : Option LinkId) : Session :=
  ⟨lineConfig, state, slot, links, counters, outputs, false⟩

def atLast (links : List Link) (l : Link) (counters : Counters) (outputs : Outputs) : Session :=
  lineSession (links ++ [l]) counters outputs .connected (some links.length)

def lineLink : Link := .opened .tcp lineConfig.wireFormat "peer"

def resetLink : Link := lineLink.arrive (.failed "reset")

def resetMoves (id : LinkId) : List Move :=
  [.arrive id (.failed "reset"), .reader .proceed]

def restoreMoves : List Move :=
  [.reader .proceed, .reader .proceed, .reader .proceed, .reader .proceed] ++
    ([.reader .elapsed, .reader (.dialed (.opened "peer")), .reader .proceed, .reader .proceed] ++
      [.reader .proceed, .reader .proceed, .reader .proceed, .reader .proceed])

variable (links : List Link) (l : Link) (counters : Counters) (outputs : Outputs) (f : Nat)

theorem updateLink_atLast (g : Link → Link) :
    (atLast links l counters outputs).updateLink links.length g = atLast links (g l) counters outputs := by
  have hm : (links ++ [l]).modify links.length g = links ++ [g l] := by
    induction links with
    | nil => rfl
    | cons a links ih => simp [ih]
  unfold Session.updateLink atLast lineSession
  rw [hm]

theorem link?_atLast : (atLast links l counters outputs).link? links.length = some l :=
  List.getElem?_concat_length ..

theorem readLink_atLast : (atLast links l counters outputs).readLink links.length =
      (l.read.1, atLast links l.read.2 counters outputs) := by
  unfold Session.readLink
  rw [link?_atLast]
  dsimp only
  rw [updateLink_atLast]

theorem look_atLast (hl : l.up = true) : (atLast links l counters outputs).live? = some links.length := by
  refine ((atLast links l counters outputs).live?_eq_some_iff links.length).mpr ⟨rfl, ?_⟩
  unfold Session.isUp
  rw [link?_atLast]
  exact hl

theorem run_resetMoves :
    (looped (.looking f) (atLast links lineLink counters outputs)).run (resetMoves links.length) =
      looped (.reading f links.length) (atLast links resetLink counters outputs) := by
  have harrive : ((looped (.looking f) (atLast links lineLink counters outputs)).step
        (.arrive links.length (.failed "reset"))).1 =
      looped (.looking f) (atLast links resetLink counters outputs) :=
    congrArg (looped (.looking f)) (updateLink_atLast ..)
  have hlook : ReaderPhase.look f (atLast links resetLink counters outputs) =
      .reading f links.length := by
    unfold ReaderPhase.look
    rw [look_atLast links resetLink counters outputs rfl]
    rfl
  unfold resetMoves run
  rw [harrive]
  exact congrArg (looped · (atLast links resetLink counters outputs)) hlook

theorem readLink_resetLink : (atLast links resetLink counters outputs).readLink links.length =
    (some (.error (.transport (.io "reset"))), atLast links resetLink.read.2 counters outputs) :=
  readLink_atLast ..

theorem read_atLast : ReaderPhase.read f links.length (atLast links resetLink counters outputs) =
    ReaderPhase.failed f links.length (.read (.transport (.io "reset")))
      (atLast links resetLink.read.2 counters outputs) := by
  unfold ReaderPhase.read
  rw [readLink_resetLink]

theorem run_read (hf : f + 1 < maxConsecutiveErrors) :
    (looped (.reading f links.length) (atLast links resetLink counters outputs)).run [.reader .proceed] =
      looped (.restoring (f + 1) (.start .reconnect))
        (atLast links resetLink.read.2 (counters.increment .errors)
          (outputs.report (.read (.transport (.io "reset"))))) := by
  refine (congrArg (fun p => looped p.1 p.2) (read_atLast links counters outputs f)).trans ?_
  unfold ReaderPhase.failed
  dsimp only
  rw [if_neg (Nat.not_le_of_lt hf)]
  rfl

theorem log_read_last :
    (looped (.reading 99 links.length) (atLast links resetLink counters outputs)).log [.reader .proceed] =
      [.read links.length (.error (.transport (.io "reset")))] := by
  have hend : (ReaderPhase.read 99 links.length (atLast links resetLink counters outputs)).1 =
      .tripping .storing := by
    rw [read_atLast]
    rfl
  have hanswer : (ReaderPhase.reading 99 links.length).answer? .proceed
        (atLast links resetLink counters outputs) =
      some (.read links.length (.error (.transport (.io "reset")))) := by
    unfold ReaderPhase.answer?
    dsimp only
    rw [readLink_resetLink]
    rfl
  have hdeeds : (ReaderPhase.reading 99 links.length).deeds .proceed
        (atLast links resetLink counters outputs) (.tripping .storing) =
      [.read links.length (.error (.transport (.io "reset")))] := by
    unfold ReaderPhase.deeds
    rw [hanswer]
    rfl
  exact (List.append_nil _).trans ((congrArg (ReaderPhase.deeds _ _ _) hend).trans hdeeds)

theorem run_restoreMoves (id : LinkId) :
    (looped (.restoring f (.start .reconnect)) (lineSession links counters outputs .connected (some id))).run
        restoreMoves =
      looped (.looking f) (atLast (links.modify id Link.close) lineLink (counters.increment .reconnects)
        (outputs.announceReconnect 1)) := by
  unfold restoreMoves
  rw [run_append, run_append]
  have hunlinked : (looped (.restoring f (.start .reconnect))
        (lineSession links counters outputs .connected (some id))).run
        [.reader .proceed, .reader .proceed, .reader .proceed, .reader .proceed] =
      looped (.restoring f (.retrying (Retry.ofConfig lineConfig).start))
        (lineSession (links.modify id Link.close) counters outputs .reconnecting none) := rfl
  have hinstalled : ∀ links,
      (looped (.restoring f (.retrying (Retry.ofConfig lineConfig).start))
        (lineSession links counters outputs .reconnecting none)).run
        [.reader .elapsed, .reader (.dialed (.opened "peer")), .reader .proceed, .reader .proceed] =
      looped (.restoring f (.closingReplaced .reconnect 1 none))
        (lineSession (links ++ [lineLink]) counters outputs .reconnecting (some links.length)) :=
    fun _ => rfl
  rw [hunlinked, hinstalled]
  rfl

theorem exists_restored (hf : f + 1 < maxConsecutiveErrors) : ∃ links' counters' outputs',
    (looped (.looking f) (atLast links lineLink counters outputs)).run
        (resetMoves links.length ++ ([.reader .proceed] ++ restoreMoves)) =
      looped (.looking (f + 1)) (atLast links' lineLink counters' outputs') := by
  rw [run_append, run_append, run_resetMoves, run_read _ _ _ _ hf]
  exact ⟨_, _, _, run_restoreMoves (links ++ [resetLink.read.2]) _ _ (f + 1) links.length⟩

theorem exists_failures {n : Nat} (hn : n < maxConsecutiveErrors) :
    ∃ moves links counters outputs,
      lineClient.run moves = looped (.looking n) (atLast links lineLink counters outputs) := by
  induction n with
  | zero => exact ⟨connectMoves, [], {}, _, rfl⟩
  | succ n ih =>
    obtain ⟨moves, links, counters, outputs, hr⟩ := ih (Nat.lt_of_succ_lt hn)
    obtain ⟨links', counters', outputs', hr'⟩ := exists_restored links counters outputs n hn
    refine ⟨moves ++ (resetMoves links.length ++ ([.reader .proceed] ++ restoreMoves)), links', counters',
      outputs', ?_⟩
    rw [run_append, hr, hr']

theorem closes_run_reader (c : Client) (inputs : List TaskInput) :
    (c.run (inputs.map .reader)).closes = c.closes := by
  induction inputs generalizing c with
  | nil => rfl
  | cons input inputs ih => exact ih _

theorem not_overtakes {moves : List Move} (h : (c.run moves).closes = []) : ¬c.Overtakes moves := by
  rintro ⟨before, ⟨rest, rfl⟩, _, call, hm, _⟩
  rw [run_append] at h
  exact closes_run_ne_nil (List.ne_nil_of_mem hm) rest h

theorem breaker_trips_after_hundred_resets :
    new lineConfig = .ok lineClient ∧ lineConfig.reconnectEnabled = true ∧
      ∃ moves before id r, lineClient.log moves = before ++ .read id r :: lastDeeds (some id) ∧
        failuresInARow (before ++ [.read id r]) = maxConsecutiveErrors ∧
        (lineClient.run moves).reader = .stopped ∧
        (lineClient.run moves).session.Broken (lineClient.run moves).closes
          (lineClient.Overtakes moves) id ∧ ¬lineClient.Overtakes moves := by
  have hn : new lineConfig = .ok lineClient := rfl
  have hr : lineConfig.reconnectEnabled = true := rfl
  have htrips := breaker_trips_at_last_failure hn hr
  obtain ⟨moves, links, counters, outputs, hs⟩ := exists_failures (n := 99) (by decide)
  have hlast := run_resetMoves links counters outputs 99
  rw [← hs, ← run_append] at hlast
  generalize moves ++ resetMoves links.length = before at hlast
  have hcount : failuresInARow (lineClient.log before) + 1 = maxConsecutiveErrors := by
    rw [(htrips before).2.1 99 (by rw [hlast]; rfl)]
    rfl
  have hlog : lineClient.log (before ++ [.reader .proceed]) =
      lineClient.log before ++ [.read links.length (.error (.transport (.io "reset")))] := by
    rw [log_append, hlast]
    exact congrArg _ (log_read_last ..)
  obtain ⟨hstop, taken, htook, hfull⟩ := ((htrips _).2.2 _ _ _ _ hlog rfl hcount).2.2
    (ReaderPhase.lastInputs.map .reader) (List.Sublist.refl _)
  have hcloses : (lineClient.run (before ++ [.reader .proceed] ++
      ReaderPhase.lastInputs.map .reader)).closes = [] := by
    rw [run_append, closes_run_reader, run_append, hlast]
    rfl
  have halone := not_overtakes hcloses
  -- without a close the loop takes the link itself
  obtain rfl : taken = some links.length := htook.resolve_right fun ⟨_, ho⟩ => halone ho
  have hbroken := ((htrips _).2.2 _ _ _ _ hfull rfl hcount).2.1 nofun
  exact ⟨hn, hr, _, _, _, _, hfull, (failuresInARow_failure rfl).trans hcount, hstop, hbroken, halone⟩

end Client
end OrderEntry

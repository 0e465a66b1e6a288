import OrderEntry.Proofs.Session.History
import OrderEntry.Proofs.Session.Upkeep

/-! How the read loop ends while reconnecting is enabled and nobody told the client to stop. A failed read
starts a reconnect, so the loop ends with a fatal error and a closed client. A failed write only takes
the link down: the loop then waits for a link that nobody restores, and ends without a word. -/

namespace OrderEntry

/-- What the slot holds when the loop finds no link that is up and starts to wait for one. -/
def ReaderPhase.lost? (before after : ReaderPhase) (s : Session) : Option (Option LinkId) :=
  match before, after with
  | looking _, waiting .. => some s.slot
  | _, _ => none

def ReaderPhase.raised? (before after : ReaderPhase) : Option ClientError :=
  match before, after with
  | submitting _, _ => none
  | _, submitting e => some e
  | _, _ => none

namespace Client

def lost? (before : Client) (_ : Move) (after : Client) : Option (Option LinkId) :=
  before.reader.lost? after.reader before.session

def raised? (before : Client) (_ : Move) (after : Client) : Option ClientError :=
  before.reader.raised? after.reader

def cut? (before : Client) (m : Move) (after : Client) : Option LinkId :=
  match before.writer, m with
  | .writing _ id, .writer _ =>
    if before.session.isUp id && !after.session.isUp id then some id else none
  | _, _ => none

end Client

def Config.Fatal (config : Config) (e : ClientError) : Prop :=
  e = .maxReconnects config.maxReconnectAttempts ∨ e = .maxConsecutiveErrors maxConsecutiveErrors

namespace Session

def CutOff (s : Session) (cut : List LinkId) (lost : List (Option LinkId)) : Prop :=
  s.state = .connected ∧
    ∃ id, s.slot = some id ∧ id < s.links.length ∧ s.isUp id = false ∧ id ∈ cut ∧ lost = [some id]

variable {s s' : Session} {cut cut' : List LinkId} {lost : List (Option LinkId)}

theorem CutOff.steady (h : s.CutOff cut lost) (hs : s.Steady cut' s') (hc : cut ⊆ cut') :
    s'.CutOff cut' lost := by
  obtain ⟨hst, id, hi, hlt, hd, hm, hl⟩ := h
  refine ⟨hs.beside.state ▸ hst, id, hs.beside.slot ▸ hi, hs.beside.opened ▸ hlt, ?_, hc hm, hl⟩
  cases hu : s'.isUp id with
  | false => rfl
  | true => cases hd.symm.trans (hs.beside.up id hu)

theorem CutOff.live?_eq_none (h : s.CutOff cut lost) : s.live? = none := by
  obtain ⟨_, id, hi, _, hd, _⟩ := h
  rw [s.live?_eq, hi, Option.filter_some, hd]
  rfl

theorem InService.cutOff (h : s.InService cut) (hl : s.live? = none) : s.CutOff cut [s.slot] := by
  obtain ⟨hst, id, hi, hlt, hv⟩ := h
  have hd := s.live?_eq_none hi hl
  refine ⟨hst, id, hi, hlt, hd, ?_, by rw [hi]⟩
  rcases hv with hu | hm
  · cases hd.symm.trans hu
  · exact hm

theorem InService.accept (h : s.InService cut) (e : Event) : (s.accept e).InService cut := by
  unfold Session.accept
  dsimp only
  split <;> exact h

end Session

namespace ReaderPhase

def Fits (cut : List LinkId) (lost : List (Option LinkId)) (raised : List ClientError)
    (s : Session) : ReaderPhase → Prop
  | idle => s.Vacant ∧ lost = [] ∧ raised = []
  | looking _ | reading .. => s.InService cut ∧ lost = [] ∧ raised = []
  | waiting _ wait => wait.IsOpen ∧ s.CutOff cut lost ∧ raised = []
  | restoring _ call => call.Fits .reconnect cut s ∧ lost = [] ∧ raised = []
  | tripping call => (call ≠ .storing → s.state = .closed) ∧ lost = [] ∧ raised = []
  | submitting e | reporting e _ =>
    (s.state = .closed ∧ s.config.Fatal e) ∧ lost = [] ∧ raised = [e]
  | stopped =>
    (∃ e, (s.state = .closed ∧ s.config.Fatal e) ∧ lost = [] ∧ raised = [e]) ∨
      s.CutOff cut lost ∧ raised = []

variable {cut cut' : List LinkId} {lost : List (Option LinkId)} {raised : List ClientError}
  {s s' : Session} {phase phase' : ReaderPhase}

theorem lost?_self (phase : ReaderPhase) (s : Session) : phase.lost? phase s = none := by
  cases phase <;> rfl

theorem raised?_self (phase : ReaderPhase) : phase.raised? phase = none := by
  cases phase <;> rfl

theorem Fits.steady (h : phase.Fits cut lost raised s) (hs : s.Steady cut' s') (hc : cut ⊆ cut') :
    phase.Fits cut' lost raised s' := by
  have hclosed : s.state = .closed → s'.state = .closed := fun hst => hs.beside.state ▸ hst
  have hfatal : ∀ e, s.config.Fatal e → s'.config.Fatal e := fun e he => hs.beside.config ▸ he
  cases phase with
  | idle => exact ⟨hs.vacant h.1, h.2⟩
  | looking | reading => exact ⟨hs.inService hc h.1, h.2⟩
  | waiting => exact ⟨h.1, h.2.1.steady hs hc, h.2.2⟩
  | restoring => exact ⟨h.1.steady hs hc, h.2⟩
  | tripping => exact ⟨fun hn => hclosed (h.1 hn), h.2⟩
  | submitting | reporting => exact ⟨⟨hclosed h.1.1, hfatal _ h.1.2⟩, h.2⟩
  | stopped =>
    rcases h with ⟨e, hst, ht⟩ | ⟨hcut, hr⟩
    · exact .inl ⟨e, ⟨hclosed hst.1, hfatal e hst.2⟩, ht⟩
    · exact .inr ⟨hcut.steady hs hc, hr⟩

theorem fits_afterReport (e : ClientError) (r : FatalReport) (hs : s.state = .closed)
    (he : s.config.Fatal e) : (afterReport e r).Fits cut [] [e] s := by
  cases r with
  | waiting | granted => exact ⟨⟨hs, he⟩, rfl, rfl⟩
  | delivered | lost => exact .inl ⟨e, ⟨hs, he⟩, rfl, rfl⟩

theorem raised?_waited (f g : Nat) (wait wait' : LinkWait) :
    (waiting f wait).raised? (waited g wait') = none := by
  cases wait' <;> rfl

theorem fits_waited (f : Nat) {wait : LinkWait} (ho : wait.IsOpen ∨ wait = .missing)
    (hcut : s.CutOff cut lost) : (waited f wait).Fits cut lost [] s := by
  cases wait with
  | checking | pausing => exact ⟨trivial, hcut, rfl⟩
  | found =>
    rcases ho with ho | ho
    · exact ho.elim
    · cases ho
  | missing => exact .inr ⟨hcut, rfl⟩

theorem Fits.step (h : phase.Step s phase' s') (hf : phase.Fits cut lost raised s)
    (hc : s.cancelled = false) (he : s.config.reconnectEnabled = true) :
    phase'.Fits cut (lost ++ (phase.lost? phase' s).toList)
      (raised ++ (phase.raised? phase').toList) s' := by
  cases h with
  | stay =>
    rw [lost?_self, raised?_self]
    simpa using hf
  | lookStopped hx => cases hc.symm.trans hx
  | found =>
    obtain ⟨hv, rfl, rfl⟩ := hf
    exact ⟨hv, rfl, rfl⟩
  | lost _ hl =>
    obtain ⟨hv, rfl, rfl⟩ := hf
    -- the link in service is down, and only a failed write can have done that
    exact ⟨trivial, hv.cutOff hl, rfl⟩
  | @waited f wait _ input =>
    obtain ⟨ho, hcut, rfl⟩ := hf
    -- a link that is down stays down, so the wait never finds it
    have hw : (wait.step input s).IsOpen ∨ wait.step input s = .missing := by
      rcases LinkWait.step_cases input s ho with hw | hw | ⟨id, _, hl⟩
      · exact .inl hw
      · exact .inr hw
      · cases hcut.live?_eq_none.symm.trans hl
    rw [raised?_waited, show (waiting f wait).lost? _ s = none from rfl]
    simpa using fits_waited f hw hcut
  | unready hr =>
    obtain ⟨hv, rfl, rfl⟩ := hf
    exact ⟨(Session.steady_readLink hr nofun).inService (List.Subset.refl cut) hv, rfl, rfl⟩
  | @event f id _ s' e hr =>
    obtain ⟨hv, rfl, rfl⟩ := hf
    have hs : Session.Steady cut s s' := by
      refine Session.steady_readLink hr fun r hr => ?_
      cases hr
      rfl
    exact ⟨(hs.inService (List.Subset.refl cut) hv).accept e, rfl, rfl⟩
  | failedLast =>
    obtain ⟨_, rfl, rfl⟩ := hf
    -- the state becomes closed only in the next step
    exact ⟨fun hn => absurd rfl hn, rfl, rfl⟩
  | @failed f id _ s' r e hr =>
    obtain ⟨hv, rfl, rfl⟩ := hf
    have ho : s'.state ≠ .closed := by
      rw [(Session.beside_readLink hr).state, hv.1]
      exact nofun
    exact ⟨⟨rfl, ho, nofun⟩, rfl, rfl⟩
  | failedForGood hr _ _ hx =>
    rw [(Session.beside_readLink hr).config, he] at hx
    cases hx
  | readStopped hx => cases hc.symm.trans hx
  | restoring hs =>
    obtain ⟨hv, rfl, rfl⟩ := hf
    exact ⟨hv.step hs hc, rfl, rfl⟩
  | @restored f result =>
    obtain ⟨hv, rfl, rfl⟩ := hf
    cases result with
    | ok k => exact ⟨hv, rfl, rfl⟩
    | error e =>
      -- a reconnect fails only when its attempts are used up
      obtain ⟨hst, rfl⟩ := hv
      exact ⟨⟨hst, .inl rfl⟩, rfl, rfl⟩
  | @shutting call =>
    obtain ⟨hv, rfl, rfl⟩ := hf
    refine ⟨fun _ => ?_, rfl, rfl⟩
    cases call with
    | storing => rfl
    | taking => exact hv nofun
    | closing taken => cases taken <;> exact hv nofun
    | done => exact hv nofun
  | tripped =>
    obtain ⟨hv, rfl, rfl⟩ := hf
    exact ⟨⟨hv nofun, .inr rfl⟩, rfl, rfl⟩
  | submitted =>
    obtain ⟨⟨hst, hx⟩, rfl, rfl⟩ := hf
    exact fits_afterReport _ _ hst hx
  | submitStopped hx => cases hc.symm.trans hx
  | @reported e _ r r' =>
    obtain ⟨⟨hst, hx⟩, rfl, rfl⟩ := hf
    cases r' with
    | waiting | granted => exact ⟨⟨hst, hx⟩, rfl, rfl⟩
    | delivered | lost => exact .inl ⟨e, ⟨hst, hx⟩, rfl, rfl⟩

theorem Granted.fits (h : phase.Granted phase') (hf : phase.Fits cut lost raised s) :
    phase'.Fits cut lost raised s := by
  cases h with
  | same => exact hf
  | report => exact hf

theorem Granted.nothing (h : phase.Granted phase') (s : Session) :
    phase.lost? phase' s = none ∧ phase.raised? phase' = none := by
  cases h with
  | same => exact ⟨lost?_self .., raised?_self ..⟩
  | report => exact ⟨rfl, rfl⟩

end ReaderPhase

namespace Client

variable {cut : List LinkId} {lost : List (Option LinkId)} {raised : List ClientError}
  {c c' : Client} {m : Move}

/-- The owner of the slot is the connect that is under way, and the read loop otherwise. -/
def Fits (c : Client) (cut : List LinkId) (lost : List (Option LinkId))
    (raised : List ClientError) : Prop :=
  match c.connecting with
  | some call => call.Fits .connect cut c.session ∧ lost = [] ∧ raised = []
  | none => c.reader.Fits cut lost raised c.session

theorem Fits.of_connecting (hf : c.Fits cut lost raised) {call : OwnerPhase}
    (hc : c.connecting = some call) :
    call.Fits .connect cut c.session ∧ lost = [] ∧ raised = [] := by
  unfold Fits at hf
  rw [hc] at hf
  exact hf

theorem steady_cut (hb : c.session.Beside c'.session)
    (hw : ∀ id, c.session.isUp id = true → c'.session.isUp id = false →
      ∃ command input, c.writer = .writing command id ∧ m = .writer input) :
    c.session.Steady (cut ++ (cut? c m c').toList) c'.session := by
  refine ⟨hb, fun id hu => ?_⟩
  cases hd : c'.session.isUp id with
  | true => exact .inl rfl
  | false =>
    obtain ⟨command, input, hp, rfl⟩ := hw id hu hd
    have hcut : cut? c (.writer input) c' = some id := by
      unfold cut?
      rw [hp]
      simp [hu, hd]
    exact .inr (by simp [hcut])

theorem Fits.beside (hf : c.Fits cut lost raised) (hc : c'.connecting = c.connecting)
    (hr : c.reader.Granted c'.reader)
    (hs : c.session.Steady (cut ++ (cut? c m c').toList) c'.session) :
    c'.Fits (cut ++ (cut? c m c').toList) (lost ++ (lost? c m c').toList)
      (raised ++ (raised? c m c').toList) := by
  have hsub : cut ⊆ cut ++ (cut? c m c').toList := List.subset_append_left ..
  have hl : lost? c m c' = none := (hr.nothing c.session).1
  have hn : raised? c m c' = none := (hr.nothing c.session).2
  rw [hl, hn, Option.toList_none, Option.toList_none, List.append_nil, List.append_nil]
  unfold Fits at hf ⊢
  rw [hc]
  split at hf
  next call hcall => exact ⟨hf.1.steady hs hsub, hf.2⟩
  next hcall => exact hr.fits (hf.steady hs hsub)

theorem cut?_eq_none (hm : ∀ input, m ≠ .writer input) (c c' : Client) : cut? c m c' = none := by
  unfold cut?
  split
  · exact absurd rfl (hm _)
  · rfl

theorem Fits.before_loops (h : c'.Fits cut lost raised) (hm : ∀ input, m ≠ .writer input)
    (hi : c.reader = .idle) (hr : c'.reader = .idle ∨ c'.reader = .looking 0) :
    c'.Fits (cut ++ (cut? c m c').toList) (lost ++ (lost? c m c').toList)
      (raised ++ (raised? c m c').toList) := by
  have hl : lost? c m c' = none := by
    unfold lost?
    rw [hi]
    rfl
  have hn : raised? c m c' = none := by
    unfold raised?
    rcases hr with hr | hr <;> rw [hi, hr] <;> rfl
  rw [cut?_eq_none hm, hl, hn]
  simpa using h

theorem Fits.reader_step (hf : c.Fits cut lost raised) (ht : c.Tidy) {reader : ReaderPhase}
    {session : Session} (hs : c.reader.Step c.session reader session)
    (hc : c.session.cancelled = false) (he : c.session.config.reconnectEnabled = true) :
    { c with reader, session }.Fits cut
      (lost ++ (c.reader.lost? reader c.session).toList)
      (raised ++ (c.reader.raised? reader).toList) := by
  unfold Fits at hf ⊢
  dsimp only
  split at hf
  next call hcall =>
    have hi := ht.idle_of_connecting hcall
    obtain ⟨rfl, rfl⟩ := idle_step hs hi
    rw [hi]
    simpa [ReaderPhase.lost?_self, ReaderPhase.raised?_self] using hf
  next hcall => exact hf.step hs hc he

theorem Fits.step (h : Step c m c') (ht : c.Tidy) (hf : c.Fits cut lost raised)
    (hc : c'.session.cancelled = false) (he : c.session.config.reconnectEnabled = true) :
    c'.Fits (cut ++ (cut? c m c').toList) (lost ++ (lost? c m c').toList)
      (raised ++ (raised? c m c').toList) := by
  have hbefore := h.cancelled_of_after hc
  have hopen {n : Nat} {call : CloseCall} : c.closes[n]? ≠ some call := fun hn => by
    cases hbefore.symm.trans (ht.closing (ne_nil_of_getElem? hn))
  cases h with
  | stay =>
    refine hf.beside rfl (.same _) (steady_cut (.refl _) fun id hu hd => ?_)
    cases hu.symm.trans hd
  | called hb hl hr => exact hf.beside rfl hr (.of_links hb hl)
  | arrive id a =>
    refine hf.beside rfl (.same _) (steady_cut ?_ fun id' hu hd => ?_)
    · exact c.session.beside_updateLink id fun _ _ hu => hu
    · have hsame := c.session.isUp_updateLink id id' (f := (·.arrive a)) fun _ _ => rfl
      cases hd.symm.trans (hsame.trans hu)
  | @writer input _ _ _ hs =>
    refine hf.beside rfl (.same _) (steady_cut hs.beside fun id hu hd => ?_)
    obtain ⟨command, hw⟩ := hs.writing_of_down hu hd
    exact ⟨command, input, hw, rfl⟩
  | connect _ hq =>
    obtain ⟨hn, hi⟩ := ht.held hq
    unfold Fits at hf
    rw [hn, hi] at hf
    obtain ⟨⟨hs, hv⟩, rfl, rfl⟩ := hf
    refine before_loops ?_ nofun hi (.inl hi)
    exact ⟨⟨rfl, hs, fun _ => hv⟩, rfl, rfl⟩
  | connecting hcall hs =>
    have hi := ht.idle_of_connecting hcall
    obtain ⟨hcallfits, hnone⟩ := hf.of_connecting hcall
    refine before_loops ?_ nofun hi (.inl hi)
    exact ⟨hcallfits.step hs hbefore, hnone⟩
  | connectFailed hcall =>
    have hi := ht.idle_of_connecting hcall
    refine before_loops ?_ nofun hi (.inl hi)
    unfold Fits
    dsimp only
    rw [hi]
    exact hf.of_connecting hcall
  | connected hcall =>
    have hi := ht.idle_of_connecting hcall
    exact before_loops (hf.of_connecting hcall) nofun hi (.inr rfl)
  | connectedLate _ ho => cases hbefore.symm.trans (ht.closing (ht.ended ho))
  | @reader input _ _ hs =>
    rw [cut?_eq_none (m := .reader input) nofun, Option.toList_none, List.append_nil]
    exact hf.reader_step ht hs hbefore he
  | close => cases hc
  | joined hn | shutting hn | returned hn => exact absurd hn hopen

theorem Fits.run {moves : List Move} (hf : c.Fits cut lost raised) (ht : c.Tidy)
    (hc : (c.run moves).session.cancelled = false)
    (he : c.session.config.reconnectEnabled = true) :
    (c.run moves).Fits (cut ++ c.observe cut? moves) (lost ++ c.observe lost? moves)
      (raised ++ c.observe raised? moves) := by
  induction moves generalizing c cut lost raised with
  | nil =>
    unfold observe
    rw [List.append_nil, List.append_nil, List.append_nil]
    exact hf
  | cons m moves ih =>
    have hk := c.step_kind m
    have hf' := hf.step hk ht (cancelled_of_run hc) he
    unfold observe
    rw [← List.append_assoc, ← List.append_assoc, ← List.append_assoc]
    exact ih hf' (ht.step hk) hc (hk.config ▸ he)

theorem fits_new {config : Config} (h : new config = .ok c) : c.Fits [] [] [] := by
  obtain rfl := new_eq h
  exact ⟨⟨nofun, rfl⟩, rfl, rfl⟩

/-- With reconnecting enabled, a loop that ends before the client is told to stop has closed the client and
reported one fatal error, unless it found its link down at the start of a round. In that case a
failed write took the link down, the state is still connected, and no fatal error was reported. -/
theorem stopped_closed_iff_not_lost {config : Config} (h : new config = .ok c)
    (he : config.reconnectEnabled = true) (moves : List Move)
    (hs : (c.run moves).reader = .stopped) (hc : (c.run moves).session.cancelled = false) :
    (((c.run moves).session.state = .closed ∧
        ∃ e, config.Fatal e ∧ c.observe raised? moves = [e]) ↔ c.observe lost? moves = []) ∧
      (c.observe lost? moves ≠ [] →
        (c.run moves).session.CutOff (c.observe cut? moves) (c.observe lost? moves) ∧
          c.observe raised? moves = []) := by
  have hstart : c.session.config = config := by
    rw [new_eq h]
    rfl
  have ht := tidy_new h
  have hf := (fits_new h).run ht hc (by rw [hstart]; exact he)
  have hidle : (c.run moves).connecting = none := by
    rcases hcon : (c.run moves).connecting with _ | call
    · rfl
    · cases hs.symm.trans ((ht.run moves).connecting (by rw [hcon]; exact nofun))
  unfold Fits at hf
  rw [hidle, hs, List.nil_append, List.nil_append, List.nil_append] at hf
  rcases hf with ⟨e, ⟨hst, hfatal⟩, hl, hr⟩ | ⟨hcut, hr⟩
  · rw [config_run, hstart] at hfatal
    exact ⟨⟨fun _ => hl, fun _ => ⟨hst, e, hfatal, hr⟩⟩, fun hn => absurd hl hn⟩
  · refine ⟨⟨fun hx => ?_, fun hx => ?_⟩, fun _ => ⟨hcut, hr⟩⟩
    · cases hcut.1.symm.trans hx.1
    · obtain ⟨_, _, _, _, _, _, hl⟩ := hcut
      cases hx.symm.trans hl

/-! Both ends of a loop that is allowed one attempt to reconnect -/

def oneAttempt : Config := { protocol := .line, maxReconnectAttempts := 1 }

def oneAttemptClient : Client :=
  { session := .new oneAttempt, queue := { capacity := oneAttempt.channelCapacity } }

def refusedMoves : List Move :=
  connectMoves ++
    [.reader .proceed, .arrive 0 (.failed "reset"), .reader .proceed, .reader .proceed, .reader .proceed,
      .reader .proceed, .reader .proceed, .reader .elapsed, .reader (.dialed (.failed "refused")),
      .reader .proceed, .reader .proceed, .reader .proceed, .reader .proceed, .reader .proceed]

def brokenPipeMoves : List Move :=
  connectMoves ++
    [.send .flush, .writer .proceed, .writer .proceed, .writer (.sent (.error "broken pipe")),
      .reader .proceed, .reader .proceed, .reader .elapsed, .reader .proceed]

theorem stopped_closed_of_refused :
    (new oneAttempt = .ok oneAttemptClient ∧ oneAttempt.reconnectEnabled = true ∧
      (oneAttemptClient.run refusedMoves).reader = .stopped ∧
      (oneAttemptClient.run refusedMoves).session.cancelled = false) ∧
    (oneAttemptClient.run refusedMoves).session.state = .closed ∧
      ∃ e, oneAttempt.Fatal e ∧ oneAttemptClient.observe raised? refusedMoves = [e] := by
  have hn : new oneAttempt = .ok oneAttemptClient := rfl
  have hs : (oneAttemptClient.run refusedMoves).reader = .stopped := rfl
  have hc : (oneAttemptClient.run refusedMoves).session.cancelled = false := rfl
  have hl : oneAttemptClient.observe lost? refusedMoves = [] := rfl
  exact ⟨⟨hn, rfl, hs, hc⟩, (stopped_closed_iff_not_lost hn rfl refusedMoves hs hc).1.mpr hl⟩

/-- Not every loop that ends before the client is told to stop has closed it and reported a fatal error. -/
theorem stopped_silently_after_broken_pipe :
    ¬∀ (config : Config) (c : Client) (moves : List Move), new config = .ok c →
      config.reconnectEnabled = true → (c.run moves).reader = .stopped →
      (c.run moves).session.cancelled = true ∨ (c.run moves).session.state = .closed ∧
        ∃ e, config.Fatal e ∧ c.observe raised? moves = [e] := by
  intro h
  have hr : (oneAttemptClient.run brokenPipeMoves).reader = .stopped := rfl
  have hc : (oneAttemptClient.run brokenPipeMoves).session.cancelled = false := rfl
  have hs : (oneAttemptClient.run brokenPipeMoves).session.state = .connected := rfl
  have hn : new oneAttempt = .ok oneAttemptClient := rfl
  have hend := h oneAttempt oneAttemptClient brokenPipeMoves hn rfl hr
  rw [hc, hs] at hend
  rcases hend with hend | hend
  · cases hend
  · cases hend.1

end Client
end OrderEntry

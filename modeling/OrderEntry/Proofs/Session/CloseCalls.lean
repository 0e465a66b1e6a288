import OrderEntry.Proofs.Session.Closed

/-! Calls to close, any number of which may be under way at once. Each of them shuts the session down, but only
the one that found the handles of the loops waits for them. What a call has brought about stays, except
that a reconnect of the read loop may put its link into the slot once more before it takes it back. -/

namespace OrderEntry

theorem Session.state_accept (s : Session) (e : Event) : (s.accept e).state = s.state := by
  unfold accept
  dsimp only
  split <;> rfl

namespace ReaderPhase

def Safe (s : Session) : ReaderPhase → Prop
  | restoring _ call => call.Safe s
  | _ => True

def Withdraws : ReaderPhase → Prop
  | restoring _ call => call.Withdraws
  | _ => False

/-- The session is closed, and its slot is empty but for a link that the loop takes back. -/
def Cleared (s : Session) (phase : ReaderPhase) : Prop :=
  s.state = .closed ∧ (s.slot = none ∨ phase.Withdraws)

variable {phase phase' : ReaderPhase} {s s' : Session}

theorem Safe.congr (h : phase.Safe s) (hst : s'.state = s.state) (hs : s'.slot = s.slot) :
    phase.Safe s' := by
  cases phase with
  | restoring f call => exact OwnerPhase.Safe.congr h hst hs
  | _ => trivial

theorem Safe.shut (h : phase.Safe s) (hc : s'.state = .closed) (hs : s'.slot = s.slot ∨ s'.slot = none) :
    phase.Safe s' := by
  cases phase with
  | restoring f call => exact OwnerPhase.Safe.shut h hc hs
  | _ => trivial

theorem safe_afterReport (s : Session) (e : ClientError) (r : FatalReport) : (afterReport e r).Safe s := by
  cases r <;> trivial

theorem Step.safe (h : phase.Step s phase' s') (hs : phase.Safe s) : phase'.Safe s' := by
  cases h with
  | stay => exact hs
  | restoring hc => exact hc.safe hs
  | @waited f wait _ input => cases wait.step input s <;> trivial
  | @restored f result =>
    rcases result with e | k
    · cases e <;> trivial
    · trivial
  | submitted | reported => exact safe_afterReport ..
  | lookStopped | found | lost | unready | event | failedLast | failed | failedForGood | readStopped
  | shutting | tripped | submitStopped => trivial

theorem Cleared.of_slot (hc : phase.Cleared s) (hw : ¬phase.Withdraws) (hst : s'.state = s.state)
    (hs : s'.slot = s.slot) : phase'.Cleared s' :=
  ⟨hst.trans hc.1, .inl (hs.trans (hc.2.resolve_right hw))⟩

theorem Cleared.shut (hc : phase.Cleared s) (hst : s'.state = .closed)
    (hs : s'.slot = s.slot ∨ s'.slot = none) : phase.Cleared s' :=
  ⟨hst, hc.2.imp_left fun hn => hs.elim (·.trans hn) id⟩

theorem Step.cleared (h : phase.Step s phase' s') (hs : phase.Safe s) (hc : phase.Cleared s) :
    phase'.Cleared s' := by
  cases h with
  | stay => exact hc
  | @restoring f call _ _ _ hk =>
    have hwas : s.state = .closed → s.slot = none ∨ False ∨ call.Withdraws :=
      fun _ => hc.2.imp_right .inr
    have hst := hk.closed hc.1
    exact ⟨hst, (hk.emptied hs hwas hst).imp_right (·.resolve_left id)⟩
  | @shutting call =>
    have hst := call.closed_step s fun _ => hc.1
    exact ⟨hst, .inl ((call.effect s).2.elim (·.trans (hc.2.resolve_right id)) id)⟩
  | unready hr =>
    have hb := Session.beside_readLink hr
    exact hc.of_slot id hb.state hb.slot
  | @event _ _ _ s' e hr =>
    have hb := Session.beside_readLink hr
    exact hc.of_slot id ((s'.state_accept e).trans hb.state) ((s'.slot_accept e).trans hb.slot)
  | failedLast hr | failed hr | failedForGood hr =>
    have hb := Session.beside_readLink hr
    exact hc.of_slot id hb.state hb.slot
  | lookStopped | found | lost | waited | readStopped | restored | tripped | submitted | submitStopped
  | reported => exact hc.of_slot id rfl rfl

theorem Step.closed (h : phase.Step s phase' s') (hc : s.state = .closed) : s'.state = .closed := by
  cases h with
  | restoring hk => exact hk.closed hc
  | @shutting call => exact call.closed_step s fun _ => hc
  | unready hr | failedLast hr | failed hr | failedForGood hr =>
    exact (Session.beside_readLink hr).state.trans hc
  | @event _ _ _ s' e hr =>
    exact (s'.state_accept e).trans ((Session.beside_readLink hr).state.trans hc)
  | stay | lookStopped | found | lost | waited | readStopped | restored | tripped | submitted
  | submitStopped | reported => exact hc

theorem Granted.cleared (h : phase.Granted phase') (hc : phase.Cleared s) : phase'.Cleared s := by
  cases h with
  | same => exact hc
  | report => exact ⟨hc.1, hc.2⟩

theorem Granted.safe (h : phase.Granted phase') (hs : phase.Safe s) : phase'.Safe s := by
  cases h with
  | same => exact hs
  | report => trivial

end ReaderPhase

namespace Client

variable {c c' : Client} {m : Move}

/-- A close does not come during a connect. -/
def mayDo (c : Client) : Move → Bool
  | .close => c.connecting.isNone
  | _ => true

def connectsApart (c : Client) : List Move → Bool
  | [] => true
  | m :: moves => c.mayDo m && (c.step m).1.connectsApart moves

def Reached (c : Client) : CloseCall → Prop
  | .joining _ | .shutting .storing => True
  | .shutting .taking => c.session.state = .closed
  | .shutting (.closing _) | .shutting .done | .returned => c.reader.Cleared c.session

theorem Reached.mono {call : CloseCall} (h : c.Reached call)
    (hst : c.session.state = .closed → c'.session.state = .closed)
    (hc : c.reader.Cleared c.session → c'.reader.Cleared c'.session) : c'.Reached call := by
  rcases call with _ | call | _
  · trivial
  · cases call with
    | storing => trivial
    | taking => exact hst h
    | closing | done => exact hc h
  · exact hc h

theorem Reached.closed {call : ShutdownPhase} (h : c.Reached (.shutting call)) (hn : call ≠ .storing) :
    c.session.state = .closed := by
  cases call with
  | storing => exact absurd rfl hn
  | taking => exact h
  | closing | done => exact h.1

structure Closable (c : Client) : Prop where
  tidy : c.Tidy
  proper : c.reader.Proper c.session.config
  safe : c.reader.Safe c.session
  alone : c.closes ≠ [] → c.connecting = none
  handles : c.closes ≠ [] → c.handles = false
  /-- Somebody waits for the loops, or may do so. -/
  joined : c.isRunning = true → c.handles = true ∨ .joining true ∈ c.closes
  reached : ∀ call ∈ c.closes, c.Reached call
  returned : .returned ∈ c.closes → c.outputsHeld = false ∧ c.queueHeld = false

theorem closable_new {config : Config} (h : new config = .ok c) : c.Closable := by
  have ht := tidy_new h
  obtain rfl := new_eq h
  exact ⟨ht, trivial, trivial, fun hn => absurd rfl hn, fun hn => absurd rfl hn, nofun, nofun, nofun⟩

namespace Closable

theorem closes_eq_nil (h : c.Closable) {call : OwnerPhase} (hc : c.connecting = some call) :
    c.closes = [] :=
  Decidable.of_not_not fun hn => by cases hc.symm.trans (h.alone hn)

theorem step_proper (h : c.Closable) (hs : Step c m c') : c'.reader.Proper c'.session.config := by
  rw [hs.config]
  cases hs with
  | called _ _ hr => exact hr.proper h.proper
  | connected => trivial
  | reader hr => exact hr.proper h.proper rfl
  | stay | connect | connecting | connectFailed | connectedLate | writer | close | joined | shutting
  | returned | arrive => exact h.proper

theorem reached_of_getElem? (h : c.Closable) {n : Nat} {call : CloseCall} (hc : c.closes[n]? = some call) :
    c.Reached call := h.reached call (List.mem_of_getElem? hc)

theorem step_safe (h : c.Closable) (hs : Step c m c') : c'.reader.Safe c'.session := by
  cases hs with
  | called hb _ hr => exact hr.safe (h.safe.congr hb.state hb.slot)
  | connecting hc =>
    rw [h.tidy.idle_of_connecting hc]
    trivial
  | connected => trivial
  | reader hr => exact hr.safe h.safe
  | writer hw => exact h.safe.congr hw.beside.state hw.beside.slot
  | @shutting n call hc =>
    exact h.safe.shut (call.closed_step _ (h.reached_of_getElem? hc).closed) (call.effect _).2
  | close | arrive => exact h.safe.congr rfl rfl
  | stay | connect | connectFailed | connectedLate | joined | returned => exact h.safe

theorem step_alone (h : c.Closable) (hs : Step c m c') (hm : c.mayDo m = true)
    (hn : c'.closes ≠ []) : c'.connecting = none := by
  cases hs with
  | close => exact Option.isNone_iff_eq_none.mp hm
  | connect hc => cases hc.symm.trans (h.tidy.closing hn)
  | connecting hc => exact absurd (h.closes_eq_nil hc) hn
  | connectFailed | connected | connectedLate => rfl
  | joined hc | shutting hc | returned hc => exact h.alone (ne_nil_of_getElem? hc)
  | stay | called | reader | writer | arrive => exact h.alone hn

theorem step_handles (h : c.Closable) (hs : Step c m c') (hn : c'.closes ≠ []) : c'.handles = false := by
  cases hs with
  | close => rfl
  | connected hc => exact absurd (h.closes_eq_nil hc) hn
  | joined hc | shutting hc | returned hc => exact h.handles (ne_nil_of_getElem? hc)
  | stay | called | connect | connecting | connectFailed | connectedLate | reader | writer | arrive =>
    exact h.handles hn

theorem isRunning_of_step (hs : Step c m c') (hr : c'.isRunning = true) (hh : c'.handles = false) :
    c.isRunning = true := by
  have hreader {reader : ReaderPhase} {session : Session} (hs : c.reader.Step c.session reader session)
      (hr : reader.isRunning = true) : c.reader.isRunning = true :=
    Bool.of_not_eq_false fun hn => by cases ((hs.stays hn).1 ▸ hr).symm.trans hn
  have hwriter {writer : WriterPhase} {session : Session} {queue : Mailbox Command}
      (hs : c.writer.Step c.session c.queue writer session queue) (hr : writer.isRunning = true) :
      c.writer.isRunning = true :=
    Bool.of_not_eq_false fun hn => by cases ((hs.stays hn).1 ▸ hr).symm.trans hn
  unfold isRunning at hr ⊢
  rw [Bool.or_eq_true] at hr ⊢
  cases hs with
  | called _ _ hg => exact hr.imp_left fun hr => hg.isRunning_eq.symm.trans hr
  | connected => cases hh
  | reader hk => exact hr.imp_left (hreader hk)
  | writer hk => exact hr.imp_right (hwriter hk)
  | stay | connect | connecting | connectFailed | connectedLate | close | joined | shutting | returned
  | arrive => exact hr

theorem step_joined (h : c.Closable) (hs : Step c m c') (hr : c'.isRunning = true) :
    c'.handles = true ∨ .joining true ∈ c'.closes := by
  cases hh : c'.handles with
  | true => exact .inl rfl
  | false =>
    have hwas := isRunning_of_step hs hr hh
    have hwaits (hn : c.handles = false) : .joining true ∈ c.closes :=
      (h.joined hwas).resolve_left (by rw [hn]; exact Bool.false_ne_true)
    refine .inr ?_
    cases hs with
    | close =>
      rcases h.joined hwas with hc | hm
      · refine List.mem_append_right _ ?_
        rw [hc]
        exact List.mem_singleton_self _
      · exact List.mem_append_left _ hm
    | connected => cases hh
    | joined hc hn =>
      rcases mem_set_or_eq hc (hwaits hh) with hm | he
      · exact hm
      · cases he
        cases hwas.symm.trans (hn rfl)
    | shutting hc | returned hc => exact (mem_set_or_eq hc (hwaits hh)).resolve_right nofun
    | stay | called | connect | connecting | connectFailed | connectedLate | reader | writer | arrive =>
      exact hwaits hh

theorem step_reached (h : c.Closable) (hs : Step c m c') : ∀ call ∈ c'.closes, c'.Reached call := by
  have hkept {c' : Client} (hst : c.session.state = .closed → c'.session.state = .closed)
      (hc : c.reader.Cleared c.session → c'.reader.Cleared c'.session) :
      ∀ call ∈ c.closes, c'.Reached call := fun call hm => (h.reached call hm).mono hst hc
  cases hs with
  | stay | connect => exact hkept id id
  | called hb _ hr =>
    exact hkept hb.state.trans fun hc =>
      hr.cleared (hc.shut (hb.state.trans hc.1) (.inl hb.slot))
  | connecting hc | connectFailed hc | connected hc | connectedLate hc =>
    intro call hm
    rw [h.closes_eq_nil hc] at hm
    cases hm
  | reader hr => exact hkept hr.closed (hr.cleared h.safe)
  | writer hw =>
    have hb := hw.beside
    exact hkept hb.state.trans fun hc => hc.shut (hb.state.trans hc.1) (.inl hb.slot)
  | close =>
    intro call hm
    rcases List.mem_append.mp hm with hm | hm
    · exact hkept id id call hm
    · cases List.mem_singleton.mp hm
      trivial
  | joined =>
    intro call hm
    rcases List.mem_or_eq_of_mem_set hm with hm | rfl
    · exact hkept id id call hm
    · trivial
  | @shutting n call₀ hc =>
    have hst := call₀.closed_step c.session (h.reached_of_getElem? hc).closed
    have hslot := (call₀.effect c.session).2
    intro call hm
    rcases List.mem_or_eq_of_mem_set hm with hm | rfl
    · refine hkept (fun _ => hst) (fun hc => ?_) call hm
      exact hc.shut hst hslot
    · cases call₀ with
      | storing => exact hst
      | taking => exact ⟨hst, .inl rfl⟩
      | closing | done => exact (h.reached_of_getElem? hc).shut hst hslot
  | returned hc =>
    intro call hm
    rcases List.mem_or_eq_of_mem_set hm with hm | rfl
    · exact hkept id id call hm
    · exact h.reached_of_getElem? hc
  | arrive => exact hkept id fun hc => hc

theorem step_returned (h : c.Closable) (hs : Step c m c') (hm : .returned ∈ c'.closes) :
    c'.outputsHeld = false ∧ c'.queueHeld = false := by
  cases hs with
  | connect hc => cases hc.symm.trans (h.tidy.closing (List.ne_nil_of_mem hm))
  | connectFailed hc =>
    rw [h.closes_eq_nil hc] at hm
    cases hm
  | close => exact h.returned ((List.mem_append.mp hm).resolve_right (by simp))
  | joined | shutting => exact h.returned ((List.mem_or_eq_of_mem_set hm).resolve_right nofun)
  | returned => exact ⟨rfl, rfl⟩
  | stay | called | connecting | connected | connectedLate | reader | writer | arrive =>
    exact h.returned hm

theorem step (h : c.Closable) (hm : c.mayDo m = true) : (c.step m).1.Closable := by
  have hs := c.step_kind m
  exact {
    tidy := h.tidy.step hs
    proper := h.step_proper hs
    safe := h.step_safe hs
    alone := h.step_alone hs hm
    handles := h.step_handles hs
    joined := h.step_joined hs
    reached := h.step_reached hs
    returned := h.step_returned hs }

theorem run {moves : List Move} (h : c.Closable) (ha : c.connectsApart moves = true) :
    (c.run moves).Closable := by
  induction moves generalizing c with
  | nil => exact h
  | cons m moves ih =>
    obtain ⟨hm, ha⟩ := Bool.and_eq_true_iff.mp ha
    exact ih (h.step hm) ha

theorem mayDo (h : c.Closable) (hn : c.closes ≠ []) (m : Move) : c.mayDo m = true := by
  cases m with
  | close => exact Option.isNone_iff_eq_none.mpr (h.alone hn)
  | _ => rfl

theorem connectsApart (h : c.Closable) (hn : c.closes ≠ []) (moves : List Move) :
    c.connectsApart moves = true := by
  induction moves generalizing c with
  | nil => rfl
  | cons m moves ih =>
    have hm := h.mayDo hn m
    exact Bool.and_eq_true_iff.mpr ⟨hm, ih (h.step hm) ((c.step_kind m).closes_ne_nil hn)⟩

theorem gone (h : c.Closable) (hm : .returned ∈ c.closes) (hr : c.isRunning = false) : c.Gone := by
  have hn := List.ne_nil_of_mem hm
  obtain ⟨hreader, hwriter⟩ := Bool.or_eq_false_iff.mp hr
  obtain ⟨hst, hslot⟩ : c.reader.Cleared c.session := h.reached _ hm
  have hw : ¬c.reader.Withdraws := by
    intro hw
    cases hc : c.reader with
    | restoring =>
      rw [hc] at hreader
      cases hreader
    | _ =>
      rw [hc] at hw
      exact hw
  exact {
    cancelled := h.tidy.closing hn
    state := hst
    slot := hslot.resolve_right hw
    reader := hreader
    writer := hwriter
    connecting := h.alone hn
    handles := h.handles hn
    queueHeld := (h.returned hm).2
    outputsHeld := (h.returned hm).1 }

end Closable

theorem Step.returned_mem (h : Step c m c') (hm : .returned ∈ c.closes) : .returned ∈ c'.closes := by
  cases h with
  | close => exact List.mem_append_left _ hm
  | joined hc | shutting hc | returned hc => exact (mem_set_or_eq hc hm).resolve_right nofun
  | stay | called | connect | connecting | connectFailed | connected | connectedLate | reader | writer
  | arrive => exact hm

theorem returned_mem_run (hm : .returned ∈ c.closes) (moves : List Move) :
    .returned ∈ (c.run moves).closes := by
  induction moves generalizing c with
  | nil => exact hm
  | cons m moves ih => exact ih ((c.step_kind m).returned_mem hm)

end Client
end OrderEntry

import OrderEntry.Proofs.Session.CallLength
import OrderEntry.Proofs.Session.Ledger

/-! How the two loops end once the client was told to stop. Wherever a loop is, there is one thing that it waits
for and that needs neither the network nor a timer; this brings it closer to its end, and nothing else sets
it back. -/

namespace OrderEntry
namespace LinkWait

def length : LinkWait → Nat
  | checking left => 2 * left + 1
  | pausing left => 2 * left + 2
  | found _ | missing => 1

variable {wait : LinkWait}

theorem length_pos (wait : LinkWait) : 0 < wait.length := by
  cases wait with
  | checking left | pausing left => exact Nat.succ_pos _
  | found | missing => exact Nat.one_pos

theorem step_length (wait : LinkWait) (input : TaskInput) (s : Session) :
    wait.step input s = wait ∨ (wait.step input s).length < wait.length ∨
      ¬(wait.step input s).IsOpen := by
  fun_cases LinkWait.step wait input s with
  | case1 | case2 | case3 | case6 => exact .inr (.inr id)
  | case4 left =>
    refine .inr (.inl ?_)
    change 2 * left + 2 < 2 * (left + 1) + 1
    omega
  | case5 left => exact .inr (.inl (Nat.lt_succ_self _))
  | case7 | case8 => exact .inl rfl

def cue : LinkWait → TaskInput
  | pausing _ => .cancelled
  | _ => .proceed

theorem cue_eq (wait : LinkWait) : wait.cue = .proceed ∨ wait.cue = .cancelled := by
  cases wait with
  | pausing => exact .inr rfl
  | checking | found | missing => exact .inl rfl

theorem length_cue {s : Session} (hc : s.cancelled = true) (wait : LinkWait) :
    (wait.step wait.cue s).length < wait.length ∨ ¬(wait.step wait.cue s).IsOpen := by
  cases wait with
  | checking left =>
    refine ((checking left).step_length .proceed s).resolve_left ?_
    intro he
    rcases left with _ | left
    · cases he
    · cases hl : s.live? with
      | some id =>
        simp only [LinkWait.step, hl] at he
        cases he
      | none =>
        simp only [LinkWait.step, hl] at he
        split at he <;> cases he
  | pausing left =>
    have hstop : (pausing left).step .cancelled s = missing := if_pos hc
    change ((pausing left).step .cancelled s).length < _ ∨ ¬((pausing left).step .cancelled s).IsOpen
    rw [hstop]
    exact .inr id
  | found | missing => exact .inr id

end LinkWait

namespace OwnerPhase

variable {call call' : OwnerPhase} {s s' : Session}

def IsReconnect : OwnerPhase → Prop
  | announcing p _ => p = .reconnect
  | dialing => False
  | _ => True

theorem Step.isReconnect (h : call.Step s call' s') (hr : call.IsReconnect) : call'.IsReconnect := by
  cases h with
  | stay | announceLooked => exact hr
  | announced =>
    obtain rfl := hr
    trivial
  | dialFailed | dialed => exact hr.elim
  | announceRefused | unlinked | oldClosed | delayOver | redialFailed | redialed | retryCancelled
  | retryConnected | retryStopped | retryExhausted | installed | replacedClosed | confirmLooked
  | confirmRefused | confirmed | withdrawn | withdrawnClosed | fallBackLooked | fallBackRefused
  | fellBack | giveUpLooked | giveUpRefused | gaveUp => trivial

def cue : OwnerPhase → TaskInput
  | retrying (.waiting ..) | retrying (.dialing ..) => .cancelled
  | _ => .proceed

theorem cue_eq (call : OwnerPhase) : call.cue = .proceed ∨ call.cue = .cancelled := by
  unfold cue
  split
  · exact .inr rfl
  · exact .inr rfl
  · exact .inl rfl

theorem answers_cue (hr : call.IsReconnect) (hc : s.cancelled = true)
    (hn : ∀ result, call ≠ ended result) : answers s call call.cue = true := by
  cases call with
  | dialing => exact hr.elim
  | ended result => exact absurd rfl (hn result)
  | retrying phase =>
    cases phase with
    | waiting k d | dialing k d => exact hc
    | ended => rfl
  | announcing | unlinking | closingOld | installing | closingReplaced | confirming | withdrawing
  | closingWithdrawn | fallingBack | givingUp => rfl

theorem length_le (s : Session) (call : OwnerPhase) :
    length s call ≤ 2 * s.config.maxReconnectAttempts + 13 := by
  cases call with
  | announcing p seen | confirming p k seen | fallingBack cause seen | givingUp seen =>
    have := looks_le s seen
    simp only [length]
    omega
  | retrying phase =>
    rcases phase with ⟨k, d⟩ | ⟨k, d⟩ | ⟨k, id⟩ | _ | _ <;> (simp only [length]; omega)
  | dialing | unlinking | closingOld | installing | closingReplaced | withdrawing | closingWithdrawn
  | ended => simp only [length]; omega

end OwnerPhase

def ShutdownPhase.length : ShutdownPhase → Nat
  | storing => 3
  | taking => 2
  | closing _ => 1
  | done => 0

theorem ShutdownPhase.length_le (call : ShutdownPhase) : call.length ≤ 3 := by
  cases call <;> simp [length]

theorem ShutdownPhase.length_step (call : ShutdownPhase) (s : Session) :
    (call.step s).1.length = call.length - 1 := by
  cases call <;> rfl

namespace ReaderPhase

variable {phase phase' : ReaderPhase} {s s' : Session} {input : TaskInput}

/-- The loop calls nothing but a reconnect, and it does not look for a link longer than it may. -/
def Proper (config : Config) : ReaderPhase → Prop
  | restoring _ call => call.IsReconnect
  | waiting _ wait => wait.length ≤ 2 * config.maxReconnectAttempts + 1
  | _ => True

def cue? : ReaderPhase → Option TaskInput
  | idle | stopped => none
  | looking _ | tripping _ | submitting _ => some .proceed
  | reading .. | reporting .. => some .cancelled
  | waiting _ wait => some wait.cue
  | restoring _ call => some call.cue

theorem cue?_eq (h : phase.cue? = some input) : input = .proceed ∨ input = .cancelled := by
  cases phase with
  | idle | stopped => cases h
  | waiting f wait =>
    cases h
    exact wait.cue_eq
  | restoring f call =>
    cases h
    exact call.cue_eq
  | looking | tripping | submitting =>
    cases h
    exact .inl rfl
  | reading | reporting =>
    cases h
    exact .inr rfl

/-- The number of answers after which the loop has ended once the client was told to stop. -/
def length (s : Session) : ReaderPhase → Nat
  | idle | stopped => 0
  | looking _ | reporting .. => 1
  | submitting _ => 2
  | tripping call => call.length + 3
  | restoring _ call => call.length s + 3
  | reading .. => 2 * s.config.maxReconnectAttempts + 17
  | waiting _ wait => 2 * s.config.maxReconnectAttempts + 17 + wait.length

theorem proper_afterReport (config : Config) (e : ClientError) (r : FatalReport) :
    (afterReport e r).Proper config := by
  cases r <;> trivial

theorem proper_waited {config : Config} (f : Nat) {wait : LinkWait}
    (h : wait.length ≤ 2 * config.maxReconnectAttempts + 1 ∨ ¬wait.IsOpen) :
    (waited f wait).Proper config := by
  cases wait with
  | checking | pausing => exact h.resolve_right (not_not_intro trivial)
  | found | missing => trivial

theorem Step.proper {config : Config} (h : phase.Step s phase' s') (hp : phase.Proper config)
    (hs : s.config = config) : phase'.Proper config := by
  cases h with
  | stay => exact hp
  | lost =>
    rw [← hs]
    exact Nat.le_refl _
  | @waited f wait _ input =>
    refine proper_waited f ?_
    rcases wait.step_length input s with he | hlt | ho
    · rw [he]
      exact .inl hp
    · exact .inl (Nat.le_trans (Nat.le_of_lt hlt) hp)
    · exact .inr ho
  | failed => rfl
  | restoring hs => exact hs.isReconnect hp
  | @restored f result =>
    rcases result with e | k
    · cases e <;> trivial
    · trivial
  | submitted | reported => exact proper_afterReport ..
  | lookStopped | found | unready | event | failedLast | failedForGood | readStopped | shutting
  | tripped | submitStopped => trivial

theorem Granted.proper {config : Config} (h : phase.Granted phase') (hp : phase.Proper config) :
    phase'.Proper config := by
  cases h with
  | same => exact hp
  | report => trivial

theorem Proper.length_le (h : phase.Proper s.config) :
    phase.length s ≤ 4 * s.config.maxReconnectAttempts + 18 := by
  cases phase with
  | waiting f wait =>
    change wait.length ≤ _ at h
    simp only [length]
    omega
  | restoring f call =>
    have := call.length_le s
    simp only [length]
    omega
  | tripping call =>
    cases call <;> (simp only [length, ShutdownPhase.length]; omega)
  | idle | looking | reading | submitting | reporting | stopped =>
    simp only [length]
    omega

theorem length_waited_lt (s : Session) (f : Nat) {wait wait' : LinkWait}
    (h : wait'.length < wait.length ∨ ¬wait'.IsOpen) :
    (waited f wait').length s < (waiting f wait).length s := by
  have hpos := wait.length_pos
  cases wait' with
  | checking left | pausing left =>
    have hlt := h.resolve_right (not_not_intro trivial)
    exact Nat.add_lt_add_left hlt _
  | found | missing =>
    change _ < 2 * s.config.maxReconnectAttempts + 17 + wait.length
    simp only [waited, length]
    omega

theorem length_afterReport (s : Session) (e : ClientError) (r : FatalReport) :
    (afterReport e r).length s ≤ 1 := by
  cases r with
  | waiting | granted => exact Nat.le_refl 1
  | delivered | lost => exact Nat.zero_le 1

theorem length_restored (s : Session) (f : Nat) (result : Except ClientError Nat) :
    (restored f result).length s < 3 := by
  unfold restored
  split <;> (simp only [length]; omega)

theorem Step.length_lt (h : phase.Step s phase' s') (hc : s.cancelled = true) :
    phase'.cue? = phase.cue? ∧ phase'.length s' ≤ phase.length s ∨
      phase'.length s' < phase.length s := by
  have hconfig := h.keeps.config
  cases h with
  | stay => exact .inl ⟨rfl, Nat.le_refl _⟩
  -- a loop that was told to stop looks no further
  | found hn | lost hn => cases hc.symm.trans hn
  | @waited f wait _ input =>
    rcases wait.step_length input s with he | hlt
    · rw [he]
      cases wait with
      | checking | pausing => exact .inl ⟨rfl, Nat.le_refl _⟩
      | found | missing => exact .inr (length_waited_lt s f (.inr id))
    · exact .inr (length_waited_lt s f hlt)
  | unready =>
    refine .inl ⟨rfl, ?_⟩
    simp only [length, hconfig, Nat.le_refl]
  | @failed f id _ s'' r e =>
    -- a whole reconnect is shorter than a read
    have hle := OwnerPhase.length_le (s''.noteError e) (.start .reconnect)
    rw [hconfig] at hle
    refine .inr ?_
    simp only [length]
    omega
  | restoring hs =>
    rcases hs.length_lt with ⟨rfl, rfl⟩ | hlt
    · exact .inl ⟨rfl, Nat.le_refl _⟩
    · exact .inr (Nat.add_lt_add_right hlt 3)
  | @restored f result => exact .inr (Nat.lt_of_lt_of_le (length_restored s f result) (Nat.le_add_left ..))
  | @shutting call =>
    refine .inl ⟨rfl, ?_⟩
    simp only [length, call.length_step]
    omega
  | submitted => exact .inr (Nat.lt_succ_of_le (length_afterReport ..))
  | @reported e _ r r' =>
    cases r' with
    | waiting | granted => exact .inl ⟨rfl, Nat.le_refl _⟩
    | delivered | lost => exact .inr Nat.one_pos
  | lookStopped | event | failedLast | failedForGood | readStopped | tripped | submitStopped =>
    refine .inr ?_
    simp only [length, ShutdownPhase.length]
    omega

theorem step_restoring {call : OwnerPhase} (hn : ∀ result, call ≠ .ended result) (f : Nat)
    (input : TaskInput) (s : Session) : (restoring f call).step input s =
      (restoring f (call.step input s).1, (call.step input s).2) := by
  cases call with
  | ended result => exact absurd rfl (hn result)
  | _ => rfl

theorem Proper.length_cue {config : Config} (hp : phase.Proper config) (hc : s.cancelled = true)
    (h : phase.cue? = some input) :
    (phase.step input s).1.length (phase.step input s).2 < phase.length s := by
  cases phase with
  | idle | stopped => cases h
  | looking f =>
    cases h
    have hstop : look f s = stopped := if_pos hc
    change (look f s).length s < 1
    rw [hstop]
    exact Nat.one_pos
  | waiting f wait =>
    cases h
    exact length_waited_lt s f (LinkWait.length_cue hc wait)
  | reading f id =>
    cases h
    have hstop : (reading f id).step .cancelled s = (stopped, s) := by
      simp only [step, hc, if_true]
    rw [hstop]
    exact Nat.succ_pos _
  | restoring f call =>
    cases h
    by_cases hend : ∃ result, call = .ended result
    · obtain ⟨result, rfl⟩ := hend
      exact Nat.lt_of_lt_of_le (length_restored s f result) (Nat.le_add_left ..)
    · have hn : ∀ result, call ≠ .ended result := fun result he => hend ⟨result, he⟩
      have hstep := call.length_step call.cue s
      rw [OwnerPhase.answers_cue hp hc hn] at hstep
      rw [step_restoring hn]
      exact Nat.add_lt_add_right hstep 3
  | tripping call =>
    cases h
    cases call with
    | storing | taking | closing => exact Nat.lt_succ_self _
    | done => exact Nat.lt_succ_self 2
  | submitting e =>
    cases h
    change (reported e _ _ s).1.length (reported e _ _ s).2 < 2
    rw [reported_eq]
    exact Nat.lt_succ_of_le (length_afterReport ..)
  | reporting e r =>
    cases h
    have hstop : ((reporting e r).step .cancelled s).1 = stopped := by
      simp only [step, reportInput?, hc, if_true]
      cases r <;> rfl
    rw [hstop]
    exact Nat.one_pos

theorem length_aside (hconfig : s'.config = s.config)
    (hstate : s'.state = s.state ∨ s'.state = .closed) (phase : ReaderPhase) :
    phase.length s' ≤ phase.length s := by
  cases phase with
  | restoring f call => exact Nat.add_le_add_right (call.length_aside hconfig hstate) 3
  | idle | looking | waiting | reading | tripping | submitting | reporting | stopped =>
    simp only [length, hconfig, Nat.le_refl]

theorem Granted.length_eq (h : phase.Granted phase') (s : Session) :
    phase'.cue? = phase.cue? ∧ phase'.length s = phase.length s := by
  cases h with
  | same | report => exact ⟨rfl, rfl⟩

theorem Granted.isRunning_eq (h : phase.Granted phase') : phase'.isRunning = phase.isRunning := by
  cases h with
  | same | report => rfl

theorem isRunning_iff_cue? (phase : ReaderPhase) : phase.isRunning = phase.cue?.isSome := by
  cases phase <;> rfl

theorem length_of_not_isRunning (h : phase.isRunning = false) (s : Session) : phase.length s = 0 := by
  cases phase with
  | idle | stopped => rfl
  | looking | waiting | reading | restoring | tripping | submitting | reporting => cases h

theorem Step.stays (h : phase.Step s phase' s') (hr : phase.isRunning = false) :
    phase' = phase ∧ s' = s := by
  cases h with
  | stay => exact ⟨rfl, rfl⟩
  | lookStopped | found | lost | waited | unready | event | failedLast | failed | failedForGood
  | readStopped | restoring | restored | shutting | tripped | submitted | submitStopped | reported =>
    cases hr

end ReaderPhase

namespace WriterPhase

variable {phase phase' : WriterPhase} {s s' : Session} {queue queue' : Mailbox Command}

def cue? : WriterPhase → Option TaskInput
  | idle | stopped => none
  | holding _ => some .proceed
  | waiting | writing .. => some .cancelled

theorem cue?_eq {input : TaskInput} (h : phase.cue? = some input) :
    input = .proceed ∨ input = .cancelled := by
  cases phase with
  | idle | stopped => cases h
  | holding =>
    cases h
    exact .inl rfl
  | waiting | writing =>
    cases h
    exact .inr rfl

/-- The number of answers after which the loop has ended once the client was told to stop. It may go through
with what is queued first. -/
def length (queue : Mailbox Command) : WriterPhase → Nat
  | idle | stopped => 0
  | waiting => 3 * queue.toList.length + 1
  | writing .. => 3 * queue.toList.length + 2
  | holding _ => 3 * queue.toList.length + 3

theorem length_le (queue : Mailbox Command) (phase : WriterPhase) :
    phase.length queue ≤ 3 * queue.toList.length + 3 := by
  cases phase <;> (simp only [length]; omega)

theorem Step.length_lt (h : Step phase s queue phase' s' queue') :
    phase'.cue? = phase.cue? ∧ phase'.length queue' ≤ phase.length queue ∨
      phase'.length queue' < phase.length queue := by
  cases h with
  | stay => exact .inl ⟨rfl, Nat.le_refl _⟩
  | taken hr =>
    have hlist := (Mailbox.receive_item hr).1
    refine .inr ?_
    simp only [length, hlist, List.length_cons]
    omega
  | drained hr =>
    rw [Mailbox.receive_empty hr]
    exact .inl ⟨rfl, Nat.le_refl _⟩
  | ended | waitStopped | found | unlinked | holdStopped | written | failed | writeStopped =>
    refine .inr ?_
    simp only [length]
    omega

theorem length_cue (hc : s.cancelled = true) {input : TaskInput} (h : phase.cue? = some input) :
    (phase.step input s queue).1.length (phase.step input s queue).2.2 < phase.length queue := by
  cases phase with
  | idle | stopped => cases h
  | holding command =>
    cases h
    cases hs : s.live? with
    | none | some id =>
      simp only [step, hs, wrote, length]
      omega
  | waiting | writing =>
    cases h
    simp only [step, hc, if_true]
    exact Nat.succ_pos _

theorem isRunning_iff_cue? (phase : WriterPhase) : phase.isRunning = phase.cue?.isSome := by
  cases phase <;> rfl

theorem length_of_not_isRunning (h : phase.isRunning = false) (queue : Mailbox Command) :
    phase.length queue = 0 := by
  cases phase with
  | idle | stopped => rfl
  | waiting | holding | writing => cases h

theorem Step.stays (h : Step phase s queue phase' s' queue') (hr : phase.isRunning = false) :
    phase' = phase ∧ s' = s ∧ queue' = queue := by
  cases h with
  | stay => exact ⟨rfl, rfl, rfl⟩
  | taken | drained | ended | waitStopped | found | unlinked | holdStopped | written | failed
  | writeStopped => cases hr

end WriterPhase

/-! ### A client whose loops do not run -/

namespace Client

variable {c : Client}

theorem stepReader_of_not_isRunning (h : c.reader.isRunning = false) (input : TaskInput) :
    c.stepReader input = c := by
  obtain ⟨hr, hs⟩ := (c.reader.step_kind input c.session).stays h
  unfold stepReader
  dsimp only
  rw [hr, hs]

theorem stepWriter_of_not_isRunning (h : c.writer.isRunning = false) (input : TaskInput) :
    c.stepWriter input = c := by
  obtain ⟨hw, hs, hq⟩ := (c.writer.step_kind input c.session c.queue).stays h
  unfold stepWriter
  dsimp only
  rw [hw, hs, hq]

theorem afterReceive_of_not_isRunning {reader : ReaderPhase} (h : reader.isRunning = false) (s : Session) :
    reader.afterReceive s = (reader, s) := by
  cases reader with
  | idle | stopped => rfl
  | looking | waiting | reading | restoring | tripping | submitting | reporting => cases h

theorem receive_of_not_isRunning (h : c.reader.isRunning = false) (ch : Channel) :
    c.receive ch = ({ c with session := { c.session with outputs := (c.session.outputs.receive ch).2 } },
      .receipt (c.outputs.receive ch).1) := by
  cases ch with
  | errors =>
    unfold receive
    dsimp only
    rw [afterReceive_of_not_isRunning h]
  | acks | trades | bookUpdates | cancelAcks | reconnects => rfl

end Client
end OrderEntry

import OrderEntry.Proofs.Session.History
import OrderEntry.Proofs.Session.LoopLog

/-! The phases of the read loop against the stages of its log. Each step of the loop is a path from the stage
that the log tells of to the stage of its next phase, and a loop that ends the client comes to its end
as it gets its turns. -/

namespace OrderEntry
namespace CloseCall

def isJoining : CloseCall → Bool
  | joining _ => true
  | shutting _ | returned => false

/-- A close that did not wait for the loops has gone on, or the loops have ended. -/
def Unwaited (closes : List CloseCall) : Prop := ∃ call ∈ closes, call.isJoining = false

end CloseCall

open CloseCall (Unwaited)

namespace Session

/-- The link is down, or a close that has overtaken the loop took it out of the slot and is about to take it
down. -/
def Lost (s : Session) (closes : List CloseCall) (overtaken : Prop) (id : LinkId) : Prop :=
  s.isUp id = false ∨ overtaken ∧ .shutting (.closing (some id)) ∈ closes

structure Broken (s : Session) (closes : List CloseCall) (overtaken : Prop) (id : LinkId) : Prop where
  closed : s.state = .closed
  slot : s.slot = none
  lost : s.Lost closes overtaken id

/-- The link is in service, unless a close has taken it from the loop. -/
def AtLink (s : Session) (closes : List CloseCall) (overtaken : Prop) (id : LinkId) : Prop :=
  s.slot = some id ∨ s.slot = none ∧ overtaken ∧ s.Lost closes overtaken id

/-- What others do between the steps of the loop. If they take a link out of the slot, `overtaken` is why. -/
structure Settles (s : Session) (closes : List CloseCall) (overtaken : Prop) (s' : Session)
    (closes' : List CloseCall) : Prop where
  slot : s'.slot = s.slot ∨
    s'.slot = none ∧ overtaken ∧ ∀ id, s.slot = some id → .shutting (.closing (some id)) ∈ closes'
  closed : s.state = .closed → s'.state = .closed
  down : ∀ id, s.isUp id = false → s'.isUp id = false
  taken : ∀ id, .shutting (.closing (some id)) ∈ closes →
    s'.isUp id = false ∨ .shutting (.closing (some id)) ∈ closes'

variable {s s' : Session} {closes closes' : List CloseCall} {overtaken cause : Prop} {id : LinkId}

theorem Beside.settles (h : s.Beside s') (closes : List CloseCall) :
    s.Settles closes cause s' closes where
  slot := .inl h.slot
  closed := h.state.trans
  down := fun _ => h.isUp_eq_false
  taken := fun _ => .inr

theorem Lost.settles (h : s.Lost closes overtaken id) (hs : s.Settles closes cause s' closes') :
    s'.Lost closes' overtaken id := by
  rcases h with hd | ⟨ho, hm⟩
  · exact .inl (hs.down id hd)
  · exact (hs.taken id hm).imp_right fun hm => ⟨ho, hm⟩

theorem Settles.slot_eq_none (hs : s.Settles closes cause s' closes') (h : s.slot = none) :
    s'.slot = none := hs.slot.elim (·.trans h) And.left

theorem Settles.imp (hs : s.Settles closes cause s' closes') (h : cause → overtaken) :
    s.Settles closes overtaken s' closes' :=
  { hs with slot := hs.slot.imp_right (.imp_right (.imp_left h)) }

theorem AtLink.settles (h : s.AtLink closes overtaken id) (hs : s.Settles closes overtaken s' closes') :
    s'.AtLink closes' overtaken id := by
  rcases h with hslot | ⟨hslot, ho, hl⟩
  · rcases hs.slot with he | ⟨hnone, ho, htaken⟩
    · exact .inl (he.trans hslot)
    · exact .inr ⟨hnone, ho, .inr ⟨ho, htaken id hslot⟩⟩
  · exact .inr ⟨hs.slot_eq_none hslot, ho, hl.settles hs⟩

theorem Broken.settles (h : s.Broken closes overtaken id) (hs : s.Settles closes cause s' closes') :
    s'.Broken closes' overtaken id where
  closed := hs.closed h.closed
  slot := hs.slot_eq_none h.slot
  lost := h.lost.settles hs

theorem settles_append (s : Session) (closes more : List CloseCall) :
    s.Settles closes cause s (closes ++ more) where
  slot := .inl rfl
  closed := id
  down := fun _ => id
  taken := fun _ hm => .inr (List.mem_append_left _ hm)

theorem settles_set {n : Nat} {call : CloseCall} (call' : CloseCall) (hc : closes[n]? = some call)
    (hb : s.Beside s') (hd : ∀ id, call = .shutting (.closing (some id)) → s'.isUp id = false) :
    s.Settles closes cause s' (closes.set n call') where
  slot := .inl hb.slot
  closed := hb.state.trans
  down := fun _ => hb.isUp_eq_false
  taken := fun id hm => (mem_set_or_eq hc hm).symm.imp_left fun he => hd id he.symm

theorem settles_shutting {n : Nat} {call : ShutdownPhase} (hc : closes[n]? = some (.shutting call)) :
    s.Settles closes (Unwaited closes) (call.step s).2 (closes.set n (.shutting (call.step s).1)) := by
  cases call with
  | storing =>
    have hs : s.Settles closes (Unwaited closes) s (closes.set n (.shutting .taking)) :=
      settles_set _ hc (.refl s) nofun
    exact ⟨hs.slot, fun _ => rfl, hs.down, hs.taken⟩
  | taking =>
    have hs : s.Settles closes (Unwaited closes) s (closes.set n (.shutting (.closing s.slot))) :=
      settles_set _ hc (.refl s) nofun
    refine ⟨.inr ⟨rfl, ⟨_, List.mem_of_getElem? hc, rfl⟩, fun id hid => ?_⟩, hs.closed, hs.down, hs.taken⟩
    rw [← hid]
    exact List.mem_set (List.getElem?_eq_some_iff.mp hc).1 _
  | closing taken =>
    refine settles_set _ hc (s.beside_closeLink taken) fun id he => ?_
    cases he
    exact isUp_closeLink_eq_false _ (.inr rfl)
  | done => exact settles_set _ hc (.refl s) nofun

end Session

theorem OwnerPhase.Step.ended_ne {call call' : OwnerPhase} {s s' : Session} {n : Nat}
    (h : call.Step s call' s') (hc : call ≠ ended (.error (.maxConsecutiveErrors n))) :
    call' ≠ ended (.error (.maxConsecutiveErrors n)) := by
  cases h with
  | stay => exact hc
  | @announced p => cases p <;> exact nofun
  | _ => exact nofun

namespace ReaderPhase

def answer? (phase : ReaderPhase) (input : TaskInput) (s : Session) : Option Deed :=
  match phase, input with
  | reading _ id, .proceed => (s.readLink id).1.map (.read id)
  | restoring _ (.retrying (.dialing k _)), .dialed outcome =>
    match outcome.link s.config with
    | .error cause => some (.dialFailed k cause)
    | .ok _ => none
  | _, _ => none

def passage? (before after : ReaderPhase) : Option Deed :=
  match before, after with
  | reading .., restoring .. => some .reconnect
  | restoring _ (.retrying (.waiting ..)), restoring _ (.retrying (.dialing ..)) => some .dial
  | restoring .., looking _ => some .restored
  | tripping (.closing taken), tripping .done => some (.shut taken)
  | restoring .., submitting e | tripping _, submitting e => some (.raised e)
  | stopped, stopped => none
  | _, stopped => some .ended
  | _, _ => none

def deeds (phase : ReaderPhase) (input : TaskInput) (s : Session) (phase' : ReaderPhase) : List Deed :=
  (phase.answer? input s).toList ++ (phase.passage? phase').toList

def counted? : ReaderPhase → Option Nat
  | looking f | waiting f _ | reading f _ | restoring f _ => some f
  | tripping _ => some maxConsecutiveErrors
  | idle | submitting _ | reporting .. | stopped => none

/-- What the shutdown of the loop took is the link that failed, unless a close was faster. -/
def Took (overtaken : Prop) (id : LinkId) (taken : Option LinkId) : Prop :=
  taken = some id ∨ taken = none ∧ overtaken

inductive At (s : Session) (closes : List CloseCall) (overtaken : Prop) : ReaderPhase → Stage → Prop
  | idle : At s closes overtaken idle (.looking 0)
  | looking (f : Nat) : At s closes overtaken (looking f) (.looking f)
  | waiting (f : Nat) {wait : LinkWait} (ho : wait.IsOpen) :
      At s closes overtaken (waiting f wait) (.looking f)
  | reading (f : Nat) {id : LinkId} (hs : s.AtLink closes overtaken id) :
      At s closes overtaken (reading f id) (.looking f)
  | restoring (f : Nat) {call : OwnerPhase}
      (hc : call ≠ .ended (.error (.maxConsecutiveErrors maxConsecutiveErrors))) :
      At s closes overtaken (restoring f call) (.restoring f)
  | storing {id : LinkId} (hs : s.AtLink closes overtaken id) :
      At s closes overtaken (tripping .storing) (.tripped id)
  | taking {id : LinkId} (hs : s.AtLink closes overtaken id) (hc : s.state = .closed) :
      At s closes overtaken (tripping .taking) (.tripped id)
  | closing {id : LinkId} {taken : Option LinkId} (hs : s.slot = none) (hc : s.state = .closed)
      (ht : taken = some id ∨ taken = none ∧ overtaken ∧ s.Lost closes overtaken id) :
      At s closes overtaken (tripping (.closing taken)) (.tripped id)
  | done {id : LinkId} {taken : Option LinkId} (hb : s.Broken closes overtaken id)
      (ht : Took overtaken id taken) :
      At s closes overtaken (tripping .done) (.breaking id taken (lastDeeds taken).tail)
  | submittingLast {id : LinkId} {taken : Option LinkId} (hb : s.Broken closes overtaken id)
      (ht : Took overtaken id taken) :
      At s closes overtaken (submitting (.maxConsecutiveErrors maxConsecutiveErrors))
        (.breaking id taken [.ended])
  | reportingLast {id : LinkId} {taken : Option LinkId} (r : FatalReport) (hb : s.Broken closes overtaken id)
      (ht : Took overtaken id taken) :
      At s closes overtaken (reporting (.maxConsecutiveErrors maxConsecutiveErrors) r)
        (.breaking id taken [.ended])
  | broken {id : LinkId} {taken : Option LinkId} (hb : s.Broken closes overtaken id)
      (ht : Took overtaken id taken) : At s closes overtaken stopped (.breaking id taken [])
  | submitting (f : Nat) (e : ClientError) : At s closes overtaken (submitting e) (.raised f)
  | reporting (f : Nat) (e : ClientError) (r : FatalReport) :
      At s closes overtaken (reporting e r) (.raised f)
  | stopped (f : Nat) : At s closes overtaken stopped (.finished f)

variable {phase phase' : ReaderPhase} {s s' : Session} {closes closes' : List CloseCall}
  {overtaken cause : Prop} {stage : Stage} {f : Nat} {id : LinkId} {taken : Option LinkId}

/-- A link that is taken from a loop that has ended is not taken from the loop. -/
theorem At.settles (h : phase.At s closes overtaken stage) (hs : s.Settles closes cause s' closes')
    (ho : phase.isRunning = true → cause → overtaken) : phase.At s' closes' overtaken stage := by
  cases h with
  | idle => exact .idle
  | looking f => exact .looking f
  | waiting f hw => exact .waiting f hw
  | reading f hl => exact .reading f (hl.settles (hs.imp (ho rfl)))
  | restoring f hc => exact .restoring f hc
  | storing hl => exact .storing (hl.settles (hs.imp (ho rfl)))
  | taking hl hc => exact .taking (hl.settles (hs.imp (ho rfl))) (hs.closed hc)
  | closing hn hc ht =>
    refine .closing (hs.slot_eq_none hn) (hs.closed hc) (ht.imp_right ?_)
    exact fun ⟨htaken, hw, hl⟩ => ⟨htaken, hw, hl.settles hs⟩
  | done hb ht => exact .done (hb.settles hs) ht
  | submittingLast hb ht => exact .submittingLast (hb.settles hs) ht
  | reportingLast r hb ht => exact .reportingLast r (hb.settles hs) ht
  | broken hb ht => exact .broken (hb.settles hs) ht
  | submitting f e => exact .submitting f e
  | reporting f e r => exact .reporting f e r
  | stopped f => exact .stopped f

theorem At.beside (h : phase.At s closes overtaken stage) (hb : s.Beside s') :
    phase.At s' closes overtaken stage := h.settles (hb.settles closes) fun _ => id

theorem Granted.at (h : phase.Granted phase') (ha : phase.At s closes overtaken stage) :
    phase'.At s closes overtaken stage := by
  cases h with
  | same => exact ha
  | report e r r' =>
    cases ha with
    | reportingLast _ hb ht => exact .reportingLast r' hb ht
    | reporting f => exact .reporting f e r'

theorem At.counted (h : phase.At s closes overtaken stage) {n : Nat} (hn : phase.counted? = some n) :
    stage.failures = n := by
  cases h with
  | looking | waiting | reading | restoring | storing | taking | closing | done =>
    exact Option.some.inj hn
  | idle | submittingLast | reportingLast | broken | submitting | reporting | stopped => cases hn

theorem At.ne_failed (h : phase.At s closes overtaken stage) (n : Nat) : stage ≠ .failed n := by
  cases h <;> exact nofun

/-! ### What one step of the loop adds to the log -/

def Advances (stage : Stage) (log : List Deed) (phase' : ReaderPhase) (s' : Session)
    (closes : List CloseCall) (overtaken : Prop) : Prop := ∃ stage', stage.Path log stage' ∧ phase'.At s' closes overtaken stage'

theorem advances_nil (h : phase.At s closes overtaken stage) :
    Advances stage [] phase s closes overtaken := ⟨stage, .nil stage, h⟩

theorem advances_one {stage' : Stage} {d : Deed} (hs : stage.Step d stage')
    (h : phase.At s closes overtaken stage') : Advances stage [d] phase s closes overtaken :=
  ⟨stage', .cons hs (.nil stage'), h⟩

theorem advances_looking (input : TaskInput) (h : (looking f).Step s phase' s') :
    Advances (.looking f) ((looking f).deeds input s phase') phase' s' closes overtaken := by
  cases h with
  | stay => exact advances_nil (.looking f)
  | lookStopped => exact advances_one .lost (.stopped f)
  | @found _ id _ _ hl => exact advances_nil (.reading f (.inl ((s.live?_eq_some_iff id).mp hl).1))
  | lost => exact advances_nil (.waiting f trivial)

theorem advances_waiting {wait : LinkWait} (ho : wait.IsOpen) (input : TaskInput) :
    Advances (.looking f)
      ((waiting f wait).deeds input s (waited f (wait.step input s))) (waited f (wait.step input s)) s
      closes overtaken := by
  have hw := wait.step_cases input s ho
  revert hw
  generalize wait.step input s = wait'
  intro hw
  cases wait' with
  | checking | pausing => exact advances_nil (.waiting f trivial)
  | found id =>
    rcases hw with hw | hw | ⟨id', hw, hl⟩
    · exact hw.elim
    · cases hw
    · cases hw
      exact advances_nil (.reading f (.inl ((s.live?_eq_some_iff id).mp hl).1))
  | missing => exact advances_one .lost (.stopped f)

theorem advances_failed {r : Reading} {e : ClientError} (hs : s.AtLink closes overtaken id)
    (he : s.config.reconnectEnabled = true) (hf : f < maxConsecutiveErrors)
    (hr : r.failure? = some e) :
    Advances (.looking f) (.read id r :: ((reading f id).passage? (failed f id e s).1).toList)
      (failed f id e s).1 (failed f id e s).2 closes overtaken := by
  have hsome : r.failure?.isSome = true := by
    rw [hr]
    rfl
  have hnoted := hs.settles ((s.beside_noteError e).settles closes)
  unfold failed
  dsimp only
  split
  next hm => exact advances_one (.failedLast hsome (Nat.le_antisymm hf hm)) (.storing hnoted)
  next hm =>
    rw [Nat.not_le] at hm
    have hen : ((s.count .errors).report e).config.reconnectEnabled = true := he
    rw [if_pos hen]
    exact ⟨_, .cons (.failed hsome hm) (.cons .reconnect (.nil _)), .restoring (f + 1) nofun⟩

theorem advances_read (hs : s.AtLink closes overtaken id) (he : s.config.reconnectEnabled = true)
    (hf : f < maxConsecutiveErrors) :
    Advances (.looking f) ((reading f id).deeds .proceed s (read f id s).1)
      (read f id s).1 (read f id s).2 closes overtaken := by
  unfold deeds answer? read
  dsimp only
  rcases h : s.readLink id with ⟨_ | e | _ | e, s'⟩
  all_goals
    have hb := Session.beside_readLink h
    have hslot := hs.settles (hb.settles closes)
    have hen : s'.config.reconnectEnabled = true := by
      rw [hb.config]
      exact he
  · exact advances_nil (.reading f hslot)
  · exact advances_failed hslot hen hf rfl
  · exact advances_failed hslot hen hf rfl
  · exact advances_one .event (.looking 0)

theorem advances_reading (hs : s.AtLink closes overtaken id) (he : s.config.reconnectEnabled = true)
    (hf : f < maxConsecutiveErrors) (input : TaskInput) :
    Advances (.looking f) ((reading f id).deeds input s ((reading f id).step input s).1)
      ((reading f id).step input s).1 ((reading f id).step input s).2 closes overtaken := by
  cases input with
  | proceed => exact advances_read hs he hf
  | cancelled =>
    unfold step
    dsimp only
    split
    · exact advances_one .lost (.stopped f)
    · exact advances_nil (.reading f hs)
  | elapsed | dialed | sent => exact advances_nil (.reading f hs)

theorem restored_error (f : Nat) {e : ClientError} (h : e ≠ .closed) :
    restored f (.error e) = submitting e := by
  cases e with
  | closed => exact absurd rfl h
  | _ => rfl

theorem dials_of_mem_deeds {call call' : OwnerPhase} {input : TaskInput} {d : Deed}
    (h : d ∈ (restoring f call).deeds input s (restoring f call')) :
    (Stage.restoring f).Step d (.restoring f) := by
  unfold deeds at h
  rw [List.mem_append, Option.mem_toList, Option.mem_toList] at h
  unfold answer? passage? at h
  rcases h with h | h
  · split at h
    next he => cases he
    next =>
      split at h
      · cases h
        exact .dialFailed
      · cases h
    next => cases h
  · split at h <;> try contradiction
    cases h
    exact .dial

theorem advances_restoring {call : OwnerPhase}
    (hc : call ≠ .ended (.error (.maxConsecutiveErrors maxConsecutiveErrors)))
    (input : TaskInput) (h : (restoring f call).Step s phase' s') :
    Advances (.restoring f) ((restoring f call).deeds input s phase') phase' s' closes overtaken := by
  cases h with
  | stay => exact ⟨_, Stage.Path.loop fun _ => dials_of_mem_deeds, .restoring f hc⟩
  | restoring hs => exact ⟨_, Stage.Path.loop fun _ => dials_of_mem_deeds, .restoring f (hs.ended_ne hc)⟩
  | @restored _ result =>
    cases result with
    | ok k => exact advances_one .restored (.looking f)
    | error e =>
      by_cases he : e = .closed
      · subst he
        exact advances_one .refused (.stopped f)
      · rw [restored_error f he]
        exact advances_one (.raised fun hmax => hc (by rw [hmax])) (.submitting f e)

theorem advances_tripping {call : ShutdownPhase} (ha : (tripping call).At s closes overtaken stage)
    (input : TaskInput) (h : (tripping call).Step s phase' s') :
    Advances stage ((tripping call).deeds input s phase') phase' s' closes overtaken := by
  cases h with
  | stay =>
    have hd : (tripping call).deeds input s (tripping call) = [] := by cases call <;> rfl
    rw [hd]
    exact advances_nil ha
  | tripped =>
    cases ha with
    | done hb ht => exact advances_one .rest (.submittingLast hb ht)
  | shutting =>
    cases ha with
    | storing hs => exact advances_nil (.taking hs rfl)
    | taking hs hc => exact advances_nil (.closing rfl hc hs)
    | @closing id taken hs hc ht =>
      have hb := s.beside_closeLink taken
      have hlost : (s.closeLink taken).Lost closes overtaken id := by
        rcases ht with rfl | ⟨rfl, _, hl⟩
        · exact .inl (Session.isUp_closeLink_eq_false _ (.inr rfl))
        · exact hl
      have htook : Took overtaken id taken := ht.imp_right (.imp_right And.left)
      have hbroken : (s.closeLink taken).Broken closes overtaken id :=
        ⟨hb.state.trans hc, hb.slot.trans hs, hlost⟩
      exact advances_one .shut (.done hbroken htook)
    | done hb ht => exact advances_nil (.done hb ht)

structure Reports (s : Session) (closes : List CloseCall) (overtaken : Prop) (e : ClientError) (stage : Stage) : Prop where
  goesOn : ∀ r, (reporting e r).At s closes overtaken stage
  ends : Advances stage [.ended] stopped s closes overtaken

theorem Reports.advances {e : ClientError} (h : Reports s closes overtaken e stage) (errors : Mailbox ClientError)
    (r : FatalReport) :
    Advances stage ((submitting e).passage? (afterReport e r)).toList (afterReport e r)
      (s.withErrors errors) closes overtaken := by
  have hb : s.Beside (s.withErrors errors) := s.beside_outputs _
  cases r with
  | waiting | granted => exact advances_nil ((h.goesOn _).beside hb)
  | delivered | lost =>
    obtain ⟨stage', hp, ha⟩ := h.ends
    exact ⟨stage', hp, ha.beside hb⟩

theorem advances_submitting {e : ClientError} (ha : (submitting e).At s closes overtaken stage)
    (hr : Reports s closes overtaken e stage) (input : TaskInput) (h : (submitting e).Step s phase' s') :
    Advances stage ((submitting e).deeds input s phase') phase' s' closes overtaken := by
  cases h with
  | stay => exact advances_nil ha
  | submitted => exact hr.advances ..
  | submitStopped => exact hr.ends

theorem advances_reporting {e : ClientError} {r : FatalReport} (hr : Reports s closes overtaken e stage)
    (input : TaskInput) (h : (reporting e r).Step s phase' s') :
    Advances stage ((reporting e r).deeds input s phase') phase' s' closes overtaken := by
  cases h with
  | stay => exact advances_nil (hr.goesOn r)
  | @reported _ _ _ r' _ errors =>
    have hp : (reporting e r).deeds input s (afterReport e r') =
        ((submitting e).passage? (afterReport e r')).toList := by cases r' <;> rfl
    rw [hp]
    exact hr.advances errors r'

theorem reports_last (hb : s.Broken closes overtaken id) (ht : Took overtaken id taken) :
    Reports s closes overtaken (.maxConsecutiveErrors maxConsecutiveErrors) (.breaking id taken [.ended]) :=
  ⟨fun r => .reportingLast r hb ht, advances_one .rest (.broken hb ht)⟩

theorem reports_raised (f : Nat) (e : ClientError) : Reports s closes overtaken e (.raised f) :=
  ⟨fun r => .reporting f e r, advances_one .ended (.stopped f)⟩

theorem At.step (h : phase.At s closes overtaken stage) (hf : stage.Fits) (he : s.config.reconnectEnabled = true)
    (input : TaskInput) :
    Advances stage (phase.deeds input s (phase.step input s).1) (phase.step input s).1
      (phase.step input s).2 closes overtaken := by
  have hk := phase.step_kind input s
  cases h with
  | idle => exact advances_nil .idle
  | looking f => exact advances_looking input hk
  | waiting f ho => exact advances_waiting ho input
  | reading f hs => exact advances_reading hs he hf input
  | restoring f hc => exact advances_restoring hc input hk
  | storing hs => exact advances_tripping (.storing hs) input hk
  | taking hs hc => exact advances_tripping (.taking hs hc) input hk
  | closing hs hc ht => exact advances_tripping (.closing hs hc ht) input hk
  | done hb ht => exact advances_tripping (.done hb ht) input hk
  | submittingLast hb ht =>
    exact advances_submitting (.submittingLast hb ht) (reports_last hb ht) input hk
  | reportingLast r hb ht => exact advances_reporting (reports_last hb ht) input hk
  | submitting f e => exact advances_submitting (.submitting f e) (reports_raised f e) input hk
  | reporting f e r => exact advances_reporting (reports_raised f e) input hk
  | broken hb ht => exact advances_nil (.broken hb ht)
  | stopped f => exact advances_nil (.stopped f)

/-! ### After the last failure -/

end ReaderPhase

def ShutdownPhase.todo : ShutdownPhase → List TaskInput
  | storing => [.proceed, .proceed, .proceed]
  | taking => [.proceed, .proceed]
  | closing _ => [.proceed]
  | done => []

namespace ReaderPhase

variable {phase phase' : ReaderPhase} {s s' : Session} {closes : List CloseCall} {overtaken : Prop}
  {stage : Stage} {f : Nat} {id : LinkId}

def todo : ReaderPhase → List TaskInput
  | tripping call => call.todo ++ [.proceed, .proceed, .elapsed]
  | submitting _ => [.proceed, .elapsed]
  | reporting .. => [.elapsed]
  | _ => []

/-- The turns that it needs from the last failure on: five steps, and the time for its report. -/
def lastInputs : List TaskInput := [.proceed, .proceed, .proceed, .proceed, .proceed, .elapsed]

theorem todo_afterReport (e : ClientError) (r : FatalReport) : (afterReport e r).todo <:+ [.elapsed] := by
  cases r with
  | waiting | granted => exact List.suffix_refl _
  | delivered | lost => exact List.nil_suffix

theorem todo_tripping_step (call : ShutdownPhase) (s : Session) :
    (tripping (call.step s).1).todo <:+ (tripping call).todo := by
  cases call with
  | storing | taking | closing => exact List.suffix_cons ..
  | done => exact List.suffix_refl _

theorem At.todo_suffix (ha : phase.At s closes overtaken stage) (ht : stage.IsLast)
    (h : phase.Step s phase' s') : phase'.todo <:+ phase.todo := by
  cases h with
  | stay => exact List.suffix_refl _
  | shutting => exact todo_tripping_step ..
  | tripped => exact List.suffix_cons ..
  | submitted => exact (todo_afterReport ..).trans (List.suffix_cons ..)
  | submitStopped => exact List.nil_suffix
  | reported => exact todo_afterReport ..
  | _ =>
    cases ha
    exact ht.elim

theorem At.todo_step (ha : phase.At s closes overtaken stage) (ht : stage.IsLast) {input : TaskInput}
    {inputs : List TaskInput} (h : phase.todo = input :: inputs) :
    (phase.step input s).1.todo <:+ inputs := by
  cases ha with
  | storing | taking | closing | done =>
    cases h
    exact List.suffix_refl _
  | submittingLast =>
    cases h
    unfold ReaderPhase.step
    dsimp only
    rw [reported_eq]
    exact todo_afterReport ..
  | reportingLast r =>
    cases h
    cases r with
    | waiting | delivered | lost => exact List.suffix_refl _
    | granted =>
      unfold ReaderPhase.step
      dsimp only [reportInput?]
      rw [reported_eq]
      unfold FatalReport.step FatalReport.useRoom
      dsimp only
      split <;> exact List.suffix_refl _
  | broken => cases h
  | _ => exact ht.elim

theorem At.todo_suffix_lastInputs (ha : phase.At s closes overtaken stage) (ht : stage.IsLast) :
    phase.todo <:+ lastInputs := by
  cases ha with
  | storing => exact ⟨[], rfl⟩
  | taking => exact ⟨[.proceed], rfl⟩
  | closing => exact ⟨[.proceed, .proceed], rfl⟩
  | done => exact ⟨[.proceed, .proceed, .proceed], rfl⟩
  | submittingLast => exact ⟨[.proceed, .proceed, .proceed, .proceed], rfl⟩
  | reportingLast => exact ⟨[.proceed, .proceed, .proceed, .proceed, .proceed], rfl⟩
  | broken => exact List.nil_suffix
  | _ => exact ht.elim

theorem At.broken_and_took {rest : List Deed} (ha : phase.At s closes overtaken (.breaking id taken rest)) :
    s.Broken closes overtaken id ∧ Took overtaken id taken := by
  cases ha with
  | done hb ht | submittingLast hb ht | reportingLast _ hb ht | broken hb ht => exact ⟨hb, ht⟩

theorem At.broken_of_trips (ha : phase.At s closes overtaken stage) {log : List Deed} (ht : stage.Trips id log)
    (hn : log ≠ []) : s.Broken closes overtaken id := by
  cases stage with
  | tripped => exact absurd ht.2 hn
  | breaking =>
    obtain ⟨rfl, _⟩ := ht
    exact ha.broken_and_took.1
  | looking | failed | restoring | raised | finished => exact ht.elim

theorem At.took_of_trips (ha : phase.At s closes overtaken stage) {log : List Deed}
    (ht : stage.Trips id log) : ∃ taken, Took overtaken id taken ∧ log <+: lastDeeds taken := by
  cases stage with
  | tripped =>
    obtain ⟨_, rfl⟩ := ht
    exact ⟨some id, .inl rfl, List.nil_prefix⟩
  | breaking id' taken rest =>
    obtain ⟨rfl, hl⟩ := ht
    exact ⟨taken, ha.broken_and_took.2, rest, hl.symm⟩
  | looking | failed | restoring | raised | finished => exact ht.elim

theorem At.stopped_of_todo (ha : phase.At s closes overtaken stage) (ht : stage.IsLast) (h : phase.todo = []) :
    phase = .stopped ∧ ∃ id taken, stage = .breaking id taken [] := by
  cases ha with
  | broken => exact ⟨rfl, _, _, rfl⟩
  | storing | taking | closing | done | submittingLast | reportingLast => cases h
  | _ => exact ht.elim

theorem Granted.todo_eq (h : phase.Granted phase') : phase'.todo = phase.todo := by
  cases h <;> rfl

end ReaderPhase

end OrderEntry

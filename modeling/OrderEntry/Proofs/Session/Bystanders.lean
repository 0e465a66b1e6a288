import OrderEntry.Proofs.Session.Links
import OrderEntry.Proofs.Session.WriterSteps

/-! Changes that leave the slot, the state and the number of links alone. The write loop, the callers and
the network make no others, and reports and counts are of this kind too. -/

namespace OrderEntry
namespace Session

/-- `s'` differs from `s` at most in the outputs, in counters other than that of the events, and in links
of which none came up. -/
structure Beside (s s' : Session) : Prop where
  config : s'.config = s.config
  state : s'.state = s.state
  slot : s'.slot = s.slot
  cancelled : s'.cancelled = s.cancelled
  opened : s'.links.length = s.links.length
  received : s'.counters.received = s.counters.received
  up : ∀ id, s'.isUp id = true → s.isUp id = true

variable {s s' s'' : Session}

theorem Beside.refl (s : Session) : s.Beside s := ⟨rfl, rfl, rfl, rfl, rfl, rfl, fun _ h => h⟩

theorem Beside.trans (h : s.Beside s') (h' : s'.Beside s'') : s.Beside s'' where
  config := h'.config.trans h.config
  state := h'.state.trans h.state
  slot := h'.slot.trans h.slot
  cancelled := h'.cancelled.trans h.cancelled
  opened := h'.opened.trans h.opened
  received := h'.received.trans h.received
  up := fun id hu => h.up id (h'.up id hu)

theorem Beside.isUp_eq_false (h : s.Beside s') {id : LinkId} (hd : s.isUp id = false) :
    s'.isUp id = false := by
  rw [← Bool.not_eq_true] at hd ⊢
  exact mt (h.up id) hd

structure Keeps (s s' : Session) : Prop where
  config : s'.config = s.config
  cancelled : s'.cancelled = s.cancelled

theorem Keeps.trans (h : s.Keeps s') (h' : s'.Keeps s'') : s.Keeps s'' where
  config := h'.config.trans h.config
  cancelled := h'.cancelled.trans h.cancelled

theorem Beside.keeps (h : s.Beside s') : s.Keeps s' := ⟨h.config, h.cancelled⟩

theorem beside_outputs (s : Session) (outputs : Outputs) : s.Beside { s with outputs } :=
  ⟨rfl, rfl, rfl, rfl, rfl, rfl, fun _ h => h⟩

theorem beside_count (s : Session) {k : Counter} (h : k ≠ .received) : s.Beside (s.count k) := by
  refine ⟨rfl, rfl, rfl, rfl, rfl, ?_, fun _ h => h⟩
  cases k with
  | received => exact absurd rfl h
  | sent | errors | reconnects | dropped => rfl

theorem beside_noteError (s : Session) (e : ClientError) : s.Beside (s.noteError e) :=
  (s.beside_count (by decide)).trans (beside_outputs ..)

theorem beside_updateLink (s : Session) (id : LinkId) {f : Link → Link}
    (h : ∀ l, s.link? id = some l → (f l).up = true → l.up = true) :
    s.Beside (s.updateLink id f) where
  config := rfl
  state := rfl
  slot := rfl
  cancelled := rfl
  opened := s.length_updateLink id f
  received := rfl
  up := fun _ => isUp_of_isUp_updateLink h

theorem beside_closeLink (s : Session) (old : Option LinkId) : s.Beside (s.closeLink old) := by
  cases old with
  | none => exact .refl s
  | some id => exact s.beside_updateLink id fun _ _ hu => by cases hu

theorem beside_readLink {id : LinkId} {reading : Option Reading}
    (h : s.readLink id = (reading, s')) : s.Beside s' := by
  rcases readLink_cases h with ⟨_, _, rfl⟩ | ⟨l, hl, _, rfl⟩
  · exact .refl s'
  · refine s.beside_updateLink id fun l' hl' hu => ?_
    obtain rfl : l = l' := Option.some.inj (hl.symm.trans hl')
    rw [Link.read_up, Bool.and_eq_true] at hu
    exact hu.1

theorem beside_sendLink {id : LinkId} {c : Command} {sent : Except String Unit}
    {result : Except TransportError Unit} (h : s.sendLink id c sent = (result, s')) :
    s.Beside s' := by
  rcases sendLink_cases h with rfl | ⟨l, hl, rfl⟩
  · exact .refl s'
  · refine s.beside_updateLink id fun l' hl' hu => ?_
    obtain rfl : l = l' := Option.some.inj (hl.symm.trans hl')
    exact (l.send_keeps c sent).2.2 hu

theorem input?_sendLink {id : LinkId} {c : Command} {sent : Except String Unit}
    {result : Except TransportError Unit} (h : s.sendLink id c sent = (result, s'))
    (id' : LinkId) : s'.input? id' = s.input? id' := by
  rcases sendLink_cases h with rfl | ⟨l, hl, rfl⟩
  · rfl
  · refine s.input?_updateLink id id' fun l' hl' => ?_
    obtain rfl : l = l' := Option.some.inj (hl.symm.trans hl')
    exact ⟨(l.send_keeps c sent).1, (l.send_keeps c sent).2.1⟩

theorem eq_of_isUp_sendLink {id id' : LinkId} {c : Command} {sent : Except String Unit}
    {result : Except TransportError Unit} (h : s.sendLink id c sent = (result, s'))
    (hu : s'.isUp id' ≠ s.isUp id') : id = id' := by
  rcases sendLink_cases h with rfl | ⟨l, _, rfl⟩
  · exact absurd rfl hu
  · rcases Decidable.em (id = id') with he | he
    · exact he
    · exact absurd (s.isUp_updateLink_of_ne id id' he) hu

end Session

theorem OwnerPhase.Step.keeps {call call' : OwnerPhase} {s s' : Session}
    (h : call.Step s call' s') : s.Keeps s' := by
  cases h with
  | oldClosed => exact (s.beside_closeLink _).keeps
  | replacedClosed => exact (s.beside_closeLink _).keeps
  | withdrawnClosed => exact (s.beside_closeLink _).keeps
  | @confirmed p k => cases p <;> exact ⟨rfl, rfl⟩
  | stay | announceLooked | announceRefused | announced | dialFailed | dialed | unlinked | delayOver
  | redialFailed | redialed | retryCancelled | retryConnected | retryStopped | retryExhausted
  | installed | confirmLooked | confirmRefused | withdrawn | fallBackLooked | fallBackRefused
  | fellBack | giveUpLooked | giveUpRefused | gaveUp => exact ⟨rfl, rfl⟩

theorem ShutdownPhase.keeps_step (call : ShutdownPhase) (s : Session) : s.Keeps (call.step s).2 := by
  cases call with
  | closing taken => exact (s.beside_closeLink taken).keeps
  | storing | taking | done => exact ⟨rfl, rfl⟩

theorem Session.keeps_accept (s : Session) (e : Event) : s.Keeps (s.accept e) := by
  unfold Session.accept
  dsimp only
  split <;> exact ⟨rfl, rfl⟩

theorem ReaderPhase.Step.keeps {phase phase' : ReaderPhase} {s s' : Session}
    (h : phase.Step s phase' s') : s.Keeps s' := by
  cases h with
  | unready hr => exact (Session.beside_readLink hr).keeps
  | event hr => exact (Session.beside_readLink hr).keeps.trans (Session.keeps_accept ..)
  | failedLast hr => exact ((Session.beside_readLink hr).trans (Session.beside_noteError ..)).keeps
  | failed hr => exact ((Session.beside_readLink hr).trans (Session.beside_noteError ..)).keeps
  | @failedForGood f id _ s' r e hr =>
    have hn := (Session.beside_readLink hr).trans (s'.beside_noteError e)
    have hd := (s'.noteError e).beside_updateLink id (f := Link.markDown) fun _ _ hu => by cases hu
    exact (hn.trans hd).keeps
  | restoring hs => exact hs.keeps
  | @shutting call => exact call.keeps_step s
  | stay | lookStopped | found | lost | waited | readStopped | restored | tripped | submitted
  | submitStopped | reported => exact ⟨rfl, rfl⟩

namespace WriterPhase
namespace Step

variable {phase phase' : WriterPhase} {s s' : Session} {queue queue' : Mailbox Command}

theorem beside (h : Step phase s queue phase' s' queue') : s.Beside s' := by
  cases h with
  | written hw => exact (Session.beside_sendLink hw).trans (Session.beside_count _ (by decide))
  | failed hw => exact (Session.beside_sendLink hw).trans (Session.beside_noteError ..)
  | unlinked => exact s.beside_noteError _
  | stay | taken | drained | ended | waitStopped | found | holdStopped | writeStopped => exact .refl s

theorem input? (h : Step phase s queue phase' s' queue') (id : LinkId) :
    s'.input? id = s.input? id := by
  cases h with
  | written hw => exact Session.input?_sendLink hw id
  | failed hw => exact Session.input?_sendLink hw id
  | stay | taken | drained | ended | waitStopped | found | unlinked | holdStopped | writeStopped => rfl

theorem writing_of_down (h : Step phase s queue phase' s' queue') {id : LinkId}
    (hu : s.isUp id = true) (hd : s'.isUp id = false) : ∃ c, phase = writing c id := by
  have same : s'.isUp id ≠ s.isUp id := by
    rw [hu, hd]
    decide
  cases h with
  | @written c id' _ _ _ _ hw => exact ⟨c, congrArg _ (Session.eq_of_isUp_sendLink hw same)⟩
  | @failed c id' _ _ _ _ _ hw => exact ⟨c, congrArg _ (Session.eq_of_isUp_sendLink hw same)⟩
  | stay | taken | drained | ended | waitStopped | found | unlinked | holdStopped | writeStopped =>
    exact absurd rfl same

end Step
end WriterPhase
end OrderEntry

import OrderEntry.Proofs.Session.History
import OrderEntry.Proofs.Session.LinkOutput

/-! What became of the commands of a run. A ledger notes which were accepted, which the write loop took
from the queue and how it got through with each; the queue, the loop and the links bear it out. -/

namespace OrderEntry

def Mailbox.lost {α : Type} (before after : Mailbox α) : List α :=
  if before.receiving && !after.receiving then before.toList else []

inductive Outcome
  | written (link : LinkId)
  | failed (e : TransportError)
  deriving DecidableEq

def Outcome.isWritten : Outcome → Bool
  | written _ => true
  | failed _ => false

def Session.Noted (s : Session) (finished : Option (Command × Outcome)) (s' : Session) : Prop :=
  match finished with
  | none => s' = s
  | some (_, .written _) =>
    s'.counters = { s.counters with sent := s.counters.sent + 1 } ∧ s'.outputs = s.outputs
  | some (_, .failed e) =>
    s'.counters = { s.counters with errors := s.counters.errors + 1 } ∧
      s'.outputs = s.outputs.report (.write e)

namespace WriterPhase

def inHand : WriterPhase → List Command
  | holding c | writing c _ => [c]
  | idle | waiting | stopped => []

def taken? (before after : WriterPhase) : Option Command :=
  match before, after with
  | waiting, holding c => some c
  | _, _ => none

def finished? (phase : WriterPhase) (input : TaskInput) (s : Session) : Option (Command × Outcome) :=
  match phase, input with
  | holding c, .proceed =>
    match s.live? with
    | none => some (c, .failed .notConnected)
    | some _ => none
  | writing c id, .sent sent =>
    match (s.sendLink id c sent).1 with
    | .ok () => some (c, .written id)
    | .error e => some (c, .failed e)
  | _, _ => none

def abandoned? (before after : WriterPhase) : Option Command :=
  match before, after with
  | holding c, stopped | writing c _, stopped => some c
  | _, _ => none

end WriterPhase

/-- What became of the commands of a run, each list in the order in which it happened. -/
structure Ledger where
  accepted : List Command := []
  /-- Valid, and turned away by a full queue. -/
  refused : List Command := []
  taken : List Command := []
  finished : List (Command × Outcome) := []
  /-- Taken, and given up when the loop was told to stop. -/
  abandoned : List Command := []
  /-- Still queued when the receiver of the queue went away. -/
  discarded : List Command := []

namespace Ledger

def answered (l : Ledger) (command : Command) : Reply → Ledger
  | .result (.ok ()) => { l with accepted := l.accepted ++ [command] }
  | .result (.error .queueFull) => { l with refused := l.refused ++ [command] }
  | _ => l

def stepped (l : Ledger) (before : WriterPhase) (input : TaskInput) (s : Session)
    (after : WriterPhase) : Ledger :=
  { l with
    taken := l.taken ++ (before.taken? after).toList
    finished := l.finished ++ (before.finished? input s).toList
    abandoned := l.abandoned ++ (before.abandoned? after).toList }

def note (l : Ledger) (c : Client) (m : Move) : Ledger :=
  let l := { l with discarded := l.discarded ++ c.queue.lost (c.step m).1.queue }
  match m with
  | .send command => l.answered command (c.send command).2
  | .writer input => l.stepped c.writer input c.session (c.stepWriter input).writer
  | _ => l

def sent (l : Ledger) : Nat := l.finished.countP fun p => p.2.isWritten

def failed (l : Ledger) : Nat := l.finished.countP fun p => !p.2.isWritten

def frames (l : Ledger) (format : WireFormat) (id : LinkId) : List (Except FrameError Bytes) :=
  (l.finished.filter fun p => p.2 = .written id).map fun p => p.1.frame format

end Ledger

namespace Client

def ledger (c : Client) (l : Ledger) : List Move → Ledger
  | [] => l
  | m :: moves => (c.step m).1.ledger (l.note c m) moves

end Client

/-! ### The queue -/

namespace Mailbox

variable {α : Type} {m m' : Mailbox α} {a : α}

theorem lost_of_receiving (h : m'.receiving = m.receiving) : m.lost m' = [] := by
  unfold lost
  rw [h, Bool.and_not_self]
  rfl

theorem lost_dropReceiver (h : m.receiving = false → m.toList = []) :
    m.lost m.dropReceiver = m.toList := by
  unfold lost dropReceiver
  cases hr : m.receiving with
  | true => rfl
  | false => exact (h hr).symm

theorem receive_item (h : m.receive = (.item a, m')) :
    m.toList = a :: m'.toList ∧ m' = { m with items := m'.items } := by
  unfold receive at h
  split at h
  next hp =>
    cases h
    exact ⟨Fifo.toList_of_pop? hp, rfl⟩
  next => split at h <;> cases h

theorem receive_of_toList_cons {rest : List α} (h : m.toList = a :: rest) :
    ∃ m', m.receive = (.item a, m') ∧ m'.toList = rest := by
  unfold receive
  rcases hp : m.items.pop? with _ | ⟨b, items⟩
  · cases (Fifo.pop?_eq_none_iff.mp hp).symm.trans h
  · cases (Fifo.toList_of_pop? hp).symm.trans h
    exact ⟨_, rfl, rfl⟩

theorem receive_empty (h : m.receive = (.empty, m')) : m' = m := by
  unfold receive at h
  split at h
  · cases h
  · split at h <;> cases h
    rfl

theorem offer_eq_ok (h : m.offer a = .ok m') :
    m.receiving = true ∧ m.toList.length + m.reserved < m.capacity ∧
      m' = { m with items := m.items.push a } := by
  unfold offer at h
  rw [Fifo.size_eq_length] at h
  split at h
  · cases h
  next hr =>
    split at h
    next hroom =>
      cases h
      exact ⟨by simpa using hr, hroom, rfl⟩
    next => cases h

theorem sending_of_receive (h : m.receive = (.closed, m')) : m.sending = false := by
  unfold receive at h
  split at h
  · cases h
  · split at h
    · cases h
    next hs => exact Bool.eq_false_iff.mpr hs

theorem offer_of_receiving (hr : m.receiving = true) (hz : m.reserved = 0) (a : α) :
    m.offer a = if m.toList.length < m.capacity then .ok { m with items := m.items.push a }
      else .error .full := by
  unfold offer
  rw [hr, hz, Nat.add_zero, Fifo.size_eq_length]
  rfl

end Mailbox

structure Queued (queue : Mailbox Command) (s : Session) (l : Ledger) : Prop where
  order : l.accepted = l.taken ++ (l.discarded ++ queue.toList)
  capacity : queue.capacity = s.config.channelCapacity
  reserved : queue.reserved = 0
  sending : queue.sending = true
  room : queue.toList.length ≤ queue.capacity
  receiving : s.cancelled = false → queue.receiving = true
  discarded : l.discarded ≠ [] → queue.receiving = false
  gone : queue.receiving = false → queue.toList = []

namespace Queued

variable {queue queue' : Mailbox Command} {s s' : Session} {l l' : Ledger}

theorem of_eq (h : Queued queue s l) (ha : l'.accepted = l.accepted) (ht : l'.taken = l.taken)
    (hd : l'.discarded = l.discarded) : Queued queue s l' where
  order := by rw [ha, ht, hd, h.order]
  capacity := h.capacity
  reserved := h.reserved
  sending := h.sending
  room := h.room
  receiving := h.receiving
  discarded := fun hn => h.discarded (hd ▸ hn)
  gone := h.gone

theorem congr (h : Queued queue s l) (hc : s'.config = s.config)
    (hs : s'.cancelled = false → s.cancelled = false) : Queued queue s' l :=
  { h with
    capacity := by rw [h.capacity, hc]
    receiving := fun hn => h.receiving (hs hn) }

theorem drop (h : Queued queue s l) (hc : s.cancelled = true) :
    Queued queue.dropReceiver s
      { l with discarded := l.discarded ++ queue.lost queue.dropReceiver } where
  order := by
    rw [Mailbox.lost_dropReceiver h.gone, h.order]
    exact congrArg _ (List.append_nil _).symm
  capacity := h.capacity
  reserved := h.reserved
  sending := h.sending
  room := Nat.zero_le _
  receiving := fun hn => by cases hc.symm.trans hn
  discarded := fun _ => rfl
  gone := fun _ => rfl

theorem take (h : Queued queue s l) {c : Command} (hr : queue.receive = (.item c, queue')) :
    Queued queue' s { l with taken := l.taken ++ [c] } := by
  obtain ⟨hl, he⟩ := Mailbox.receive_item hr
  have hopen : queue.receiving = true := by
    cases hr : queue.receiving with
    | true => rfl
    | false => cases (h.gone hr).symm.trans hl
  have hkept : l.discarded = [] :=
    Decidable.of_not_not fun hn => by cases hopen.symm.trans (h.discarded hn)
  have hsame : queue'.receiving = queue.receiving ∧ queue'.capacity = queue.capacity ∧
      queue'.reserved = queue.reserved ∧ queue'.sending = queue.sending := by
    rw [he]
    exact ⟨rfl, rfl, rfl, rfl⟩
  obtain ⟨hrec, hcap, hres, hsend⟩ := hsame
  refine ⟨?_, hcap.trans h.capacity, hres.trans h.reserved, hsend.trans h.sending, ?_,
    fun _ => hrec.trans hopen, fun hn => absurd hkept hn, fun hn => ?_⟩
  · rw [h.order, hkept, hl, List.nil_append, List.nil_append, List.append_assoc]
    rfl
  · have hroom := h.room
    rw [hl, List.length_cons] at hroom
    rw [hcap]
    exact Nat.le_of_succ_le hroom
  · cases hn.symm.trans (hrec.trans hopen)

theorem stepped (h : Queued queue s l) {phase phase' : WriterPhase}
    (hk : phase.Step s queue phase' s' queue') (input : TaskInput) :
    Queued queue' s'
      ({ l with discarded := l.discarded ++ queue.lost queue' }.stepped phase input s phase') := by
  have hb := hk.beside
  refine congr (s := s) ?_ hb.config fun hn => hb.cancelled ▸ hn
  have hlost : queue.lost queue = [] := Mailbox.lost_of_receiving rfl
  cases hk with
  | stay =>
    have ht : phase.taken? phase = none := by cases phase <;> rfl
    unfold Ledger.stepped
    rw [ht, hlost]
    exact h.of_eq rfl (List.append_nil _) (List.append_nil _)
  | taken hr =>
    have hlost' : queue.lost queue' = [] := by
      rw [(Mailbox.receive_item hr).2]
      exact Mailbox.lost_of_receiving rfl
    rw [hlost']
    exact (h.take hr).of_eq rfl rfl (List.append_nil _)
  | drained hr =>
    obtain rfl := Mailbox.receive_empty hr
    rw [hlost]
    exact h.of_eq rfl (List.append_nil _) (List.append_nil _)
  | ended hr => cases h.sending.symm.trans (Mailbox.sending_of_receive hr)
  | waitStopped hc => exact (h.drop hc).of_eq rfl (List.append_nil _) rfl
  | holdStopped hc => exact (h.drop hc).of_eq rfl (List.append_nil _) rfl
  | writeStopped hc => exact (h.drop hc).of_eq rfl (List.append_nil _) rfl
  | found | unlinked | written | failed =>
    rw [hlost]
    exact h.of_eq rfl (List.append_nil _) (List.append_nil _)

theorem accept (h : Queued queue s l) {command : Command} (ho : queue.offer command = .ok queue') :
    Queued queue' s { l with accepted := l.accepted ++ [command] } := by
  have htl := Mailbox.toList_of_offer ho
  obtain ⟨hr, hlt, rfl⟩ := Mailbox.offer_eq_ok ho
  rw [h.reserved] at hlt
  refine ⟨?_, h.capacity, h.reserved, h.sending, ?_, h.receiving, h.discarded, fun hn => ?_⟩
  · rw [htl, h.order]
    simp only [List.append_assoc]
  · rw [htl, List.length_append]
    exact hlt
  · cases hr.symm.trans hn

end Queued

/-! ### The write loop -/

structure Handled (phase : WriterPhase) (s : Session) (l : Ledger) : Prop where
  order : l.taken = l.finished.map Prod.fst ++ (l.abandoned ++ phase.inHand)
  single : (l.abandoned ++ phase.inHand).length ≤ 1
  abandoned : l.abandoned ≠ [] → phase = .stopped ∧ s.cancelled = true

namespace WriterPhase

inductive Finishes (phase : WriterPhase) (s : Session) :
    Option (Command × Outcome) → WriterPhase → Session → Prop
  | nothing {phase' : WriterPhase} {s' : Session} (h : phase' = waiting → phase.inHand = [])
      (hs : s' = s) : Finishes phase s none phase' s'
  | written {c : Command} {id : LinkId} {sent : Except String Unit} {s' : Session}
      (hc : phase.inHand = [c]) (h : s.sendLink id c sent = (.ok (), s')) :
      Finishes phase s (some (c, .written id)) waiting (s'.count .sent)
  | failed {c : Command} {e : TransportError} {s' : Session} (hc : phase.inHand = [c])
      (h : s' = s ∨ ∃ id sent, s.sendLink id c sent = (.error e, s')) :
      Finishes phase s (some (c, .failed e)) waiting (s'.noteError (.write e))

theorem Finishes.noted {phase phase' : WriterPhase} {s s' : Session}
    {finished : Option (Command × Outcome)} (h : phase.Finishes s finished phase' s') :
    s.Noted finished s' := by
  cases h with
  | nothing _ hs => exact hs
  | written _ hw =>
    obtain ⟨_, _, _, _, _, _, _, hc, ho⟩ := Session.sendLink_ok hw
    exact ⟨congrArg (·.increment .sent) hc, ho⟩
  | @failed c e s' _ he =>
    rcases he with rfl | ⟨id, sent, hw⟩
    · exact ⟨rfl, rfl⟩
    · obtain ⟨hc, ho, _⟩ := Session.sendLink_error hw
      exact ⟨congrArg (·.increment .errors) hc, congrArg (·.report (.write e)) ho⟩

theorem step_cancelled (phase : WriterPhase) (s : Session) (queue : Mailbox Command) :
    ((phase.step .cancelled s queue).1 = waiting → phase = waiting) ∧
      (phase.step .cancelled s queue).2.1 = s := by
  cases phase with
  | idle | stopped => exact ⟨nofun, rfl⟩
  | waiting =>
    unfold step
    cases s.cancelled <;> exact ⟨fun _ => rfl, rfl⟩
  | holding c =>
    have hs : (holding c).step .cancelled s queue =
        if s.cancelled && s.slot.isSome then stop s queue else (holding c, s, queue) := rfl
    rw [hs]
    split <;> exact ⟨nofun, rfl⟩
  | writing c id =>
    have hs : (writing c id).step .cancelled s queue =
        if s.cancelled then stop s queue else (writing c id, s, queue) := rfl
    rw [hs]
    split <;> exact ⟨nofun, rfl⟩

theorem session_waiting (input : TaskInput) (s : Session) (queue : Mailbox Command) :
    (waiting.step input s queue).2.1 = s := by
  cases input with
  | proceed =>
    unfold step
    rcases queue.receive with ⟨_ | _ | _, queue'⟩ <;> rfl
  | cancelled => exact (waiting.step_cancelled s queue).2
  | elapsed | dialed | sent => rfl

theorem finishes_holding (c : Command) (s : Session) (queue : Mailbox Command) :
    (holding c).Finishes s ((holding c).finished? .proceed s) ((holding c).step .proceed s queue).1
      ((holding c).step .proceed s queue).2.1 := by
  unfold step finished?
  dsimp only
  cases s.live? with
  | none => exact .failed rfl (.inl rfl)
  | some id => exact .nothing nofun rfl

theorem finishes_writing (c : Command) (id : LinkId) (sent : Except String Unit) (s : Session)
    (queue : Mailbox Command) :
    (writing c id).Finishes s ((writing c id).finished? (.sent sent) s)
      ((writing c id).step (.sent sent) s queue).1 ((writing c id).step (.sent sent) s queue).2.1 := by
  unfold step finished?
  dsimp only
  rcases hw : s.sendLink id c sent with ⟨_ | _, s'⟩
  · exact .failed rfl (.inr ⟨id, sent, hw⟩)
  · exact .written rfl hw

theorem finishes (phase : WriterPhase) (input : TaskInput) (s : Session) (queue : Mailbox Command) :
    phase.Finishes s (phase.finished? input s) (phase.step input s queue).1
      (phase.step input s queue).2.1 := by
  cases phase with
  | idle | stopped => exact .nothing (fun _ => rfl) rfl
  | waiting => exact .nothing (fun _ => rfl) (session_waiting input s queue)
  | holding c =>
    cases input with
    | proceed => exact finishes_holding c s queue
    | cancelled =>
      obtain ⟨hp, hs⟩ := (holding c).step_cancelled s queue
      exact .nothing (fun hw => nomatch hp hw) hs
    | elapsed | dialed | sent => exact .nothing nofun rfl
  | writing c id =>
    cases input with
    | sent result => exact finishes_writing c id result s queue
    | cancelled =>
      obtain ⟨hp, hs⟩ := (writing c id).step_cancelled s queue
      exact .nothing (fun hw => nomatch hp hw) hs
    | proceed | elapsed | dialed => exact .nothing nofun rfl

theorem none_of_waiting (phase : WriterPhase) :
    phase.taken? waiting = none ∧ phase.abandoned? waiting = none := by
  cases phase <;> exact ⟨rfl, rfl⟩

end WriterPhase

namespace Handled

variable {phase phase' : WriterPhase} {s s' : Session} {l l' : Ledger} {queue queue' : Mailbox Command}

theorem of_eq (h : Handled phase s l) (ht : l'.taken = l.taken) (hf : l'.finished = l.finished)
    (ha : l'.abandoned = l.abandoned) (hs : s.cancelled = true → s'.cancelled = true) :
    Handled phase s' l' where
  order := by rw [ht, hf, ha, h.order]
  single := by
    rw [ha]
    exact h.single
  abandoned := fun hn => by
    rw [ha] at hn
    exact (h.abandoned hn).imp_right hs

theorem abandoned_eq_nil (h : Handled phase s l) (hp : phase ≠ .stopped) : l.abandoned = [] :=
  Decidable.of_not_not fun hn => hp (h.abandoned hn).1

theorem finish (h : Handled phase s l) {c : Command} (hc : phase.inHand = [c]) (o : Outcome)
    (s' : Session) : Handled .waiting s' { l with finished := l.finished ++ [(c, o)] } := by
  have ha : l.abandoned = [] := h.abandoned_eq_nil fun hp => by
    rw [hp] at hc
    cases hc
  refine ⟨?_, ?_, fun hn => absurd ha hn⟩
  · rw [h.order, hc, ha, List.map_append]
    exact (List.append_nil _).symm
  · rw [ha]
    exact Nat.zero_le 1

theorem take (h : Handled .waiting s l) (c : Command) :
    Handled (.holding c) s { l with taken := l.taken ++ [c] } := by
  have ha := h.abandoned_eq_nil nofun
  refine ⟨?_, ?_, fun hn => absurd ha hn⟩
  · rw [h.order, ha]
    exact List.append_assoc ..
  · rw [ha]
    exact Nat.le_refl 1

theorem giveUp {c : Command} (h : Handled phase s l) (hp : phase.inHand = [c])
    (hc : s.cancelled = true) :
    Handled .stopped s { l with abandoned := l.abandoned ++ [c] } := by
  have ha := h.abandoned_eq_nil fun hs => by
    rw [hs] at hp
    cases hp
  refine ⟨?_, ?_, fun _ => ⟨rfl, hc⟩⟩
  · rw [h.order, hp, List.append_assoc]
    rfl
  · rw [ha]
    exact Nat.le_refl 1

theorem same (h : Handled phase s l) (hp : phase ≠ .stopped) (hi : phase'.inHand = phase.inHand) :
    Handled phase' s l := by
  have ha := h.abandoned_eq_nil hp
  refine ⟨?_, ?_, fun hn => absurd ha hn⟩
  · rw [hi]
    exact h.order
  · rw [hi]
    exact h.single

theorem stepped (h : Handled phase s l) (hk : phase.Step s queue phase' s' queue') {input : TaskInput}
    (hf : phase.Finishes s (phase.finished? input s) phase' s') :
    Handled phase' s' (l.stepped phase input s phase') := by
  unfold Ledger.stepped
  revert hf
  generalize phase.finished? input s = finished
  intro hf
  cases hf with
  | written hc =>
    rw [phase.none_of_waiting.1, phase.none_of_waiting.2]
    exact (h.finish hc _ _).of_eq (List.append_nil _) rfl (List.append_nil _) id
  | failed hc =>
    rw [phase.none_of_waiting.1, phase.none_of_waiting.2]
    exact (h.finish hc _ _).of_eq (List.append_nil _) rfl (List.append_nil _) id
  | nothing hn =>
    have hnil {α : Type} (l : List α) : l ++ (none : Option α).toList = l := List.append_nil l
    cases hk with
    | stay =>
      have ht : phase.taken? phase = none ∧ phase.abandoned? phase = none := by
        cases phase <;> exact ⟨rfl, rfl⟩
      rw [ht.1, ht.2]
      exact h.of_eq (hnil _) (hnil _) (hnil _) id
    | @taken _ _ _ c => exact (h.take c).of_eq rfl (hnil _) (hnil _) id
    | drained => exact h.of_eq (hnil _) (hnil _) (hnil _) id
    | ended | waitStopped =>
      have hs : Handled .stopped s l := h.same nofun rfl
      exact hs.of_eq (hnil _) (hnil _) (hnil _) id
    | @found c _ _ id =>
      have hs : Handled (.writing c id) s l := h.same nofun rfl
      exact hs.of_eq (hnil _) (hnil _) (hnil _) fun hc => hc
    | holdStopped hc => exact (h.giveUp rfl hc).of_eq (hnil _) (hnil _) rfl id
    | writeStopped hc => exact (h.giveUp rfl hc).of_eq (hnil _) (hnil _) rfl id
    | unlinked | written | failed => cases hn rfl

end Handled

/-! ### The links -/

structure Delivered (s : Session) (l : Ledger) : Prop where
  sent : s.counters.sent = .ofNat l.sent
  frames : ∀ id, s.output? id = none ∧ l.frames s.config.wireFormat id = [] ∨
    ∃ written, s.output? id = some (s.config.wireFormat, written) ∧
      l.frames s.config.wireFormat id = written.map .ok

theorem Ledger.frames_finish (l : Ledger) (c : Command) (o : Outcome) (format : WireFormat)
    (id : LinkId) :
    ({ l with finished := l.finished ++ [(c, o)] } : Ledger).frames format id =
      l.frames format id ++ if o = .written id then [c.frame format] else [] := by
  unfold frames
  rw [List.filter_append, List.map_append, List.filter_cons]
  simp only [decide_eq_true_eq]
  split <;> rfl

theorem Ledger.sent_finish (l : Ledger) (c : Command) (o : Outcome) :
    ({ l with finished := l.finished ++ [(c, o)] } : Ledger).sent =
      l.sent + if o.isWritten then 1 else 0 := by
  unfold sent
  rw [List.countP_append]
  cases o <;> rfl

namespace Delivered

variable {s s' : Session} {l l' : Ledger} {c : Command} {id : LinkId}

theorem of_eq (h : Delivered s l) (hf : l'.finished = l.finished) : Delivered s l' := by
  obtain ⟨hs, hw⟩ := h
  unfold Ledger.sent at hs
  unfold Ledger.frames at hw
  rw [← hf] at hs hw
  exact ⟨hs, hw⟩

theorem unwritten (h : Delivered s l) (hu : s.Unwritten s') (hc : s'.config = s.config) :
    Delivered s' l := by
  refine ⟨hu.sent.trans h.sent, fun id => ?_⟩
  rw [hc]
  rcases hu.output id with he | ⟨hn, he⟩
  · rw [he]
    exact h.frames id
  · rcases h.frames id with ⟨_, hl⟩ | ⟨_, hl, _⟩
    · exact .inr ⟨[], he, hl⟩
    · cases hn.symm.trans hl

theorem fail (h : Delivered s l) (e : TransportError) :
    Delivered s { l with finished := l.finished ++ [(c, .failed e)] } := by
  refine ⟨?_, fun id => ?_⟩
  · rw [l.sent_finish]
    exact h.sent
  · rw [l.frames_finish, if_neg nofun, List.append_nil]
    exact h.frames id

theorem write (h : Delivered s l) {sent : Except String Unit}
    (hw : s.sendLink id c sent = (.ok (), s')) :
    Delivered (s'.count .sent) { l with finished := l.finished ++ [(c, .written id)] } := by
  have hconfig : s'.config = s.config := (s.beside_sendLink hw).config
  obtain ⟨format, written, bytes, ho, hf, ho', hother, hc, _⟩ := Session.sendLink_ok hw
  refine ⟨?_, fun id' => ?_⟩
  · rw [l.sent_finish]
    show s'.counters.sent + 1 = _
    rw [hc, h.sent]
    exact (UInt64.ofNat_add _ 1).symm
  · show (s'.output? id' = _ ∧ _) ∨ ∃ written, s'.output? id' = _ ∧ _
    rw [show (s'.count .sent).config = s.config from hconfig, l.frames_finish]
    rcases Decidable.em (id = id') with rfl | hn
    · rw [if_pos rfl]
      rcases h.frames id with ⟨hnone, _⟩ | ⟨earlier, hsome, hframes⟩
      · cases hnone.symm.trans ho
      · cases hsome.symm.trans ho
        refine .inr ⟨_, ho', ?_⟩
        rw [hframes, hf, List.map_append]
        rfl
    · rw [if_neg fun he => hn (Outcome.written.inj he), List.append_nil, hother id' hn]
      exact h.frames id'

theorem stepped (h : Delivered s l) {phase phase' : WriterPhase} {input : TaskInput}
    (hf : phase.Finishes s (phase.finished? input s) phase' s') :
    Delivered s' (l.stepped phase input s phase') := by
  unfold Ledger.stepped
  revert hf
  generalize phase.finished? input s = finished
  intro hf
  cases hf with
  | nothing _ hs =>
    subst hs
    exact h.of_eq (List.append_nil _)
  | written _ hw => exact (h.write hw).of_eq rfl
  | @failed c e s' _ he =>
    have hu : s.Unwritten s' ∧ s'.config = s.config := by
      rcases he with rfl | ⟨id, sent, hw⟩
      · exact ⟨.refl s', rfl⟩
      · obtain ⟨hc, _, ho⟩ := Session.sendLink_error hw
        exact ⟨⟨congrArg Counters.sent hc, fun id => .inl (ho id)⟩, (s.beside_sendLink hw).config⟩
    have hn : s'.Unwritten (s'.noteError (.write e)) := ⟨rfl, fun _ => .inl rfl⟩
    exact (((h.unwritten hu.1 hu.2).unwritten hn rfl).fail e).of_eq rfl

end Delivered

end OrderEntry

import OrderEntry.Proofs.Session.ClientSteps

/-! What was handed to the network on each link. Only a write adds to it: the calls that own the slot, the
read loop and a shutdown write nothing, and a link that was just opened starts with nothing. -/

namespace OrderEntry

theorem Link.send_cases (l : Link) (c : Command) (sent : Except String Unit) :
    (∃ bytes, c.frame l.format = .ok bytes ∧
      l.send c sent = (.ok (), { l with written := l.written.push bytes })) ∨
      ∃ e, (l.send c sent).1 = .error e ∧ (l.send c sent).2.format = l.format ∧
        (l.send c sent).2.written = l.written := by
  unfold send
  dsimp only
  split
  next => exact .inr ⟨_, rfl, by dsimp only; split <;> rfl, by dsimp only; split <;> rfl⟩
  next => exact .inr ⟨_, rfl, by dsimp only; split <;> rfl, by dsimp only; split <;> rfl⟩
  next bytes hf => exact .inl ⟨bytes, hf, rfl⟩

namespace Session

def output? (s : Session) (id : LinkId) : Option (WireFormat × List Bytes) :=
  (s.link? id).map fun l => (l.format, l.written.toList)

structure Unwritten (s s' : Session) : Prop where
  sent : s'.counters.sent = s.counters.sent
  output : ∀ id, s'.output? id = s.output? id ∨
    s.output? id = none ∧ s'.output? id = some (s.config.wireFormat, [])

variable {s s' s'' : Session} {id : LinkId}

theorem Unwritten.refl (s : Session) : s.Unwritten s := ⟨rfl, fun _ => .inl rfl⟩

theorem output?_updateLink {f : Link → Link}
    (hf : ∀ l, s.link? id = some l → (f l).format = l.format ∧ (f l).written = l.written)
    (id' : LinkId) : (s.updateLink id f).output? id' = s.output? id' := by
  unfold output?
  rw [link?_updateLink]
  split
  next h =>
    subst h
    rcases hl : s.link? id with _ | l
    · rfl
    · simp only [Option.map_some, hf l hl]
  · rfl

theorem unwritten_updateLink {f : Link → Link}
    (hf : ∀ l, s.link? id = some l → (f l).format = l.format ∧ (f l).written = l.written) :
    s.Unwritten (s.updateLink id f) :=
  ⟨rfl, fun id' => .inl (output?_updateLink hf id')⟩

theorem unwritten_closeLink (old : Option LinkId) : s.Unwritten (s.closeLink old) := by
  cases old with
  | none => exact .refl s
  | some id => exact unwritten_updateLink fun _ _ => ⟨rfl, rfl⟩

theorem unwritten_addLink (remote : String) : s.Unwritten (s.addLink (s.newLink remote)).2 := by
  refine ⟨rfl, fun id => ?_⟩
  unfold output?
  rw [link?_addLink]
  split
  next h =>
    rw [h, s.link?_eq_none _ (Nat.le_refl _)]
    exact .inr ⟨rfl, rfl⟩
  next => exact .inl rfl

theorem output?_readLink {reading : Option Reading} (h : s.readLink id = (reading, s')) :
    s'.counters = s.counters ∧ ∀ id', s'.output? id' = s.output? id' := by
  rcases readLink_cases h with ⟨_, _, rfl⟩ | ⟨l, hl, _, rfl⟩
  · exact ⟨rfl, fun _ => rfl⟩
  · refine ⟨rfl, output?_updateLink fun l' hl' => ?_⟩
    obtain rfl : l = l' := Option.some.inj (hl.symm.trans hl')
    exact ⟨rfl, rfl⟩

theorem unwritten_accept (s : Session) (e : Event) : s.Unwritten (s.accept e) := by
  unfold accept
  dsimp only
  split <;> exact ⟨rfl, fun _ => .inl rfl⟩

theorem unwritten_after_read {reading : Option Reading} (h : s.readLink id = (reading, s'))
    (hs : s''.counters.sent = s'.counters.sent) (ho : ∀ id', s''.output? id' = s'.output? id') :
    s.Unwritten s'' := by
  obtain ⟨hc, hr⟩ := output?_readLink h
  refine ⟨?_, fun id' => .inl ((ho id').trans (hr id'))⟩
  rw [hs, hc]

theorem sendLink_eq {l : Link} (hl : s.link? id = some l) (c : Command) (sent : Except String Unit) :
    s.sendLink id c sent =
      ((l.send c sent).1, s.updateLink id fun _ => (l.send c sent).2) := by
  unfold sendLink
  rw [hl]

theorem sendLink_none (hl : s.link? id = none) (c : Command) (sent : Except String Unit) :
    s.sendLink id c sent = (.error .notConnected, s) := by
  unfold sendLink
  rw [hl]

theorem sendLink_ok {c : Command} {sent : Except String Unit}
    (h : s.sendLink id c sent = (.ok (), s')) :
    ∃ format written bytes, s.output? id = some (format, written) ∧ c.frame format = .ok bytes ∧
      s'.output? id = some (format, written ++ [bytes]) ∧
        (∀ id', id ≠ id' → s'.output? id' = s.output? id') ∧
          s'.counters = s.counters ∧ s'.outputs = s.outputs := by
  rcases hl : s.link? id with _ | l
  · rw [sendLink_none hl] at h
    cases h
  · rw [sendLink_eq hl] at h
    rcases l.send_cases c sent with ⟨bytes, hf, hw⟩ | ⟨e, he, _⟩
    · rw [hw] at h
      cases h
      refine ⟨l.format, l.written.toList, bytes, ?_, hf, ?_, fun id' hn => ?_, rfl, rfl⟩
      · rw [output?, hl]
        rfl
      · rw [output?, link?_updateLink, if_pos rfl, hl]
        simp only [Option.map_some, Fifo.toList_push]
      · rw [output?, link?_updateLink, if_neg hn]
        rfl
    · rw [he] at h
      cases h

theorem sendLink_error {c : Command} {sent : Except String Unit} {e : TransportError}
    (h : s.sendLink id c sent = (.error e, s')) :
    s'.counters = s.counters ∧ s'.outputs = s.outputs ∧ ∀ id', s'.output? id' = s.output? id' := by
  rcases hl : s.link? id with _ | l
  · rw [sendLink_none hl] at h
    cases h
    exact ⟨rfl, rfl, fun _ => rfl⟩
  · rw [sendLink_eq hl] at h
    rcases l.send_cases c sent with ⟨bytes, _, hw⟩ | ⟨e', he, hf, hw⟩
    · rw [hw] at h
      cases h
    · rw [he] at h
      cases h
      refine ⟨rfl, rfl, output?_updateLink fun l' hl' => ?_⟩
      obtain rfl : l = l' := Option.some.inj (hl.symm.trans hl')
      exact ⟨hf, hw⟩

end Session

theorem OwnerPhase.Step.unwritten {call call' : OwnerPhase} {s s' : Session}
    (h : call.Step s call' s') : s.Unwritten s' := by
  cases h with
  | dialed remote | redialed remote => exact s.unwritten_addLink remote
  | oldClosed | replacedClosed | withdrawnClosed => exact s.unwritten_closeLink _
  | @confirmed p => cases p <;> exact ⟨rfl, fun _ => .inl rfl⟩
  | stay | announceLooked | announceRefused | announced | dialFailed | unlinked | delayOver
  | redialFailed | retryCancelled | retryConnected | retryStopped | retryExhausted | installed
  | confirmLooked | confirmRefused | withdrawn | fallBackLooked | fallBackRefused | fellBack
  | giveUpLooked | giveUpRefused | gaveUp => exact ⟨rfl, fun _ => .inl rfl⟩

theorem ShutdownPhase.unwritten_step (call : ShutdownPhase) (s : Session) :
    s.Unwritten (call.step s).2 := by
  cases call with
  | closing taken => exact s.unwritten_closeLink taken
  | storing | taking | done => exact ⟨rfl, fun _ => .inl rfl⟩

theorem ReaderPhase.Step.unwritten {phase phase' : ReaderPhase} {s s' : Session}
    (h : phase.Step s phase' s') : s.Unwritten s' := by
  cases h with
  | unready hr => exact Session.unwritten_after_read hr rfl fun _ => rfl
  | @event f id _ s' e hr =>
    obtain ⟨hs, ho⟩ := s'.unwritten_accept e
    refine Session.unwritten_after_read hr hs fun id' => ?_
    unfold Session.accept
    dsimp only
    split <;> rfl
  | failedLast hr | failed hr => exact Session.unwritten_after_read hr rfl fun _ => rfl
  | failedForGood hr =>
    exact Session.unwritten_after_read hr rfl (Session.output?_updateLink fun _ _ => ⟨rfl, rfl⟩)
  | restoring hs => exact hs.unwritten
  | @shutting call => exact call.unwritten_step s
  | stay | lookStopped | found | lost | waited | readStopped | restored | tripped | submitted
  | submitStopped | reported => exact ⟨rfl, fun _ => .inl rfl⟩

end OrderEntry

import OrderEntry.Proofs.Session.OwnerSteps
import OrderEntry.Session.ReadLoop

/-! All that one step of the read loop can do to a session, one constructor for each kind of step. -/

namespace OrderEntry

def Reading.failure? : Reading → Option ClientError
  | .ok (some _) => none
  | .ok none => some (.transport .peerClosed)
  | .error e => some (.read e)

def Session.noteError (s : Session) (e : ClientError) : Session := (s.count .errors).report e

def Session.withErrors (s : Session) (errors : Mailbox ClientError) : Session :=
  { s with outputs := { s.outputs with errors } }

namespace LinkWait

def IsOpen : LinkWait → Prop
  | checking _ | pausing _ => True
  | found _ | missing => False

theorem step_cases {wait : LinkWait} (input : TaskInput) (s : Session) (ho : wait.IsOpen) :
    (wait.step input s).IsOpen ∨ wait.step input s = missing ∨
      ∃ id, wait.step input s = found id ∧ s.live? = some id := by
  fun_cases LinkWait.step wait input s with
  | case1 => exact .inr (.inl rfl)
  | case2 left id hl => exact .inr (.inr ⟨id, rfl, hl⟩)
  | case3 => exact .inr (.inl rfl)
  | case4 => exact .inl trivial
  | case5 => exact .inl trivial
  | case6 => exact .inr (.inl rfl)
  | case7 => exact .inl trivial
  | case8 => exact .inl ho

end LinkWait

namespace ReaderPhase

def afterReport (e : ClientError) : FatalReport → ReaderPhase
  | .waiting => reporting e .waiting
  | .granted => reporting e .granted
  | .delivered | .lost => stopped

inductive Step : ReaderPhase → Session → ReaderPhase → Session → Prop
  | stay (phase : ReaderPhase) (s : Session) : Step phase s phase s
  | lookStopped {f : Nat} {s : Session} (h : s.cancelled = true) : Step (looking f) s stopped s
  | found {f : Nat} {id : LinkId} {s : Session} (hc : s.cancelled = false)
      (hl : s.live? = some id) : Step (looking f) s (reading f id) s
  | lost {f : Nat} {s : Session} (hc : s.cancelled = false) (hl : s.live? = none) :
      Step (looking f) s (waiting f (.start s.config)) s
  | waited {f : Nat} {wait : LinkWait} {s : Session} (input : TaskInput) :
      Step (waiting f wait) s (waited f (wait.step input s)) s
  | unready {f : Nat} {id : LinkId} {s s' : Session} (h : s.readLink id = (none, s')) :
      Step (reading f id) s (reading f id) s'
  | event {f : Nat} {id : LinkId} {s s' : Session} {e : Event}
      (h : s.readLink id = (some (.ok (some e)), s')) :
      Step (reading f id) s (looking 0) (s'.accept e)
  | failedLast {f : Nat} {id : LinkId} {s s' : Session} {r : Reading} {e : ClientError}
      (h : s.readLink id = (some r, s')) (hr : r.failure? = some e)
      (hm : maxConsecutiveErrors ≤ f + 1) :
      Step (reading f id) s (tripping .storing) (s'.noteError e)
  | failed {f : Nat} {id : LinkId} {s s' : Session} {r : Reading} {e : ClientError}
      (h : s.readLink id = (some r, s')) (hr : r.failure? = some e)
      (hm : f + 1 < maxConsecutiveErrors) (he : s'.config.reconnectEnabled = true) :
      Step (reading f id) s (restoring (f + 1) (.start .reconnect)) (s'.noteError e)
  | failedForGood {f : Nat} {id : LinkId} {s s' : Session} {r : Reading} {e : ClientError}
      (h : s.readLink id = (some r, s')) (hr : r.failure? = some e)
      (hm : f + 1 < maxConsecutiveErrors) (he : s'.config.reconnectEnabled = false) :
      Step (reading f id) s stopped ((s'.noteError e).updateLink id Link.markDown)
  | readStopped {f : Nat} {id : LinkId} {s : Session} (h : s.cancelled = true) :
      Step (reading f id) s stopped s
  | restoring {f : Nat} {call call' : OwnerPhase} {s s' : Session} (h : call.Step s call' s') :
      Step (restoring f call) s (restoring f call') s'
  | restored {f : Nat} {result : Except ClientError Nat} {s : Session} :
      Step (restoring f (.ended result)) s (restored f result) s
  | shutting {call : ShutdownPhase} {s : Session} :
      Step (tripping call) s (tripping (call.step s).1) (call.step s).2
  | tripped {s : Session} :
      Step (tripping .done) s (submitting (.maxConsecutiveErrors maxConsecutiveErrors)) s
  | submitted {e : ClientError} {s : Session} {r : FatalReport} {errors : Mailbox ClientError}
      (h : FatalReport.start s.outputs.errors e = (r, errors)) :
      Step (submitting e) s (afterReport e r) (s.withErrors errors)
  | submitStopped {e : ClientError} {s : Session} (h : s.cancelled = true) :
      Step (submitting e) s stopped s
  | reported {e : ClientError} {s : Session} {r r' : FatalReport} {i : FatalReport.Input}
      {errors : Mailbox ClientError} (h : r.step i s.outputs.errors e = (r', errors))
      (hi : i = .cancelled → s.cancelled = true) :
      Step (reporting e r) s (afterReport e r') (s.withErrors errors)

theorem reported_eq (e : ClientError) (r : FatalReport) (errors : Mailbox ClientError)
    (s : Session) : reported e r errors s = (afterReport e r, s.withErrors errors) := by
  cases r <;> rfl

theorem step_look (f : Nat) (s : Session) : Step (looking f) s (look f s) s := by
  unfold look
  cases hc : s.cancelled with
  | true => exact .lookStopped hc
  | false =>
    cases hl : s.live? with
    | none => exact .lost hc hl
    | some id => exact .found hc hl

theorem step_failed {f : Nat} {id : LinkId} {s s' : Session} {r : Reading} {e : ClientError}
    (h : s.readLink id = (some r, s')) (hr : r.failure? = some e) :
    Step (reading f id) s (failed f id e s').1 (failed f id e s').2 := by
  unfold failed
  dsimp only
  split
  next hm => exact .failedLast h hr hm
  next hm =>
    rw [Nat.not_le] at hm
    split
    next he => exact .failed h hr hm he
    next he => exact .failedForGood h hr hm (Bool.not_eq_true _ ▸ he)

theorem step_read (f : Nat) (id : LinkId) (s : Session) :
    Step (reading f id) s (read f id s).1 (read f id s).2 := by
  unfold read
  rcases h : s.readLink id with ⟨_ | e | _ | e, s'⟩
  · exact .unready h
  · exact step_failed h rfl
  · exact step_failed h rfl
  · exact .event h

theorem step_reported {e : ClientError} {s : Session} {r r' : FatalReport}
    {i : FatalReport.Input} {errors : Mailbox ClientError}
    (h : r.step i s.outputs.errors e = (r', errors)) (hi : i = .cancelled → s.cancelled = true) :
    Step (reporting e r) s (reported e r' errors s).1 (reported e r' errors s).2 := by
  rw [reported_eq]
  exact .reported h hi

theorem step_kind (phase : ReaderPhase) (input : TaskInput) (s : Session) :
    Step phase s (phase.step input s).1 (phase.step input s).2 := by
  fun_cases ReaderPhase.step phase input s with
  | case1 f => exact step_look f s
  | case2 => exact .waited input
  | case3 f id => exact step_read f id s
  | case4 =>
    split
    next h => exact .readStopped h
    · exact .stay ..
  | case5 => exact .restored
  | case6 f call _ _ call' s' h =>
    have hk := call.step_kind input s
    rw [h] at hk
    exact .restoring hk
  | case7 => exact .tripped
  | case8 call _ call' s' h =>
    have hk : Step (tripping call) s _ _ := .shutting
    rw [h] at hk
    exact hk
  | case9 e r errors h =>
    rw [reported_eq]
    exact .submitted h
  | case10 =>
    split
    next h => exact .submitStopped h
    · exact .stay ..
  | case11 => exact .stay ..
  | case12 e r _ _ hc r' errors h => exact step_reported h fun _ => hc
  | case13 => exact .stay ..
  | case14 e r _ i hi _ r' errors h => exact step_reported h fun hi' => absurd hi' hi
  | case15 => exact .stay ..

end ReaderPhase
end OrderEntry

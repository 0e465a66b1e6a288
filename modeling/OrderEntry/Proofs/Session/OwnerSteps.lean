import OrderEntry.Session.Supervision

/-! All that one step of a connect or of a reconnect can do to a session, one constructor for each kind of
step. Properties of these calls follow by cases from here, without a look at the step function. -/

namespace OrderEntry

def Session.newLink (s : Session) (remote : String) : Link :=
  Link.opened s.config.transport s.config.wireFormat remote

def Purpose.opening : Purpose → OwnerPhase
  | connect => .dialing
  | reconnect => .unlinking

def Session.serve (s : Session) (p : Purpose) (attempt : Nat) : Session :=
  let s := { s with state := .connected }
  match p with
  | .connect => s
  | .reconnect =>
    let s := s.count .reconnects
    { s with outputs := s.outputs.announceReconnect attempt }

def Session.noteFailure (s : Session) (attempt : Nat) (cause : TransportError) : Session :=
  (s.count .errors).report (.reconnectFailed attempt cause)

theorem Session.exchange_cases (s : Session) (seen : Option ConnState) (next : ConnState) :
    (s.state = .closed ∧ s.exchange seen next = .refused) ∨
      s.state ≠ .closed ∧
        (s.exchange seen next = .seen s.state ∨
          s.exchange seen next = .moved { s with state := next }) := by
  unfold Session.exchange
  by_cases hc : s.state = .closed
  · exact .inl ⟨hc, if_pos hc⟩
  · rw [if_neg hc]
    refine .inr ⟨hc, ?_⟩
    by_cases hs : seen = some s.state
    · exact .inr (if_pos hs)
    · exact .inl (if_neg hs)

namespace OwnerPhase

inductive Step : OwnerPhase → Session → OwnerPhase → Session → Prop
  /-- The input is not what the phase waits for, or the state changed since it was looked at. -/
  | stay (phase : OwnerPhase) (s : Session) : Step phase s phase s
  | announceLooked {p : Purpose} {seen : Option ConnState} {s : Session} (h : s.state ≠ .closed) :
      Step (announcing p seen) s (announcing p (some s.state)) s
  | announceRefused {p : Purpose} {seen : Option ConnState} {s : Session} (h : s.state = .closed) :
      Step (announcing p seen) s (ended (.error .closed)) s
  | announced {p : Purpose} {seen : Option ConnState} {s : Session} (h : s.state ≠ .closed) :
      Step (announcing p seen) s p.opening { s with state := p.announced }
  | dialFailed {s : Session} (cause : TransportError) : Step dialing s (fallingBack cause none) s
  | dialed {s : Session} (remote : String) :
      Step dialing s (installing .connect 1 s.links.length) (s.addLink (s.newLink remote)).2
  | unlinked {s : Session} : Step unlinking s (closingOld s.slot) { s with slot := none }
  | oldClosed {old : Option LinkId} {s : Session} :
      Step (closingOld old) s (retrying (Retry.ofConfig s.config).start) (s.closeLink old)
  | delayOver {k : Nat} {d : Duration} {s : Session} :
      Step (retrying (.waiting k d)) s (retrying (.dialing k d)) s
  | redialFailed {k : Nat} {d : Duration} {s : Session} (cause : TransportError) :
      Step (retrying (.dialing k d)) s
        (retrying ((Retry.ofConfig s.config).after k ((Retry.ofConfig s.config).backoff.next d)))
        (s.noteFailure k cause)
  | redialed {k : Nat} {d : Duration} {s : Session} (remote : String) :
      Step (retrying (.dialing k d)) s (retrying (.ended (.connected k s.links.length)))
        (s.addLink (s.newLink remote)).2
  | retryCancelled {phase : RetryPhase LinkId} {s : Session} (h : s.cancelled = true) :
      Step (retrying phase) s (retrying (.ended .cancelled)) s
  | retryConnected {k : Nat} {id : LinkId} {s : Session} :
      Step (retrying (.ended (.connected k id))) s (installing .reconnect k id) s
  | retryStopped {s : Session} : Step (retrying (.ended .cancelled)) s (ended (.error .closed)) s
  | retryExhausted {s : Session} : Step (retrying (.ended .exhausted)) s (givingUp none) s
  | installed {p : Purpose} {k : Nat} {id : LinkId} {s : Session} :
      Step (installing p k id) s (closingReplaced p k s.slot) { s with slot := some id }
  | replacedClosed {p : Purpose} {k : Nat} {old : Option LinkId} {s : Session} :
      Step (closingReplaced p k old) s (confirming p k none) (s.closeLink old)
  | confirmLooked {p : Purpose} {k : Nat} {seen : Option ConnState} {s : Session}
      (h : s.state ≠ .closed) : Step (confirming p k seen) s (confirming p k (some s.state)) s
  | confirmRefused {p : Purpose} {k : Nat} {seen : Option ConnState} {s : Session}
      (h : s.state = .closed) : Step (confirming p k seen) s withdrawing s
  | confirmed {p : Purpose} {k : Nat} {seen : Option ConnState} {s : Session}
      (h : s.state ≠ .closed) : Step (confirming p k seen) s (ended (.ok k)) (s.serve p k)
  | withdrawn {s : Session} : Step withdrawing s (closingWithdrawn s.slot) { s with slot := none }
  | withdrawnClosed {taken : Option LinkId} {s : Session} :
      Step (closingWithdrawn taken) s (ended (.error .closed)) (s.closeLink taken)
  | fallBackLooked {cause : TransportError} {seen : Option ConnState} {s : Session}
      (h : s.state ≠ .closed) : Step (fallingBack cause seen) s (fallingBack cause (some s.state)) s
  | fallBackRefused {cause : TransportError} {seen : Option ConnState} {s : Session}
      (h : s.state = .closed) : Step (fallingBack cause seen) s (ended (.error (.transport cause))) s
  | fellBack {cause : TransportError} {seen : Option ConnState} {s : Session}
      (h : s.state ≠ .closed) :
      Step (fallingBack cause seen) s (ended (.error (.transport cause)))
        { s with state := .disconnected }
  | giveUpLooked {seen : Option ConnState} {s : Session} (h : s.state ≠ .closed) :
      Step (givingUp seen) s (givingUp (some s.state)) s
  | giveUpRefused {seen : Option ConnState} {s : Session} (h : s.state = .closed) :
      Step (givingUp seen) s (ended (.error (.maxReconnects s.config.maxReconnectAttempts))) s
  | gaveUp {seen : Option ConnState} {s : Session} (h : s.state ≠ .closed) :
      Step (givingUp seen) s (ended (.error (.maxReconnects s.config.maxReconnectAttempts)))
        { s with state := .closed }

theorem step_announce (p : Purpose) (seen : Option ConnState) (s : Session) :
    Step (announcing p seen) s (announce p seen s).1 (announce p seen s).2 := by
  unfold announce
  rcases s.exchange_cases seen p.announced with ⟨hc, he⟩ | ⟨hc, he | he⟩ <;> rw [he]
  · exact .announceRefused hc
  · exact .announceLooked hc
  · cases p <;> exact .announced hc

theorem step_dialed (outcome : DialOutcome) (s : Session) :
    Step dialing s (dialed outcome s).1 (dialed outcome s).2 := by
  cases outcome with
  | opened remote => exact .dialed remote
  | unresolved cause => exact .dialFailed _
  | failed cause => exact .dialFailed _
  | expired => exact .dialFailed _

theorem step_redialed (k : Nat) (d : Duration) (outcome : DialOutcome) (s : Session) :
    Step (retrying (.dialing k d)) s (redialed (.dialing k d) outcome s).1
      (redialed (.dialing k d) outcome s).2 := by
  cases outcome with
  | opened remote => exact .redialed remote
  | unresolved cause => exact .redialFailed _
  | failed cause => exact .redialFailed _
  | expired => exact .redialFailed _

theorem step_confirm (p : Purpose) (k : Nat) (seen : Option ConnState) (s : Session) :
    Step (confirming p k seen) s (confirm p k seen s).1 (confirm p k seen s).2 := by
  unfold confirm
  rcases s.exchange_cases seen .connected with ⟨hc, he⟩ | ⟨hc, he | he⟩ <;> rw [he]
  · exact .confirmRefused hc
  · exact .confirmLooked hc
  · cases p <;> exact .confirmed hc

theorem step_fallBack (cause : TransportError) (seen : Option ConnState) (s : Session) :
    Step (fallingBack cause seen) s (fallBack cause seen s).1 (fallBack cause seen s).2 := by
  unfold fallBack
  rcases s.exchange_cases seen .disconnected with ⟨hc, he⟩ | ⟨hc, he | he⟩ <;> rw [he]
  · exact .fallBackRefused hc
  · exact .fallBackLooked hc
  · exact .fellBack hc

theorem step_giveUp (seen : Option ConnState) (s : Session) :
    Step (givingUp seen) s (giveUp seen s).1 (giveUp seen s).2 := by
  unfold giveUp
  rcases s.exchange_cases seen .closed with ⟨hc, he⟩ | ⟨hc, he | he⟩ <;> rw [he]
  · exact .giveUpRefused hc
  · exact .giveUpLooked hc
  · exact .gaveUp hc

theorem step_cancelled (phase : RetryPhase LinkId) {s : Session} (h : s.cancelled = true) :
    Step (retrying phase) s (retried phase .cancelled s).1 (retried phase .cancelled s).2 := by
  cases phase with
  | waiting k d => exact .retryCancelled h
  | dialing k d => exact .retryCancelled h
  | ended outcome => exact .stay ..

theorem step_kind (phase : OwnerPhase) (input : TaskInput) (s : Session) :
    Step phase s (phase.step input s).1 (phase.step input s).2 := by
  fun_cases OwnerPhase.step phase input s with
  | case1 p seen => exact step_announce p seen s
  | case2 outcome => exact step_dialed outcome s
  | case3 old s' h =>
    cases h
    exact .unlinked
  | case4 => exact .oldClosed
  | case5 => exact .delayOver
  | case6 k d outcome => exact step_redialed k d outcome s
  | case7 => exact .retryConnected
  | case8 => exact .retryStopped
  | case9 => exact .retryExhausted
  | case10 phase hc => exact step_cancelled phase hc
  | case11 => exact .stay ..
  | case12 p k id old s' h =>
    cases h
    exact .installed
  | case13 => exact .replacedClosed
  | case14 p k seen => exact step_confirm p k seen s
  | case15 old s' h =>
    cases h
    exact .withdrawn
  | case16 => exact .withdrawnClosed
  | case17 cause seen => exact step_fallBack cause seen s
  | case18 seen => exact step_giveUp seen s
  | case19 => exact .stay ..

end OwnerPhase
end OrderEntry

import OrderEntry.Proofs.Session.Ownership

/-! How one call to reconnect goes, from its announcement to its return, while others may close the session or
find links broken. At every phase the failed attempts so far are counted and reported and nothing else has
been done to the counters and to the outputs; how the call ends depends on its attempts and on whether
the session was closed. -/

namespace OrderEntry

def failureReports (causes : List TransportError) : List ClientError :=
  (causes.zipIdx 1).map fun (cause, attempt) => .reconnectFailed attempt cause

theorem failureReports_concat (causes : List TransportError) (cause : TransportError) :
    failureReports (causes ++ [cause]) =
      failureReports causes ++ [.reconnectFailed (causes.length + 1) cause] := by
  unfold failureReports
  rw [List.zipIdx_append, List.map_append, Nat.add_comm]
  rfl

/-- After these failed attempts of a reconnect that began with the session `before`, and after the one that
opened a link, if it is there. -/
structure Session.Tried (before : Session) (causes : List TransportError) (opened : Option Link)
    (s : Session) : Prop where
  config : s.config = before.config
  counters : s.counters =
    { before.counters with errors := before.counters.errors + .ofNat causes.length }
  outputs : s.outputs = (failureReports causes).foldl Outputs.report before.outputs
  links : s.links.length = before.links.length + opened.toList.length
  link : ∀ l ∈ opened, s.link? before.links.length = some l ∨ s.isUp before.links.length = false
  state : s.state = .reconnecting ∨ s.state = .closed

/-- What others may do to the session while the call is under way. -/
structure Session.Outside (s s' : Session) : Prop where
  config : s'.config = s.config
  counters : s'.counters = s.counters
  outputs : s'.outputs = s.outputs
  links : s'.links.length = s.links.length
  link : ∀ id, s'.link? id = s.link? id ∨ s'.isUp id = false
  cancelled : s.cancelled = true → s'.cancelled = true
  state : s'.state = s.state ∧ s'.slot = s.slot ∨ s'.state = .closed

namespace Session

variable {before s s' s'' : Session} {causes : List TransportError}
  {opened : Option Link}

theorem Outside.refl (s : Session) : s.Outside s :=
  ⟨rfl, rfl, rfl, rfl, fun _ => .inl rfl, id, .inl ⟨rfl, rfl⟩⟩

theorem isUp_eq_false_of_link {id : LinkId} (h : s'.link? id = s.link? id ∨ s'.isUp id = false)
    (hd : s.isUp id = false) : s'.isUp id = false := by
  rcases h with he | hd'
  · unfold isUp at hd ⊢
    rwa [he]
  · exact hd'

theorem Outside.trans (h : s.Outside s') (h' : s'.Outside s'') : s.Outside s'' where
  config := h'.config.trans h.config
  counters := h'.counters.trans h.counters
  outputs := h'.outputs.trans h.outputs
  links := h'.links.trans h.links
  link := by
    intro id
    rcases h.link id with he | hd
    · rw [← he]
      exact h'.link id
    · exact .inr (isUp_eq_false_of_link (h'.link id) hd)
  cancelled := h'.cancelled ∘ h.cancelled
  state := by
    rcases h'.state with ⟨hst', hs'⟩ | hc'
    · rcases h.state with ⟨hst, hs⟩ | hc
      · exact .inl ⟨hst'.trans hst, hs'.trans hs⟩
      · exact .inr (hst'.trans hc)
    · exact .inr hc'

theorem Tried.outside (h : before.Tried causes opened s) (ho : s.Outside s') :
    before.Tried causes opened s' where
  config := ho.config.trans h.config
  counters := ho.counters.trans h.counters
  outputs := ho.outputs.trans h.outputs
  links := ho.links.trans h.links
  link := by
    intro l hl
    rcases h.link l hl with he | hd
    · rw [← he]
      exact ho.link _
    · exact .inr (isUp_eq_false_of_link (ho.link _) hd)
  state := ho.state.elim (fun hs => hs.1 ▸ h.state) .inr

theorem Tried.noteFailure (h : before.Tried causes opened s) (cause : TransportError) :
    before.Tried (causes ++ [cause]) opened (s.noteFailure (causes.length + 1) cause) where
  config := h.config
  counters := by
    change { s.counters with errors := s.counters.errors + 1 } = _
    rw [h.counters, List.length_append, List.length_singleton, UInt64.ofNat_add, ← UInt64.add_assoc]
    rfl
  outputs := by
    change s.outputs.report _ = _
    rw [h.outputs, failureReports_concat, List.foldl_append]
    rfl
  links := h.links
  link := h.link
  state := h.state

theorem outside_updateLink (s : Session) (id : LinkId) {f : Link → Link} (hf : ∀ l, (f l).up = false) :
    s.Outside (s.updateLink id f) where
  config := rfl
  counters := rfl
  outputs := rfl
  links := s.length_updateLink id f
  link := by
    intro id'
    rw [isUp, link?_updateLink]
    split
    · refine .inr ?_
      cases s.link? id' with
      | none => rfl
      | some l => exact hf l
    · exact .inl rfl
  cancelled := fun hc => hc
  state := .inl ⟨rfl, rfl⟩

theorem outside_closeLink (s : Session) (old : Option LinkId) : s.Outside (s.closeLink old) := by
  cases old with
  | none => exact .refl s
  | some id => exact s.outside_updateLink id fun _ => rfl

theorem tried_announced (h : before.Outside s) :
    before.Tried [] none { s with state := .reconnecting } where
  config := h.config
  counters := by
    change s.counters = _
    rw [h.counters]
    simp
  outputs := h.outputs
  links := h.links
  link := by
    intro l hl
    cases hl
  state := .inl rfl

end Session

namespace OwnerPhase

def attempt? (config : Config) : OwnerPhase → TaskInput → Option (Except TransportError Link)
  | retrying (.dialing ..), .dialed outcome => some (outcome.link config)
  | _, _ => none

/-- How far a reconnect has come that began with the session `before`, after these attempts. -/
inductive Course (before : Session) :
    List (Except TransportError Link) → OwnerPhase → Session → Prop
  | unlinking {s : Session} (h : before.Tried [] none s) : Course before [] unlinking s
  | closingOld {old : Option LinkId} {s : Session} (h : before.Tried [] none s) :
      Course before [] (closingOld old) s
  | waiting {causes : List TransportError} {d : Duration} {s : Session}
      (hk : causes.length < before.config.maxReconnectAttempts) (h : before.Tried causes none s) :
      Course before (causes.map .error) (retrying (.waiting (causes.length + 1) d)) s
  | dialing {causes : List TransportError} {d : Duration} {s : Session}
      (hk : causes.length < before.config.maxReconnectAttempts) (h : before.Tried causes none s) :
      Course before (causes.map .error) (retrying (.dialing (causes.length + 1) d)) s
  | stopped {causes : List TransportError} {s : Session}
      (hk : causes.length < before.config.maxReconnectAttempts) (hc : s.cancelled = true)
      (h : before.Tried causes none s) :
      Course before (causes.map .error) (retrying (.ended .cancelled)) s
  | exhausted {causes : List TransportError} {s : Session}
      (hk : causes.length = before.config.maxReconnectAttempts) (h : before.Tried causes none s) :
      Course before (causes.map .error) (retrying (.ended .exhausted)) s
  | givingUp {causes : List TransportError} {seen : Option ConnState} {s : Session}
      (hk : causes.length = before.config.maxReconnectAttempts) (h : before.Tried causes none s) :
      Course before (causes.map .error) (givingUp seen) s
  | opened {causes : List TransportError} {l : Link} {s : Session}
      (hk : causes.length < before.config.maxReconnectAttempts) (h : before.Tried causes (some l) s) :
      Course before (causes.map .error ++ [.ok l])
        (retrying (.ended (.connected (causes.length + 1) before.links.length))) s
  | installing {causes : List TransportError} {l : Link} {s : Session}
      (hk : causes.length < before.config.maxReconnectAttempts) (h : before.Tried causes (some l) s) :
      Course before (causes.map .error ++ [.ok l])
        (installing .reconnect (causes.length + 1) before.links.length) s
  | closingReplaced {causes : List TransportError} {l : Link} {old : Option LinkId} {s : Session}
      (hk : causes.length < before.config.maxReconnectAttempts) (h : before.Tried causes (some l) s)
      (hs : s.slot = some before.links.length ∨ s.state = .closed) :
      Course before (causes.map .error ++ [.ok l])
        (closingReplaced .reconnect (causes.length + 1) old) s
  | confirming {causes : List TransportError} {l : Link} {seen : Option ConnState} {s : Session}
      (hk : causes.length < before.config.maxReconnectAttempts) (h : before.Tried causes (some l) s)
      (hs : s.slot = some before.links.length ∨ s.state = .closed) :
      Course before (causes.map .error ++ [.ok l])
        (confirming .reconnect (causes.length + 1) seen) s
  | withdrawing {causes : List TransportError} {l : Link} {s : Session}
      (hk : causes.length < before.config.maxReconnectAttempts) (h : before.Tried causes (some l) s) :
      Course before (causes.map .error ++ [.ok l]) withdrawing s
  | closingWithdrawn {causes : List TransportError} {l : Link} {taken : Option LinkId} {s : Session}
      (hk : causes.length < before.config.maxReconnectAttempts) (h : before.Tried causes (some l) s)
      (hst : s.state = .closed) :
      Course before (causes.map .error ++ [.ok l]) (closingWithdrawn taken) s

inductive Left (before : Session) :
    List (Except TransportError Link) → Except ClientError Nat → Session → Prop
  | exhausted {causes : List TransportError} {s : Session}
      (hk : causes.length = before.config.maxReconnectAttempts) (h : before.Tried causes none s)
      (hst : s.state = .closed) (hs : s.slot = none) :
      Left before (causes.map .error) (.error (.maxReconnects before.config.maxReconnectAttempts)) s
  | cancelled {causes : List TransportError} {s : Session}
      (hk : causes.length < before.config.maxReconnectAttempts) (hc : s.cancelled = true)
      (h : before.Tried causes none s) (hs : s.slot = none) :
      Left before (causes.map .error) (.error .closed) s
  | connected {causes : List TransportError} {l : Link} {s : Session}
      (hk : causes.length < before.config.maxReconnectAttempts) (h : before.Tried causes (some l) s)
      (hst : s.state ≠ .closed) (hs : s.slot = some before.links.length) :
      Left before (causes.map .error ++ [.ok l]) (.ok (causes.length + 1))
        (s.serve .reconnect (causes.length + 1))
  | withdrawn {causes : List TransportError} {l : Link} {s : Session}
      (hk : causes.length < before.config.maxReconnectAttempts) (h : before.Tried causes (some l) s)
      (hst : s.state = .closed) (hs : s.slot = none) :
      Left before (causes.map .error ++ [.ok l]) (.error .closed) s

variable {before s s' : Session} {attempts : List (Except TransportError Link)} {call : OwnerPhase}

theorem Course.outside (h : Course before attempts call s) (ho : s.Outside s') :
    Course before attempts call s' := by
  cases h with
  | unlinking h => exact .unlinking (h.outside ho)
  | closingOld h => exact .closingOld (h.outside ho)
  | waiting hk h => exact .waiting hk (h.outside ho)
  | dialing hk h => exact .dialing hk (h.outside ho)
  | stopped hk hc h => exact .stopped hk (ho.cancelled hc) (h.outside ho)
  | exhausted hk h => exact .exhausted hk (h.outside ho)
  | givingUp hk h => exact .givingUp hk (h.outside ho)
  | opened hk h => exact .opened hk (h.outside ho)
  | installing hk h => exact .installing hk (h.outside ho)
  | closingReplaced hk h hs =>
    refine .closingReplaced hk (h.outside ho) ?_
    rcases ho.state with ⟨hst, hslot⟩ | hclosed
    · exact hst ▸ hslot ▸ hs
    · exact .inr hclosed
  | confirming hk h hs =>
    refine .confirming hk (h.outside ho) ?_
    rcases ho.state with ⟨hst, hslot⟩ | hclosed
    · exact hst ▸ hslot ▸ hs
    · exact .inr hclosed
  | withdrawing hk h => exact .withdrawing hk (h.outside ho)
  | closingWithdrawn hk h hst =>
    refine .closingWithdrawn hk (h.outside ho) ?_
    rcases ho.state with ⟨hst', _⟩ | hclosed
    · exact hst'.trans hst
    · exact hclosed

theorem Course.installs_new {p : Purpose} {k : Nat} {id : LinkId}
    (h : Course before attempts (OwnerPhase.installing p k id) s) :
    p = .reconnect ∧ id = before.links.length := by
  cases h
  exact ⟨rfl, rfl⟩

theorem Course.ne_ended (h : Course before attempts call s) (result : Except ClientError Nat) :
    call ≠ ended result := by
  cases h <;> exact nofun

def Advances (before : Session) (attempts : List (Except TransportError Link)) (s : Session)
    (call' : OwnerPhase) (s' : Session) : Prop :=
  Course before attempts call' s' ∧ s'.state = s.state ∨
    ∃ result, call' = ended result ∧ Left before attempts result s' ∧
      (result = .error .closed → s'.state = s.state)

theorem Course.advances (h : Course before attempts call s) (hsafe : call.Safe s)
    (hstep : call.Step s call' s') (hd : ∀ k d, call ≠ retrying (.dialing k d))
    (he : ∀ outcome, call = retrying (.ended outcome) → outcome = .cancelled) :
    Advances before attempts s call' s' := by
  cases h with
  | unlinking h =>
    refine .inl ?_
    cases hstep with
    | stay => exact ⟨.unlinking h, rfl⟩
    | unlinked => exact ⟨.closingOld ⟨h.config, h.counters, h.outputs, h.links, h.link, h.state⟩, rfl⟩
  | @closingOld old _ h =>
    refine .inl ?_
    cases hstep with
    | stay => exact ⟨.closingOld h, rfl⟩
    | oldClosed =>
      have ho := s.outside_closeLink old
      refine ⟨?_, by cases old <;> rfl⟩
      unfold Retry.start Retry.after
      rw [h.config]
      -- without any attempts allowed there is not even a first delay
      split
      next hn => exact @Course.waiting _ [] _ _ hn (h.outside ho)
      next hn => exact @Course.exhausted _ [] _ (Nat.eq_zero_of_not_pos hn).symm (h.outside ho)
  | waiting hk h =>
    refine .inl ?_
    cases hstep with
    | stay => exact ⟨.waiting hk h, rfl⟩
    | delayOver => exact ⟨.dialing hk h, rfl⟩
    | retryCancelled hc => exact ⟨.stopped hk hc h, rfl⟩
  | dialing hk h => exact absurd rfl (hd _ _)
  | stopped hk hc h =>
    cases hstep with
    | stay => exact .inl ⟨.stopped hk hc h, rfl⟩
    | retryCancelled => exact .inl ⟨.stopped hk hc h, rfl⟩
    | retryStopped => exact .inr ⟨_, rfl, .cancelled hk hc h hsafe, fun _ => rfl⟩
  | exhausted hk h => cases he _ rfl
  | givingUp hk h =>
    cases hstep with
    | stay => exact .inl ⟨.givingUp hk h, rfl⟩
    | giveUpLooked => exact .inl ⟨.givingUp hk h, rfl⟩
    | giveUpRefused hc =>
      have hleft := Left.exhausted hk h hc hsafe
      rw [← h.config] at hleft
      exact .inr ⟨_, rfl, hleft, nofun⟩
    | gaveUp =>
      have hclosed : before.Tried _ none { s with state := .closed } :=
        ⟨h.config, h.counters, h.outputs, h.links, h.link, .inr rfl⟩
      have hleft := Left.exhausted hk hclosed rfl hsafe
      rw [← h.config] at hleft
      exact .inr ⟨_, rfl, hleft, nofun⟩
  | opened hk h => cases he _ rfl
  | installing hk h =>
    refine .inl ?_
    cases hstep with
    | stay => exact ⟨.installing hk h, rfl⟩
    | installed =>
      exact ⟨.closingReplaced hk ⟨h.config, h.counters, h.outputs, h.links, h.link, h.state⟩ (.inl rfl), rfl⟩
  | @closingReplaced _ _ old _ hk h hs =>
    refine .inl ?_
    cases hstep with
    | stay => exact ⟨.closingReplaced hk h hs, rfl⟩
    | replacedClosed =>
      refine ⟨.confirming hk (h.outside (s.outside_closeLink old)) ?_, by cases old <;> rfl⟩
      cases old <;> exact hs
  | confirming hk h hs =>
    cases hstep with
    | stay => exact .inl ⟨.confirming hk h hs, rfl⟩
    | confirmLooked => exact .inl ⟨.confirming hk h hs, rfl⟩
    | confirmRefused => exact .inl ⟨.withdrawing hk h, rfl⟩
    | confirmed hn => exact .inr ⟨_, rfl, .connected hk h hn (hs.resolve_right hn), nofun⟩
  | withdrawing hk h =>
    refine .inl ?_
    cases hstep with
    | stay => exact ⟨.withdrawing hk h, rfl⟩
    | withdrawn =>
      exact ⟨.closingWithdrawn hk ⟨h.config, h.counters, h.outputs, h.links, h.link, h.state⟩ hsafe, rfl⟩
  | @closingWithdrawn _ _ taken _ hk h hst =>
    cases hstep with
    | stay => exact .inl ⟨.closingWithdrawn hk h hst, rfl⟩
    | withdrawnClosed =>
      refine .inr ⟨_, rfl, ?_, fun _ => by cases taken <;> rfl⟩
      refine .withdrawn hk (h.outside (s.outside_closeLink taken)) ?_ ?_
      · cases taken <;> exact hst
      · exact (s.slot_closeLink taken).trans hsafe

theorem step_retryEnded (outcome : RetryOutcome LinkId) {input : TaskInput} (hi : input ≠ .proceed)
    (s : Session) : (retrying (.ended outcome)).step input s = (retrying (.ended outcome), s) := by
  cases input with
  | proceed => exact absurd rfl hi
  | cancelled =>
    have hstep : (retrying (.ended outcome)).step .cancelled s =
        if s.cancelled then retried (.ended outcome) .cancelled s
        else (retrying (.ended outcome), s) := by
      cases outcome <;> rfl
    rw [hstep]
    split
    · cases outcome <;> rfl
    · rfl
  | elapsed | dialed | sent => cases outcome <;> rfl

theorem Course.dialed {causes : List TransportError} {d : Duration}
    (hk : causes.length < before.config.maxReconnectAttempts) (h : before.Tried causes none s)
    (outcome : DialOutcome) :
    Course before (causes.map .error ++ [outcome.link s.config])
        (redialed (.dialing (causes.length + 1) d) outcome s).1
        (redialed (.dialing (causes.length + 1) d) outcome s).2 ∧
      (redialed (.dialing (causes.length + 1) d) outcome s).2.state = s.state := by
  unfold redialed
  cases outcome.link s.config with
  | ok l =>
    refine ⟨?_, rfl⟩
    change Course before _ (retrying (.ended (.connected _ s.links.length))) _
    rw [h.links]
    have hlinks : s.links.length = before.links.length := h.links
    have hlink : (s.addLink l).2.link? before.links.length = some l := by
      rw [← hlinks, Session.link?_addLink, if_pos rfl]
    have hlength : (s.addLink l).2.links.length = before.links.length + 1 := by
      rw [s.length_addLink, hlinks]
    refine .opened hk ⟨h.config, h.counters, h.outputs, hlength, fun l' hl => ?_, h.state⟩
    cases hl
    exact .inl hlink
  | error cause =>
    refine ⟨?_, rfl⟩
    have hnoted := h.noteFailure cause
    have hlength : (causes ++ [cause]).length = causes.length + 1 := by
      rw [List.length_append, List.length_singleton]
    have hmap : causes.map (Except.error (α := Link)) ++ [.error cause] = (causes ++ [cause]).map .error := by
      rw [List.map_append]
      rfl
    change Course before _ (retrying ((Retry.ofConfig s.config).after (causes.length + 1) _))
      (s.noteFailure (causes.length + 1) cause)
    rw [hmap]
    unfold Retry.after
    rw [h.config]
    split
    next hn =>
      change causes.length + 1 < before.config.maxReconnectAttempts at hn
      have hwaiting := @Course.waiting before (causes ++ [cause])
        ((Retry.ofConfig before.config).backoff.next d) _ (by omega) hnoted
      rwa [hlength] at hwaiting
    next hn =>
      change ¬causes.length + 1 < before.config.maxReconnectAttempts at hn
      exact .exhausted (by omega) hnoted

theorem attempt?_eq_none {config : Config} {input : TaskInput}
    (hd : ∀ k d, call ≠ retrying (.dialing k d)) : call.attempt? config input = none := by
  unfold attempt?
  split
  · exact absurd rfl (hd _ _)
  · rfl

theorem Course.step (h : Course before attempts call s) (hsafe : call.Safe s) (input : TaskInput) :
    Advances before (attempts ++ (call.attempt? s.config input).toList) s (call.step input s).1
      (call.step input s).2 := by
  have hnone : call.attempt? s.config input = none →
      Advances before attempts s (call.step input s).1 (call.step input s).2 →
      Advances before (attempts ++ (call.attempt? s.config input).toList) s (call.step input s).1
        (call.step input s).2 := by
    intro hn ha
    rwa [hn, Option.toList_none, List.append_nil]
  have hplain : (∀ k d, call ≠ retrying (.dialing k d)) →
      (∀ outcome, call = retrying (.ended outcome) → outcome = .cancelled) →
      Advances before (attempts ++ (call.attempt? s.config input).toList) s (call.step input s).1
        (call.step input s).2 :=
    fun hd he => hnone (attempt?_eq_none hd) (h.advances hsafe (call.step_kind input s) hd he)
  have hstay : call.step input s = (call, s) →
      Advances before attempts s (call.step input s).1 (call.step input s).2 := by
    intro hs
    rw [hs]
    exact .inl ⟨h, rfl⟩
  cases h with
  | @dialing causes d _ hk h =>
    cases input with
    | dialed outcome => exact .inl (Course.dialed hk h outcome)
    | cancelled =>
      refine hnone rfl ?_
      by_cases hc : s.cancelled = true
      · have hs : (retrying (.dialing (causes.length + 1) d)).step .cancelled s =
            (retrying (.ended .cancelled), s) := if_pos hc
        rw [hs]
        exact .inl ⟨.stopped hk hc h, rfl⟩
      · exact hstay (if_neg hc)
    | proceed | elapsed | sent => exact hnone rfl (hstay rfl)
  | exhausted hk h =>
    refine hnone (attempt?_eq_none nofun) ?_
    by_cases hi : input = .proceed
    · rw [hi]
      exact .inl ⟨.givingUp hk h, rfl⟩
    · exact hstay (step_retryEnded _ hi s)
  | opened hk h =>
    refine hnone (attempt?_eq_none nofun) ?_
    by_cases hi : input = .proceed
    · rw [hi]
      exact .inl ⟨.installing hk h, rfl⟩
    · exact hstay (step_retryEnded _ hi s)
  | stopped =>
    refine hplain nofun ?_
    intro outcome he
    cases he
    rfl
  | unlinking | closingOld | waiting | givingUp | installing | closingReplaced | confirming | withdrawing
  | closingWithdrawn => exact hplain nofun nofun

end OwnerPhase

end OrderEntry

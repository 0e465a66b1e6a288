import OrderEntry.Proofs.FanOut
import OrderEntry.Proofs.Session.ReconnectRun

/-! What a call to reconnect returns and what it leaves behind, and that it does return. -/

namespace OrderEntry

namespace Outputs

theorem queue_reports (errors : List ClientError) (o : Outputs) (ch : Channel) :
    (errors.foldl report o).queue ch =
      if ch = .errors then errors.foldl (fun q e => q.offer (.error e)) (o.queue .errors)
      else o.queue ch := by
  induction errors generalizing o with
  | nil =>
    split
    next h => rw [h]; rfl
    next => rfl
  | cons e errors ih =>
    rw [List.foldl_cons, List.foldl_cons, ih, queue_report, queue_report, if_pos rfl]
    split <;> rfl

theorem queue_announceReconnect (o : Outputs) (attempt : Nat) (ch : Channel) :
    (o.announceReconnect attempt).queue ch =
      if ch = .reconnects then (o.queue .reconnects).offer (.reconnected attempt)
      else o.queue ch := by
  cases ch with
  | reconnects => exact Mailbox.queue_offerOrDrop ..
  | acks | trades | bookUpdates | cancelAcks | errors => rfl

end Outputs

namespace Session

/-- Failed attempts are counted and reported in order, and so is the success that may follow. A report is lost
only where it finds no room. -/
structure Reported (before : Session) (causes : List TransportError) (successes : List Nat)
    (s : Session) : Prop where
  counters : s.counters =
    { before.counters with
      errors := before.counters.errors + .ofNat causes.length
      reconnects := before.counters.reconnects + .ofNat successes.length }
  errors : s.outputs.queue .errors =
    (failureReports causes).foldl (fun q e => q.offer (.error e)) (before.outputs.queue .errors)
  reconnects : s.outputs.queue .reconnects =
    successes.foldl (fun q k => q.offer (.reconnected k)) (before.outputs.queue .reconnects)
  others : ∀ ch, ch ≠ .errors → ch ≠ .reconnects → s.outputs.queue ch = before.outputs.queue ch

variable {before s : Session} {causes : List TransportError} {opened : Option Link}

theorem Tried.reported (h : before.Tried causes opened s) : before.Reported causes [] s where
  counters := by
    rw [h.counters]
    simp
  errors := by rw [h.outputs, Outputs.queue_reports, if_pos rfl]
  reconnects := by
    rw [h.outputs, Outputs.queue_reports, if_neg nofun]
    rfl
  others := by
    intro ch he _
    rw [h.outputs, Outputs.queue_reports, if_neg he]

theorem Tried.reported_serve (h : before.Tried causes opened s) (attempt : Nat) :
    before.Reported causes [attempt] (s.serve .reconnect attempt) where
  counters := by
    change { s.counters with reconnects := s.counters.reconnects + 1 } = _
    rw [h.counters]
    rfl
  errors := by
    change (s.outputs.announceReconnect attempt).queue .errors = _
    rw [Outputs.queue_announceReconnect, if_neg nofun]
    exact h.reported.errors
  reconnects := by
    change (s.outputs.announceReconnect attempt).queue .reconnects = _
    rw [Outputs.queue_announceReconnect, if_pos rfl, h.reported.reconnects]
    rfl
  others := by
    intro ch he hr
    change (s.outputs.announceReconnect attempt).queue ch = _
    rw [Outputs.queue_announceReconnect, if_neg hr]
    exact h.reported.others ch he hr

end Session

namespace Supervisor

variable {s : Supervisor} {turns : List Turn}

/-! ### The return -/

variable {input : TaskInput} {result : Except ClientError Nat}

inductive Returned (s : Supervisor) (turns : List Turn) : Except ClientError Nat → Prop
  | refused (hn : ¬s.Announces turns)
      (hclosed : s.session.state = .closed ∨ (s.run turns).ShutBegun)
      (hattempts : s.attempts turns = [])
      (hsame : (s.run turns).session = (s.run (turns.filter Turn.isOther)).session)
      (hslot : (s.run turns).session.slot = none ∨ .taking ∈ (s.run turns).shutdowns) :
      Returned s turns (.error .closed)
  | connected {causes : List TransportError} {l : Link} (ha : s.Announces turns)
      (hopen : ¬(s.run turns).ShutBegun)
      (hattempts : s.attempts turns = causes.map .error ++ [.ok l])
      (hk : causes.length < s.session.config.maxReconnectAttempts)
      (hreported : s.session.Reported causes [causes.length + 1] (s.run turns).session)
      (hstate : (s.run turns).session.state = .connected)
      (hslot : (s.run turns).session.slot = some s.session.links.length)
      (hlink : (s.run turns).session.link? s.session.links.length = some l ∨
        (s.run turns).session.isUp s.session.links.length = false) :
      Returned s turns (.ok (causes.length + 1))
  | exhausted {causes : List TransportError} (ha : s.Announces turns)
      (hattempts : s.attempts turns = causes.map .error)
      (hk : causes.length = s.session.config.maxReconnectAttempts)
      (hreported : s.session.Reported causes [] (s.run turns).session)
      (hstate : (s.run turns).session.state = .closed)
      (hslot : (s.run turns).session.slot = none) :
      Returned s turns (.error (.maxReconnects s.session.config.maxReconnectAttempts))
  | cancelled {causes : List TransportError} (ha : s.Announces turns)
      (hcancelled : (s.run turns).session.cancelled = true)
      (hattempts : s.attempts turns = causes.map .error)
      (hk : causes.length < s.session.config.maxReconnectAttempts)
      (hreported : s.session.Reported causes [] (s.run turns).session)
      (hstate : ¬(s.run turns).ShutBegun → (s.run turns).session.state = .reconnecting)
      (hslot : (s.run turns).session.slot = none) : Returned s turns (.error .closed)
  | withdrawn {causes : List TransportError} {l : Link} (ha : s.Announces turns)
      (hshut : (s.run turns).ShutBegun)
      (hattempts : s.attempts turns = causes.map .error ++ [.ok l])
      (hk : causes.length < s.session.config.maxReconnectAttempts)
      (hreported : s.session.Reported causes [] (s.run turns).session)
      (hslot : (s.run turns).session.slot = none)
      (hlink : (s.run turns).session.isUp s.session.links.length = false ∨
        .closing (some s.session.links.length) ∈ (s.run turns).shutdowns) :
      Returned s turns (.error .closed)

theorem owner_of_pending (hs : s.Sound) (ho : s.owner = some (.start .reconnect))
    (hp : s.Pending turns) : ∃ call, (s.run turns).owner = some call := by
  by_cases ha : s.Announces turns
  · obtain ⟨call, howner, _⟩ := (underway hs ho hp ha).course
    exact ⟨call, howner⟩
  · obtain ⟨seen, howner⟩ := (unannounced hs ho hp ha).owner
    exact ⟨_, howner⟩

theorem Unannounced.returned (h : s.Unannounced turns) (hs : s.Sound)
    (ha : ¬s.Announces (turns ++ [.owner input]))
    (hend : (s.run (turns ++ [.owner input])).owner = some (.ended result)) :
    s.Returned (turns ++ [.owner input]) result := by
  have hrun : s.run (turns ++ [.owner input]) = (s.run turns).step (.owner input) := run_concat
  obtain ⟨seen, howner⟩ := h.owner
  obtain ⟨howner', hsession, _⟩ := step_owner howner input
  rw [← hrun, hend] at howner'
  -- to be refused is the only way to return from here
  rcases step_announcing seen input (s.run turns).session with
    ⟨seen', hstep⟩ | ⟨hc, hstep⟩ | ⟨_, hstep⟩
  · rw [hstep] at howner'
    cases howner'
  · rw [hstep] at howner' hsession
    cases howner'
    have hfilter : (turns ++ [Turn.owner input]).filter Turn.isOther = turns.filter Turn.isOther :=
      filter_concat_of_not_isOther rfl
    have hpost := hs.run (turns ++ [.owner input])
    have hclosed : (s.run (turns ++ [.owner input])).session.state = .closed := by
      rw [hrun, hsession]
      exact hc
    have hbegun : s.session.state = .closed ∨ (s.run (turns ++ [.owner input])).ShutBegun := by
      rw [hrun]
      exact (h.closed hc).imp_right fun hb => hb.step _
    refine .refused ha hbegun ?_ ?_ ?_
    · rw [attempts_concat, attempt?_owner howner, h.attempts]
      rfl
    · rw [hfilter, hrun, hsession, h.session]
    · rcases hpost.closed hclosed with hslot | htaking | ⟨call, hcall, hw⟩
      · exact .inl hslot
      · exact .inr htaking
      · rw [hend] at hcall
        cases hcall
        cases hw
  · rw [hstep] at howner'
    cases howner'

theorem Underway.returned (h : s.Underway turns) (hs : s.Sound)
    (ha : s.Announces (turns ++ [.owner input]))
    (hend : (s.run (turns ++ [.owner input])).owner = some (.ended result)) :
    s.Returned (turns ++ [.owner input]) result := by
  have hrun : s.run (turns ++ [.owner input]) = (s.run turns).step (.owner input) := run_concat
  have hpost := hs.run (turns ++ [.owner input])
  obtain ⟨call, howner, hcourse⟩ := h.course
  obtain ⟨howner', hsession, _⟩ := step_owner howner input
  have hattempts : s.attempts (turns ++ [.owner input]) =
      s.attempts turns ++ (call.attempt? (s.run turns).session.config input).toList := by
    rw [attempts_concat, attempt?_owner howner]
  rw [← hrun, hend, Option.some.injEq] at howner'
  rcases hcourse.step ((hs.run turns).safe call howner) input with
    ⟨hcourse', _⟩ | ⟨result', hresult, hleft, hstate⟩
  · exact absurd howner'.symm (hcourse'.ne_ended result)
  · rw [hresult, OwnerPhase.ended.injEq] at howner'
    rw [← hattempts, ← hsession, ← hrun, ← howner'] at hleft
    rw [← hsession, ← hrun, ← howner'] at hstate
    have hshut : result = .error .closed → (s.run (turns ++ [.owner input])).session.state = .closed →
        (s.run (turns ++ [.owner input])).ShutBegun := by
      intro hr hc
      have hbegun := h.closed (hstate hr ▸ hc)
      rw [hrun]
      exact hbegun.step _
    generalize hat : s.attempts (turns ++ [.owner input]) = attempts at hleft
    generalize hse : (s.run (turns ++ [.owner input])).session = session at hleft
    cases hleft with
    | exhausted hk ht hst hslot =>
      subst hse
      exact .exhausted ha hat hk ht.reported hst hslot
    | cancelled hk hc ht hslot =>
      subst hse
      refine .cancelled ha hc hat hk ht.reported ?_ hslot
      intro hn
      exact ht.state.resolve_right fun hst => hn (hshut rfl hst)
    | @connected causes l s' hk ht hst hslot =>
      have hstate : (s.run (turns ++ [.owner input])).session.state = .connected := by
        rw [hse]
        rfl
      refine .connected ha ?_ hat hk ?_ hstate ?_ ?_
      · -- a shutdown that has begun has closed the session for good
        rintro ⟨call, hmem, hne⟩
        cases hstate.symm.trans (hpost.begun call hmem hne)
      · rw [hse]
        exact ht.reported_serve _
      · rw [hse]
        exact hslot
      · rw [hse]
        exact ht.link l rfl
    | withdrawn hk ht hst hslot =>
      subst hse
      refine .withdrawn ha (hshut rfl hst) hat hk ht.reported hslot ?_
      -- the new link was in the slot, and whoever took it out of there marks it down
      have hplaced := hcourse.placed (call.step_kind input _) (hresult.trans (howner' ▸ rfl))
        (hattempts.symm.trans hat)
      have hmem := installed_step _ (.owner input) (h.placed call howner hplaced)
      rw [← hrun] at hmem
      rcases hpost.released _ hmem with hs | hd | ⟨call', hcall', hcl⟩ | ⟨call', hcall', hcl⟩
      · cases hslot.symm.trans hs
      · exact .inl hd
      · rw [hend] at hcall'
        cases hcall'
        cases hcl
      · cases call' with
        | closing taken =>
          cases hcl
          exact .inr hcall'
        | storing | taking | done => cases hcl

theorem returned (hs : s.Sound) (ho : s.owner = some (.start .reconnect)) {last : Turn}
    (hp : s.Pending turns) (hend : (s.run (turns ++ [last])).owner = some (.ended result)) :
    s.Returned (turns ++ [last]) result := by
  have hrun : s.run (turns ++ [last]) = (s.run turns).step last := run_concat
  have hkept : ((s.run turns).step last).owner ≠ (s.run turns).owner := by
    rw [← hrun, hend]
    exact (hp.owner_ne result).symm
  have hannounces : s.Announces (turns ++ [last]) ↔ s.Announces turns := by
    rw [announces_concat, hend]
    exact or_iff_left nofun
  cases last with
  | shutdown | shutting | cancel | lose => exact absurd ((hs.run turns).outside rfl).1 hkept
  | call p =>
    obtain ⟨call, howner⟩ := owner_of_pending hs ho hp
    have hcall : (s.run turns).step (.call p) = s.run turns :=
      call_busy howner (fun result he => hp.owner_ne result (he ▸ howner)) p
    exact absurd (congrArg Supervisor.owner hcall) hkept
  | owner input =>
    by_cases ha : s.Announces turns
    · exact (underway hs ho hp ha).returned hs (hannounces.mpr ha) hend
    · exact (unannounced hs ho hp ha).returned hs (hannounces.not.mpr ha) hend

/-! ### The whole call -/

theorem step_withInstalled (installed : List LinkId) (turn : Turn) :
    ∃ installed', ({ s with installed }).step turn = { s.step turn with installed := installed' } ∧
      installed ⊆ installed' := by
  cases turn with
  | call p =>
    refine ⟨installed, ?_, List.Subset.refl _⟩
    change Supervisor.call { s with installed } p = { s.call p with installed }
    unfold Supervisor.call
    have hidle : isIdle { s with installed } = s.isIdle := rfl
    rw [hidle]
    split <;> rfl
  | owner input =>
    cases ho : s.owner with
    | none =>
      refine ⟨installed, ?_, List.Subset.refl _⟩
      simp only [step, stepOwner, ho]
    | some call =>
      refine ⟨installed ++ (s.session.installed? (call.step input s.session).2).toList, ?_,
        List.subset_append_left ..⟩
      simp only [step, stepOwner, ho]
  | shutting i =>
    refine ⟨installed, ?_, List.Subset.refl _⟩
    change stepShutdown { s with installed } i = { s.stepShutdown i with installed }
    unfold stepShutdown
    dsimp only
    split <;> rfl
  | shutdown | cancel | lose => exact ⟨installed, rfl, List.Subset.refl _⟩

theorem run_withInstalled (installed : List LinkId) (turns : List Turn) :
    ∃ installed', ({ s with installed }).run turns = { s.run turns with installed := installed' } ∧
      installed ⊆ installed' := by
  induction turns generalizing s installed with
  | nil => exact ⟨installed, rfl, List.Subset.refl _⟩
  | cons turn turns ih =>
    obtain ⟨next, hnext, hsub⟩ := step_withInstalled (s := s) installed turn
    obtain ⟨last, hlast, hsub'⟩ := ih (s := s.step turn) next
    refine ⟨last, ?_, List.Subset.trans hsub hsub'⟩
    change (Supervisor.step { s with installed } turn).run turns =
      { (s.step turn).run turns with installed := last }
    rw [hnext, hlast]

theorem released_run (hs : s.Sound) {id : LinkId} {l : Link} (hslot : s.session.slot = some id)
    (hl : s.session.link? id = some l) (turns : List Turn) :
    (s.run turns).session.slot = some id ∨ (s.run turns).session.isUp id = false ∨
      (s.run turns).Closes id := by
  have hlt : id < s.session.links.length := (List.getElem?_eq_some_iff.mp hl).1
  have hs' : Sound { s with installed := id :: s.installed } := by
    refine { hs with opened := ?_, released := ?_ }
    · intro id' hid
      rcases List.mem_cons.mp hid with rfl | hid
      · exact hlt
      · exact hs.opened id' hid
    · intro id' hid
      rcases List.mem_cons.mp hid with rfl | hid
      · exact .inl hslot
      · exact hs.released id' hid
  obtain ⟨installed, hrun, hsub⟩ := run_withInstalled (s := s) (id :: s.installed) turns
  have hreleased := (hs'.run turns).released id
  rw [hrun] at hreleased
  exact hreleased (hsub List.mem_cons_self)

theorem replaced_run (hs : s.Sound) {phase : RetryPhase LinkId}
    (ho : (s.run turns).owner = some (.retrying phase)) :
    (s.run turns).session.slot = none ∧
      ∀ id l, s.session.slot = some id → s.session.link? id = some l →
        (s.run turns).session.isUp id = false ∨ .closing (some id) ∈ (s.run turns).shutdowns := by
  have hnone : (s.run turns).session.slot = none := (hs.run turns).safe _ ho
  refine ⟨hnone, ?_⟩
  intro id l hslot hl
  rcases released_run hs hslot hl turns with hs' | hd | ⟨call, hcall, hcl⟩ | ⟨call, hcall, hcl⟩
  · cases hnone.symm.trans hs'
  · exact .inl hd
  · rw [ho] at hcall
    cases hcall
    cases hcl
  · cases call with
    | closing taken =>
      cases hcl
      exact .inr hcall
    | storing | taking | done => cases hcl

theorem not_announces_of_closed (hs : s.Sound) (ho : s.owner = some (.start .reconnect))
    (hc : s.session.state = .closed) (hp : s.Pending turns) : ¬s.Announces turns := by
  induction turns using List.reverseRecOn with
  | nil =>
    rintro ⟨before, hb, howner⟩
    rw [List.prefix_nil.mp hb] at howner
    cases ho.symm.trans howner
  | append_singleton turns turn ih =>
    intro ha
    have hn := ih hp.before
    have hunlinking := (announces_concat.mp ha).resolve_left hn
    have hopen := ((unannounced hs ho hp.before hn).announced hs hunlinking).1
    exact hopen (closed_run hs hc turns)

theorem returned_of_closed (hs : s.Sound) (ho : s.owner = some (.start .reconnect))
    (hc : s.session.state = .closed) {last : Turn} (hp : s.Pending turns)
    (hend : (s.run (turns ++ [last])).owner = some (.ended result)) :
    result = .error .closed ∧
      (s.run (turns ++ [last])).session =
        (s.run ((turns ++ [last]).filter Turn.isOther)).session := by
  have hn : ¬s.Announces (turns ++ [last]) := by
    rw [announces_concat, hend]
    exact not_or.mpr ⟨not_announces_of_closed hs ho hc hp, nofun⟩
  cases returned hs ho hp hend with
  | refused _ _ _ hsame => exact ⟨rfl, hsame⟩
  | connected ha | exhausted ha | cancelled ha | withdrawn ha => exact absurd ha hn

/-- A call to reconnect returns once it has got its answers, and what it returns fits what it leaves behind,
whatever others do in the meantime. In a closed session it does nothing. Before its first attempt the
old link is out of the slot, and down unless a shutdown is just about to take it down. -/
theorem reconnect_decided (s : Supervisor) (hs : s.Sound) (hidle : s.isIdle = true) :
    (∀ turns, 2 * s.session.config.maxReconnectAttempts + 13 ≤ (s.call .reconnect).answers turns →
      ¬(s.call .reconnect).Pending turns) ∧
    (∀ turns last result, (s.call .reconnect).Pending turns →
      ((s.call .reconnect).run (turns ++ [last])).owner = some (.ended result) →
        (s.call .reconnect).Returned (turns ++ [last]) result) ∧
    (s.session.state = .closed → ∀ turns last result, (s.call .reconnect).Pending turns →
      ((s.call .reconnect).run (turns ++ [last])).owner = some (.ended result) →
        result = .error .closed ∧ ((s.call .reconnect).run (turns ++ [last])).session =
          ((s.call .reconnect).run ((turns ++ [last]).filter Turn.isOther)).session) ∧
    ∀ turns phase, ((s.call .reconnect).run turns).owner = some (.retrying phase) →
      ((s.call .reconnect).run turns).session.slot = none ∧
        ∀ id l, s.session.slot = some id → s.session.link? id = some l →
          ((s.call .reconnect).run turns).session.isUp id = false ∨
            .closing (some id) ∈ ((s.call .reconnect).run turns).shutdowns := by
  have hcall : s.call .reconnect = { s with owner := some (.start .reconnect) } := if_pos hidle
  have hs' := hs.call .reconnect
  rw [hcall] at hs' ⊢
  refine ⟨?_, ?_, ?_, ?_⟩
  · intro turns hlen hp
    have hstart := OwnerPhase.length_start s.session .reconnect
    obtain ⟨before, hb, result, hend⟩ := ended_of_answers hs' rfl (Nat.le_trans hstart hlen)
    exact hp before hb result hend
  · intro turns last result hp hend
    exact returned hs' rfl hp hend
  · intro hc turns last result hp hend
    exact returned_of_closed hs' rfl hc hp hend
  · intro turns phase ho
    exact replaced_run hs' ho

def twoAttempts : Config := { protocol := .line, maxReconnectAttempts := 2 }

def secondAttempt : List Turn :=
  [.owner .proceed, .owner .proceed, .owner .proceed, .owner .proceed, .owner .elapsed,
    .owner (.dialed (.failed "refused")), .owner .elapsed, .owner (.dialed (.opened "peer")),
    .owner .proceed, .owner .proceed, .owner .proceed, .owner .proceed]

theorem pending_secondAttempt : ((new twoAttempts).call .reconnect).Pending secondAttempt := by
  intro before hb result hend
  have hbusy : ∀ k < 13,
      (((new twoAttempts).call .reconnect).run (secondAttempt.take k)).isIdle = false := by
    decide
  have hlen : before.length < 13 := Nat.lt_succ_of_le hb.length_le
  have hk := hbusy before.length hlen
  rw [← List.prefix_iff_eq_take.mp hb] at hk
  unfold isIdle at hk
  rw [hend] at hk
  cases hk

theorem reconnected_at_second_attempt :
    ((new twoAttempts).Sound ∧ (new twoAttempts).isIdle = true) ∧
      ((new twoAttempts).call .reconnect).Returned (secondAttempt ++ [.owner .proceed]) (.ok 2) := by
  have hs : (new twoAttempts).Sound := sound_new twoAttempts
  have hidle : (new twoAttempts).isIdle = true := rfl
  have hend : (((new twoAttempts).call .reconnect).run (secondAttempt ++ [.owner .proceed])).owner =
      some (.ended (.ok 2)) := rfl
  have hreturn := (reconnect_decided (new twoAttempts) hs hidle).2.1
  exact ⟨⟨hs, hidle⟩, hreturn secondAttempt _ _ pending_secondAttempt hend⟩

end Supervisor
end OrderEntry

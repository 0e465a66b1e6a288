import Mathlib.Data.List.Induction
import OrderEntry.Proofs.Session.CallLength
import OrderEntry.Proofs.Session.ReconnectCourse

/-! A call to reconnect turn by turn, as long as it has not returned, while others may shut the session down,
tell it to stop and find links broken. Before its announcement the call has changed nothing; from then on it
is somewhere on its course. -/

namespace OrderEntry

def Turn.isOther : Turn → Bool
  | call _ | owner _ => false
  | _ => true

namespace Supervisor

/-- Some shutdown has gone beyond its first phase, which closes the session. -/
def ShutBegun (s : Supervisor) : Prop := ∃ call ∈ s.shutdowns, call ≠ .storing

def attempt? (s : Supervisor) : Turn → Option (Except TransportError Link)
  | .owner input => s.owner.bind fun call => call.attempt? s.session.config input
  | _ => none

def attempts (s : Supervisor) : List Turn → List (Except TransportError Link)
  | [] => []
  | turn :: turns => (s.attempt? turn).toList ++ (s.step turn).attempts turns

def Pending (s : Supervisor) (turns : List Turn) : Prop :=
  ∀ before, before <+: turns → ∀ result, (s.run before).owner ≠ some (.ended result)

/-- The owner's call has entered its own state. -/
def Announces (s : Supervisor) (turns : List Turn) : Prop :=
  ∃ before, before <+: turns ∧ (s.run before).owner = some .unlinking

variable {s : Supervisor} {turns : List Turn} {turn : Turn}

theorem run_concat : s.run (turns ++ [turn]) = (s.run turns).step turn := by
  unfold run
  rw [List.foldl_append]
  rfl

theorem attempts_concat :
    s.attempts (turns ++ [turn]) = s.attempts turns ++ ((s.run turns).attempt? turn).toList := by
  induction turns generalizing s with
  | nil => exact List.append_nil _
  | cons first turns ih =>
    change _ ++ (s.step first).attempts (turns ++ [turn]) = (_ ++ _) ++ _
    rw [ih, List.append_assoc]
    rfl

theorem Pending.before (h : s.Pending (turns ++ [turn])) : s.Pending turns :=
  fun before hb => h before (hb.trans (List.prefix_append ..))

theorem Pending.owner_ne (h : s.Pending turns) (result : Except ClientError Nat) :
    (s.run turns).owner ≠ some (.ended result) := h turns (List.prefix_refl _) result

theorem announces_concat : s.Announces (turns ++ [turn]) ↔
    s.Announces turns ∨ (s.run (turns ++ [turn])).owner = some .unlinking := by
  constructor
  · rintro ⟨before, hb, ho⟩
    rcases List.prefix_concat_iff.mp hb with rfl | hb
    · exact .inr ho
    · exact .inl ⟨before, hb, ho⟩
  · rintro (⟨before, hb, ho⟩ | ho)
    · exact ⟨before, hb.trans (List.prefix_append ..), ho⟩
    · exact ⟨_, List.prefix_refl _, ho⟩

theorem other_congr {s' : Supervisor} (ht : turn.isOther = true) (hs : s'.session = s.session)
    (hsh : s'.shutdowns = s.shutdowns) :
    (s'.step turn).session = (s.step turn).session ∧
      (s'.step turn).shutdowns = (s.step turn).shutdowns := by
  cases turn with
  | call p => cases ht
  | owner input => cases ht
  | shutting i =>
    change (s'.stepShutdown i).session = (s.stepShutdown i).session ∧
      (s'.stepShutdown i).shutdowns = (s.stepShutdown i).shutdowns
    unfold stepShutdown
    rw [hs, hsh]
    split
    · exact ⟨hs, hsh⟩
    · exact ⟨rfl, rfl⟩
  | shutdown =>
    refine ⟨hs, ?_⟩
    change s'.shutdowns ++ _ = s.shutdowns ++ _
    rw [hsh]
  | cancel | lose =>
    refine ⟨?_, hsh⟩
    simp only [step, hs]

theorem outside_shutdown (call : ShutdownPhase) (s : Session)
    (hclosed : call ≠ .storing → s.state = .closed) : s.Outside (call.step s).2 := by
  have hst := call.closed_step s hclosed
  cases call with
  | storing | taking => exact ⟨rfl, rfl, rfl, rfl, fun _ => .inl rfl, id, .inr hst⟩
  | closing taken => exact s.outside_closeLink taken
  | done => exact .refl s

theorem shutBegun_set {i : Nat} {call : ShutdownPhase} (hi : s.shutdowns[i]? = some call)
    (session : Session) :
    ShutBegun { s with session, shutdowns := s.shutdowns.set i (call.step s.session).1 } := by
  refine ⟨_, List.mem_set (List.getElem?_eq_some_iff.mp hi).1 _, ?_⟩
  cases call <;> exact nofun

theorem ShutBegun.step (h : s.ShutBegun) (turn : Turn) : (s.step turn).ShutBegun := by
  obtain ⟨call, hmem, hne⟩ := h
  cases turn with
  | call p =>
    change (s.call p).ShutBegun
    unfold Supervisor.call
    split <;> exact ⟨call, hmem, hne⟩
  | owner input =>
    change (s.stepOwner input).ShutBegun
    unfold stepOwner
    split <;> exact ⟨call, hmem, hne⟩
  | shutdown => exact ⟨call, List.mem_append_left _ hmem, hne⟩
  | shutting i =>
    change (s.stepShutdown i).ShutBegun
    unfold stepShutdown
    split
    · exact ⟨call, hmem, hne⟩
    next hi => exact shutBegun_set hi _
  | cancel | lose => exact ⟨call, hmem, hne⟩

theorem Sound.outside (h : s.Sound) (ht : turn.isOther = true) :
    (s.step turn).owner = s.owner ∧ s.session.Outside (s.step turn).session ∧
      ((s.step turn).session.state = .closed →
        s.session.state = .closed ∨ (s.step turn).ShutBegun) := by
  cases turn with
  | call p => cases ht
  | owner input => cases ht
  | shutdown => exact ⟨rfl, .refl _, .inl⟩
  | cancel => exact ⟨rfl, ⟨rfl, rfl, rfl, rfl, fun _ => .inl rfl, fun _ => rfl, .inl ⟨rfl, rfl⟩⟩, .inl⟩
  | lose id => exact ⟨rfl, s.session.outside_updateLink id fun _ => rfl, .inl⟩
  | shutting i =>
    change (s.stepShutdown i).owner = _ ∧ s.session.Outside (s.stepShutdown i).session ∧
      ((s.stepShutdown i).session.state = _ → _ ∨ (s.stepShutdown i).ShutBegun)
    unfold stepShutdown
    split
    · exact ⟨rfl, .refl _, .inl⟩
    next call hi =>
      have hcall := h.begun call (List.mem_of_getElem? hi)
      exact ⟨rfl, outside_shutdown call s.session hcall, fun _ => .inr (shutBegun_set hi _)⟩

theorem step_announcing (seen : Option ConnState) (input : TaskInput) (s : Session) :
    (∃ seen', (OwnerPhase.announcing .reconnect seen).step input s =
        (.announcing .reconnect seen', s)) ∨
      (s.state = .closed ∧ (OwnerPhase.announcing .reconnect seen).step input s =
        (.ended (.error .closed), s)) ∨
      s.state ≠ .closed ∧ (OwnerPhase.announcing .reconnect seen).step input s =
        (.unlinking, { s with state := .reconnecting }) := by
  cases input with
  | proceed =>
    change (∃ seen', OwnerPhase.announce .reconnect seen s = _) ∨
      (_ ∧ OwnerPhase.announce .reconnect seen s = _) ∨ _ ∧ OwnerPhase.announce .reconnect seen s = _
    unfold OwnerPhase.announce
    rcases s.exchange_cases seen .reconnecting with ⟨hc, he⟩ | ⟨hc, he | he⟩
    · exact .inr (.inl ⟨hc, by rw [Purpose.announced, he]⟩)
    · exact .inl ⟨some s.state, by rw [Purpose.announced, he]⟩
    · exact .inr (.inr ⟨hc, by rw [Purpose.announced, he]⟩)
  | elapsed | cancelled | dialed | sent => exact .inl ⟨seen, rfl⟩

theorem attempt?_of_isOther (ht : turn.isOther = true) : s.attempt? turn = none := by
  cases turn with
  | owner input => cases ht
  | call | shutdown | shutting | cancel | lose => rfl

theorem attempt?_owner {call : OwnerPhase} (ho : s.owner = some call) (input : TaskInput) :
    s.attempt? (.owner input) = call.attempt? s.session.config input := by
  change s.owner.bind _ = _
  rw [ho]
  rfl

/-! ### Before the announcement -/

structure Unannounced (s : Supervisor) (turns : List Turn) : Prop where
  owner : ∃ seen, (s.run turns).owner = some (.announcing .reconnect seen)
  attempts : s.attempts turns = []
  outside : s.session.Outside (s.run turns).session
  closed : (s.run turns).session.state = .closed →
    s.session.state = .closed ∨ (s.run turns).ShutBegun
  session : (s.run turns).session = (s.run (turns.filter Turn.isOther)).session
  shutdowns : (s.run turns).shutdowns = (s.run (turns.filter Turn.isOther)).shutdowns

theorem filter_concat_of_not_isOther (ht : turn.isOther = false) :
    (turns ++ [turn]).filter Turn.isOther = turns.filter Turn.isOther := by
  rw [List.filter_append, List.filter_cons_of_neg (by rw [ht]; exact nofun), List.filter_nil,
    List.append_nil]

theorem Unannounced.other (h : s.Unannounced turns) (hs : (s.run turns).Sound)
    (ht : turn.isOther = true) : s.Unannounced (turns ++ [turn]) := by
  obtain ⟨howner, hout, hclosed⟩ := hs.outside ht
  have hfilter : (turns ++ [turn]).filter Turn.isOther = turns.filter Turn.isOther ++ [turn] := by
    rw [List.filter_append, List.filter_cons_of_pos ht, List.filter_nil]
  obtain ⟨hsession, hshutdowns⟩ := other_congr ht h.session h.shutdowns
  refine ⟨?_, ?_, ?_, ?_, ?_, ?_⟩
  · rw [run_concat, howner]
    exact h.owner
  · rw [attempts_concat, attempt?_of_isOther ht, h.attempts]
    rfl
  · rw [run_concat]
    exact h.outside.trans hout
  · rw [run_concat]
    intro hc
    rcases hclosed hc with hc | hb
    · exact (h.closed hc).imp_right fun hb => hb.step turn
    · exact .inr hb
  · rw [hfilter, run_concat, run_concat, hsession]
  · rw [hfilter, run_concat, run_concat, hshutdowns]

theorem Unannounced.aside (h : s.Unannounced turns) (ht : turn.isOther = false)
    (ho : ∃ seen, ((s.run turns).step turn).owner = some (.announcing .reconnect seen))
    (ha : (s.run turns).attempt? turn = none)
    (hs : ((s.run turns).step turn).session = (s.run turns).session)
    (hsh : ((s.run turns).step turn).shutdowns = (s.run turns).shutdowns) :
    s.Unannounced (turns ++ [turn]) := by
  have hfilter : (turns ++ [turn]).filter Turn.isOther = turns.filter Turn.isOther :=
    filter_concat_of_not_isOther ht
  refine ⟨?_, ?_, ?_, ?_, ?_, ?_⟩
  · rwa [run_concat]
  · rw [attempts_concat, ha, h.attempts]
    rfl
  · rw [run_concat, hs]
    exact h.outside
  · rw [run_concat, hs]
    unfold ShutBegun
    rw [hsh]
    exact h.closed
  · rw [hfilter, run_concat, hs, h.session]
  · rw [hfilter, run_concat, hsh, h.shutdowns]

section

variable (hs : s.Sound) (ho : s.owner = some (.start .reconnect))

include hs ho

theorem unannounced (hp : s.Pending turns) (hn : ¬s.Announces turns) : s.Unannounced turns := by
  induction turns using List.reverseRecOn with
  | nil => exact ⟨⟨none, ho⟩, rfl, .refl _, .inl, rfl, rfl⟩
  | append_singleton turns turn ih =>
    have hrun : s.run (turns ++ [turn]) = (s.run turns).step turn := run_concat
    have h := ih hp.before fun ha => hn (announces_concat.mpr (.inl ha))
    obtain ⟨seen, howner⟩ := h.owner
    by_cases ht : turn.isOther = true
    · exact h.other (hs.run turns) ht
    · rw [Bool.not_eq_true] at ht
      cases turn with
      | shutdown | shutting | cancel | lose => cases ht
      | call p =>
        have hcall : (s.run turns).step (.call p) = s.run turns := call_busy howner nofun p
        refine h.aside ht ?_ rfl ?_ ?_
        · rw [hcall]
          exact h.owner
        · rw [hcall]
        · rw [hcall]
      | owner input =>
        obtain ⟨howner', hsession, hshutdowns⟩ := step_owner howner input
        rcases step_announcing seen input (s.run turns).session with
          ⟨seen', hstep⟩ | ⟨_, hstep⟩ | ⟨_, hstep⟩
        · rw [hstep] at howner' hsession
          refine h.aside ht ⟨seen', howner'⟩ ?_ hsession hshutdowns
          rw [attempt?_owner howner]
          exact OwnerPhase.attempt?_eq_none nofun
        · rw [hstep, ← hrun] at howner'
          exact absurd howner' (hp.owner_ne _)
        · rw [hstep, ← hrun] at howner'
          exact absurd (announces_concat.mpr (.inr howner')) hn

end

theorem Unannounced.announced (h : s.Unannounced turns) (hs : s.Sound)
    (hunlinking : (s.run (turns ++ [turn])).owner = some .unlinking) :
    (s.run turns).session.state ≠ .closed ∧ s.attempts (turns ++ [turn]) = [] ∧
      (s.run (turns ++ [turn])).session = { (s.run turns).session with state := .reconnecting } := by
  have hrun : s.run (turns ++ [turn]) = (s.run turns).step turn := run_concat
  obtain ⟨seen, howner⟩ := h.owner
  have hkept : ((s.run turns).step turn).owner ≠ (s.run turns).owner := by
    rw [← hrun, hunlinking, howner]
    exact nofun
  cases turn with
  | shutdown | shutting | cancel | lose => exact absurd ((hs.run turns).outside rfl).1 hkept
  | call p =>
    have hcall : (s.run turns).step (.call p) = s.run turns := call_busy howner nofun p
    exact absurd (congrArg Supervisor.owner hcall) hkept
  | owner input =>
    obtain ⟨howner', hsession, _⟩ := step_owner howner input
    rw [← hrun] at hsession
    rw [← hrun, hunlinking] at howner'
    rcases step_announcing seen input (s.run turns).session with
      ⟨seen', hstep⟩ | ⟨_, hstep⟩ | ⟨hopen, hstep⟩
    · rw [hstep] at howner'
      cases howner'
    · rw [hstep] at howner'
      cases howner'
    · refine ⟨hopen, ?_, ?_⟩
      · rw [attempts_concat, attempt?_owner howner, h.attempts]
        rfl
      · rw [hsession, hstep]

end Supervisor

/-! ### After the announcement -/

/-- The call has put its new link into the slot and has not returned yet. -/
def OwnerPhase.Placed : OwnerPhase → Prop
  | closingReplaced .. | confirming .. | withdrawing | closingWithdrawn _ => True
  | _ => False

theorem OwnerPhase.Step.placed {call call' : OwnerPhase} {s s' : Session} (h : call.Step s call' s')
    (hp : call'.Placed) : call.Placed ∨ ∃ p k id, call = installing p k id ∧ s'.slot = some id := by
  cases h with
  | stay => exact .inl hp
  | installed => exact .inr ⟨_, _, _, rfl, rfl⟩
  | replacedClosed | confirmLooked | confirmRefused | withdrawn => exact .inl trivial
  | @announced p => cases p <;> cases hp
  | announceLooked | announceRefused | dialFailed | dialed | unlinked | oldClosed | delayOver
  | redialFailed | redialed | retryCancelled | retryConnected | retryStopped | retryExhausted
  | confirmed | withdrawnClosed | fallBackLooked | fallBackRefused | fellBack | giveUpLooked
  | giveUpRefused | gaveUp => cases hp

theorem OwnerPhase.Course.placed {before s s' : Session} {causes : List TransportError} {l : Link}
    {call call' : OwnerPhase} {attempts : List (Except TransportError Link)} {input : TaskInput}
    (h : call.Course before attempts s) (hstep : call.Step s call' s')
    (he : call' = ended (.error .closed))
    (hat : attempts ++ (call.attempt? s.config input).toList = causes.map .error ++ [.ok l]) :
    call.Placed := by
  cases hstep with
  | stay => exact absurd he (h.ne_ended _)
  | @announced p => cases p <;> cases he
  | announceRefused => cases h
  | withdrawnClosed => trivial
  | retryStopped =>
    cases h with
    | @stopped causes' =>
      have hl : Except.ok l ∈ causes.map .error ++ [.ok l] :=
        List.mem_append_right _ List.mem_cons_self
      rw [← hat] at hl
      simp [attempt?] at hl
  | dialFailed | dialed | unlinked | oldClosed | delayOver | redialFailed | redialed
  | retryCancelled | retryConnected | retryExhausted | installed | replacedClosed | announceLooked
  | confirmLooked | confirmRefused | confirmed | withdrawn | fallBackLooked | fallBackRefused
  | fellBack | giveUpLooked | giveUpRefused | gaveUp => cases he

namespace Supervisor

variable {s : Supervisor} {turns : List Turn} {turn : Turn}

structure Underway (s : Supervisor) (turns : List Turn) : Prop where
  course : ∃ call, (s.run turns).owner = some call ∧
    call.Course s.session (s.attempts turns) (s.run turns).session
  closed : (s.run turns).session.state = .closed → (s.run turns).ShutBegun
  placed : ∀ call ∈ (s.run turns).owner, call.Placed →
    s.session.links.length ∈ (s.run turns).installed

theorem installed_step (s : Supervisor) (turn : Turn) : s.installed ⊆ (s.step turn).installed := by
  cases turn with
  | call p =>
    change s.installed ⊆ (s.call p).installed
    unfold Supervisor.call
    split <;> exact List.Subset.refl _
  | owner input =>
    change s.installed ⊆ (s.stepOwner input).installed
    unfold stepOwner
    split
    · exact List.Subset.refl _
    · exact List.subset_append_left ..
  | shutting i =>
    change s.installed ⊆ (s.stepShutdown i).installed
    unfold stepShutdown
    split <;> exact List.Subset.refl _
  | shutdown | cancel | lose => exact List.Subset.refl _

theorem mem_installed {call : OwnerPhase} {input : TaskInput} {id : LinkId} (ho : s.owner = some call)
    (hnone : s.session.slot = none) (hslot : (call.step input s.session).2.slot = some id) :
    id ∈ (s.step (.owner input)).installed := by
  change id ∈ (s.stepOwner input).installed
  unfold stepOwner
  rw [ho]
  refine List.mem_append_right _ ?_
  unfold Session.installed?
  rw [hslot, hnone, if_neg nofun]
  exact List.mem_singleton_self _

theorem Underway.other (h : s.Underway turns) (hs : (s.run turns).Sound)
    (ht : turn.isOther = true) : s.Underway (turns ++ [turn]) := by
  obtain ⟨howner, hout, hclosed⟩ := hs.outside ht
  obtain ⟨call, ho, hcourse⟩ := h.course
  refine ⟨⟨call, ?_, ?_⟩, ?_, ?_⟩
  · rw [run_concat, howner, ho]
  · rw [attempts_concat, attempt?_of_isOther ht, Option.toList_none, List.append_nil, run_concat]
    exact hcourse.outside hout
  · rw [run_concat]
    intro hc
    rcases hclosed hc with hc | hb
    · exact (h.closed hc).step turn
    · exact hb
  · rw [run_concat, howner]
    intro call hcall hp
    exact installed_step _ turn (h.placed call hcall hp)

theorem Underway.owner (h : s.Underway turns) (hs : (s.run turns).Sound) {input : TaskInput}
    (hp : s.Pending (turns ++ [.owner input])) : s.Underway (turns ++ [.owner input]) := by
  have hrun : s.run (turns ++ [.owner input]) = (s.run turns).step (.owner input) := run_concat
  obtain ⟨call, ho, hcourse⟩ := h.course
  obtain ⟨howner, hsession, hshutdowns⟩ := step_owner ho input
  have hsafe := hs.safe call ho
  rcases hcourse.step hsafe input with ⟨hcourse', hstate⟩ | ⟨result, hend, _⟩
  · refine ⟨⟨_, by rw [hrun, howner], ?_⟩, ?_, ?_⟩
    · rw [attempts_concat, attempt?_owner ho, hrun, hsession]
      exact hcourse'
    · rw [hrun, hsession, hstate]
      intro hc
      exact (h.closed hc).step _
    · rw [hrun, howner]
      intro call' hcall hplaced
      cases hcall
      rcases (call.step_kind input _).placed hplaced with hp' | ⟨p, k, id, rfl, hslot⟩
      · exact installed_step _ _ (h.placed call ho hp')
      · obtain ⟨rfl, rfl⟩ := hcourse.installs_new
        exact mem_installed ho hsafe hslot
  · rw [hend, ← hrun] at howner
    exact absurd howner (hp.owner_ne _)

theorem underway (hs : s.Sound) (ho : s.owner = some (.start .reconnect)) (hp : s.Pending turns)
    (ha : s.Announces turns) : s.Underway turns := by
  induction turns using List.reverseRecOn with
  | nil =>
    obtain ⟨before, hb, howner⟩ := ha
    rw [List.prefix_nil.mp hb] at howner
    cases ho.symm.trans howner
  | append_singleton turns turn ih =>
    have hrun : s.run (turns ++ [turn]) = (s.run turns).step turn := run_concat
    by_cases ha' : s.Announces turns
    · have h := ih hp.before ha'
      by_cases ht : turn.isOther = true
      · exact h.other (hs.run turns) ht
      · cases turn with
        | shutdown | shutting | cancel | lose => exact absurd rfl ht
        | owner input => exact h.owner (hs.run turns) hp
        | call p =>
          obtain ⟨call, howner, hcourse⟩ := h.course
          have hcall : (s.run turns).step (.call p) = s.run turns :=
            call_busy howner (fun result he => hp.before.owner_ne result (he ▸ howner)) p
          have hattempts : s.attempts (turns ++ [.call p]) = s.attempts turns := by
            rw [attempts_concat]
            exact List.append_nil _
          refine ⟨?_, ?_, ?_⟩
          · rw [hattempts, hrun, hcall]
            exact h.course
          · rw [hrun, hcall]
            exact h.closed
          · rw [hrun, hcall]
            exact h.placed
    · -- this very turn is the announcement
      have h := unannounced hs ho hp.before ha'
      have hunlinking := (announces_concat.mp ha).resolve_left ha'
      obtain ⟨_, hattempts, hsession⟩ := h.announced hs hunlinking
      refine ⟨⟨_, hunlinking, ?_⟩, ?_, ?_⟩
      · rw [hattempts, hsession]
        exact .unlinking (Session.tried_announced h.outside)
      · rw [hsession]
        exact nofun
      · rw [hunlinking]
        rintro _ ⟨⟩ ⟨⟩

end Supervisor
end OrderEntry

import OrderEntry.Proofs.Session.Ownership

/-! How long a call takes. Every answer that it waits for brings it closer to its end, and nobody else sets it
back: a look at the state may have to be repeated, but not once the session is closed. -/

namespace OrderEntry
namespace OwnerPhase

def answers (s : Session) : OwnerPhase → TaskInput → Bool
  | ended _, _ => false
  | dialing, .dialed _ | retrying (.dialing ..), .dialed _ | retrying (.waiting ..), .elapsed => true
  | retrying (.waiting ..), .cancelled | retrying (.dialing ..), .cancelled => s.cancelled
  | dialing, _ | retrying (.waiting ..), _ | retrying (.dialing ..), _ => false
  | _, .proceed => true
  | _, _ => false

/-- How often the state has to be looked at before it can be changed, as long as it stays. -/
def looks (s : Session) (seen : Option ConnState) : Nat :=
  if s.state = .closed ∨ seen = some s.state then 1 else 2

/-- The number of answers after which the call is over. -/
def length (s : Session) : OwnerPhase → Nat
  | announcing _ seen => 2 * s.config.maxReconnectAttempts + 11 + looks s seen
  | unlinking => 2 * s.config.maxReconnectAttempts + 11
  | closingOld _ => 2 * s.config.maxReconnectAttempts + 10
  | retrying (.waiting k _) => 2 * (s.config.maxReconnectAttempts + 1 - k) + 9
  | retrying (.dialing k _) => 2 * (s.config.maxReconnectAttempts + 1 - k) + 8
  | retrying (.ended (.connected ..)) | dialing => 7
  | retrying (.ended .cancelled) => 1
  | retrying (.ended .exhausted) => 3
  | installing .. => 6
  | closingReplaced .. => 5
  | confirming _ _ seen => 2 + looks s seen
  | withdrawing => 2
  | closingWithdrawn _ => 1
  | fallingBack _ seen | givingUp seen => looks s seen
  | ended _ => 0

variable {call call' : OwnerPhase} {s s' : Session} {input : TaskInput}

theorem looks_le (s : Session) (seen : Option ConnState) : looks s seen ≤ 2 := by
  unfold looks
  split <;> decide

theorem looks_pos (s : Session) (seen : Option ConnState) : 1 ≤ looks s seen := by
  unfold looks
  split <;> decide

theorem length_start (s : Session) (p : Purpose) :
    length s (start p) ≤ 2 * s.config.maxReconnectAttempts + 13 := by
  have := looks_le s none
  change 2 * s.config.maxReconnectAttempts + 11 + looks s none ≤ _
  omega

theorem looked_again {seen : Option ConnState} :
    some s.state = seen ∨ looks s (some s.state) < looks s seen ∨ s.state = .closed := by
  by_cases hc : s.state = .closed
  · exact .inr (.inr hc)
  · by_cases hs : seen = some s.state
    · exact .inl hs.symm
    · refine .inr (.inl ?_)
      unfold looks
      rw [if_pos (.inr rfl), if_neg (not_or.mpr ⟨hc, hs⟩)]
      decide

theorem Step.length_lt (h : call.Step s call' s') :
    call' = call ∧ s' = s ∨ length s' call' < length s call := by
  have hconfig := h.keeps.config
  cases h with
  | stay => exact .inl ⟨rfl, rfl⟩
  | @announceLooked p seen _ hn | @confirmLooked p k seen _ hn | @fallBackLooked cause seen _ hn
  | @giveUpLooked seen _ hn =>
    have hlook : some s.state = seen ∨ looks s (some s.state) < looks s seen ∨ s.state = .closed :=
      looked_again
    rcases hlook with hs | hlt | hc
    · exact .inl ⟨by rw [hs], rfl⟩
    · refine .inr ?_
      simp only [length]
      omega
    · exact absurd hc hn
  -- the look that has led to the change is one answer less
  | @announced p seen =>
    have := looks_pos s seen
    cases p <;> (simp only [length, Purpose.opening]; omega)
  | @redialFailed k d _ cause =>
    refine .inr ?_
    unfold Retry.after
    split
    next hk =>
      change k < s.config.maxReconnectAttempts at hk
      simp only [length, hconfig]
      omega
    next =>
      simp only [length]
      omega
  | @oldClosed old =>
    refine .inr ?_
    unfold Retry.start Retry.after
    split <;> (simp only [length, hconfig]; omega)
  | @announceRefused p seen | @fellBack _ seen | @fallBackRefused _ seen | @giveUpRefused seen
  | @gaveUp seen | @confirmRefused _ _ seen | @confirmed _ _ seen =>
    have := looks_pos s seen
    simp only [length]
    omega
  | @dialFailed cause =>
    have := looks_le s none
    simp only [length]
    omega
  | @retryExhausted =>
    have := looks_le s none
    simp only [length]
    omega
  | @replacedClosed p k old =>
    have := looks_le (s.closeLink old) none
    simp only [length]
    omega
  | @retryCancelled phase hc =>
    rcases phase with ⟨k, d⟩ | ⟨k, d⟩ | ⟨k, id⟩ | _ | _
    · exact .inr (by simp only [length]; omega)
    · exact .inr (by simp only [length]; omega)
    · exact .inr (by decide : 1 < 7)
    · exact .inl ⟨rfl, rfl⟩
    · exact .inr (by decide : 1 < 3)
  | dialed | unlinked | delayOver | redialed | retryConnected | retryStopped | installed | withdrawn
  | withdrawnClosed =>
    simp only [length]
    omega

theorem ne_of_exchange {seen : Option ConnState} {next state : ConnState}
    (h : s.exchange seen next = .seen state) : some state ≠ seen := by
  rintro rfl
  unfold Session.exchange at h
  split at h
  · cases h
  · split at h
    · cases h
    next hne =>
      cases h
      exact hne rfl

theorem step_ne (h : answers s call input = true) : (call.step input s).1 ≠ call := by
  cases call with
  | announcing p seen =>
    cases input with
    | proceed =>
      change (announce p seen s).1 ≠ _
      unfold announce
      split
      next => exact nofun
      next he =>
        intro heq
        cases heq
        exact ne_of_exchange he rfl
      next => cases p <;> exact nofun
    | elapsed | cancelled | dialed | sent => cases h
  | confirming p k seen =>
    cases input with
    | proceed =>
      change (confirm p k seen s).1 ≠ _
      unfold confirm
      split
      next => exact nofun
      next he =>
        intro heq
        cases heq
        exact ne_of_exchange he rfl
      next => cases p <;> exact nofun
    | elapsed | cancelled | dialed | sent => cases h
  | fallingBack cause seen =>
    cases input with
    | proceed =>
      change (fallBack cause seen s).1 ≠ _
      unfold fallBack
      split
      next => exact nofun
      next he =>
        intro heq
        cases heq
        exact ne_of_exchange he rfl
      next => exact nofun
    | elapsed | cancelled | dialed | sent => cases h
  | givingUp seen =>
    cases input with
    | proceed =>
      change (giveUp seen s).1 ≠ _
      unfold giveUp
      dsimp only
      split
      next => exact nofun
      next he =>
        intro heq
        cases heq
        exact ne_of_exchange he rfl
      next => exact nofun
    | elapsed | cancelled | dialed | sent => cases h
  | dialing =>
    cases input with
    | dialed outcome => cases outcome <;> exact nofun
    | proceed | elapsed | cancelled | sent => cases h
  | retrying phase =>
    cases phase with
    | waiting k d =>
      cases input with
      | elapsed => exact nofun
      | cancelled =>
        have hc : s.cancelled = true := h
        simp only [step, hc, if_true]
        exact nofun
      | proceed | dialed | sent => cases h
    | dialing k d =>
      cases input with
      | dialed outcome =>
        have hafter : ∀ d', retrying ((Retry.ofConfig s.config).after k d') ≠
            retrying (.dialing k d) := by
          intro d'
          unfold Retry.after
          split <;> exact nofun
        cases outcome with
        | opened remote => exact nofun
        | unresolved cause | failed cause | expired => exact hafter _
      | cancelled =>
        have hc : s.cancelled = true := h
        simp only [step, hc, if_true]
        exact nofun
      | proceed | elapsed | sent => cases h
    | ended outcome =>
      cases input with
      | proceed => cases outcome <;> exact nofun
      | elapsed | cancelled | dialed | sent => cases outcome <;> cases h
  | unlinking | closingOld | installing | closingReplaced | withdrawing | closingWithdrawn =>
    cases input with
    | proceed => exact nofun
    | elapsed | cancelled | dialed | sent => cases h
  | ended result => cases h

theorem length_step (call : OwnerPhase) (input : TaskInput) (s : Session) :
    length (call.step input s).2 (call.step input s).1 + (answers s call input).toNat ≤
      length s call := by
  have hstep := call.step_kind input s
  cases h : answers s call input with
  | false =>
    rcases hstep.length_lt with ⟨hcall, hs⟩ | hlt
    · rw [hcall, hs]
      exact Nat.le_refl _
    · exact Nat.le_of_lt hlt
  | true =>
    rcases hstep.length_lt with ⟨hcall, _⟩ | hlt
    · exact absurd hcall (step_ne h)
    · exact hlt

theorem length_eq_zero_iff : length s call = 0 ↔ ∃ result, call = ended result := by
  constructor
  · intro h
    cases call with
    | ended result => exact ⟨result, rfl⟩
    | announcing p seen | confirming p k seen | fallingBack cause seen | givingUp seen =>
      have := looks_pos s seen
      simp only [length] at h
      omega
    | retrying phase =>
      rcases phase with ⟨k, d⟩ | ⟨k, d⟩ | ⟨k, id⟩ | _ | _ <;> simp [length] at h
    | dialing | unlinking | closingOld | installing | closingReplaced | withdrawing | closingWithdrawn =>
      simp [length] at h
  · rintro ⟨result, rfl⟩
    rfl

theorem length_aside (hconfig : s'.config = s.config)
    (hstate : s'.state = s.state ∨ s'.state = .closed) (call : OwnerPhase) :
    length s' call ≤ length s call := by
  have hlooks : ∀ seen, looks s' seen ≤ looks s seen := by
    intro seen
    rcases hstate with hst | hst
    · unfold looks
      rw [hst]
    · have := looks_pos s seen
      unfold looks at this ⊢
      rw [if_pos (.inl hst)]
      exact this
  cases call with
  | announcing p seen | confirming p k seen | fallingBack cause seen | givingUp seen =>
    have := hlooks seen
    simp only [length, hconfig]
    omega
  | retrying phase =>
    rcases phase with ⟨k, d⟩ | ⟨k, d⟩ | ⟨k, id⟩ | _ | _ <;> simp only [length, hconfig, Nat.le_refl]
  | dialing | unlinking | closingOld | installing | closingReplaced | withdrawing | closingWithdrawn
  | ended => simp only [length, hconfig, Nat.le_refl]

end OwnerPhase

namespace Supervisor

variable {s : Supervisor} {call : OwnerPhase}

def isAnswer (s : Supervisor) : Turn → Bool
  | .owner input => s.owner.any fun call => call.answers s.session input
  | _ => false

def answers (s : Supervisor) : List Turn → Nat
  | [] => 0
  | turn :: turns => (s.isAnswer turn).toNat + (s.step turn).answers turns

theorem state_shutting (hbegun : ∀ call ∈ s.shutdowns, call ≠ .storing → s.session.state = .closed)
    (i : Nat) : (s.stepShutdown i).session.state = s.session.state ∨
      (s.stepShutdown i).session.state = .closed := by
  fun_cases stepShutdown s i with
  | case1 => exact .inl rfl
  | case2 call hi call' session hs =>
    have hclosed := call.closed_step s.session (hbegun call (List.mem_of_getElem? hi))
    rw [hs] at hclosed
    exact .inr hclosed

theorem config_shutting (i : Nat) : (s.stepShutdown i).session.config = s.session.config := by
  fun_cases stepShutdown s i with
  | case1 => rfl
  | case2 call hi call' session hs =>
    have hkeeps := call.keeps_step s.session
    rw [hs] at hkeeps
    exact hkeeps.config

theorem call_busy (ho : s.owner = some call) (hn : ∀ result, call ≠ .ended result) (p : Purpose) :
    s.call p = s := by
  have hbusy : s.isIdle = false := by
    unfold isIdle
    rw [ho]
    cases call with
    | ended result => exact absurd rfl (hn result)
    | _ => rfl
  unfold Supervisor.call
  rw [hbusy]
  rfl

theorem step_owner (ho : s.owner = some call) (input : TaskInput) :
    (s.step (.owner input)).owner = some (call.step input s.session).1 ∧
      (s.step (.owner input)).session = (call.step input s.session).2 ∧
      (s.step (.owner input)).shutdowns = s.shutdowns := by
  change (s.stepOwner input).owner = _ ∧ (s.stepOwner input).session = _ ∧
    (s.stepOwner input).shutdowns = _
  unfold stepOwner
  rw [ho]
  exact ⟨rfl, rfl, rfl⟩

theorem length_step (h : s.Sound) (ho : s.owner = some call) (hn : ∀ result, call ≠ .ended result)
    (turn : Turn) : ∃ call', (s.step turn).owner = some call' ∧
      call'.length (s.step turn).session + (s.isAnswer turn).toNat ≤ call.length s.session := by
  cases turn with
  | call p =>
    change ∃ call', (s.call p).owner = _ ∧ _
    rw [call_busy ho hn p]
    refine ⟨call, ho, ?_⟩
    change call.length (s.call p).session + 0 ≤ _
    rw [call_busy ho hn p]
    exact Nat.le_refl _
  | owner input =>
    obtain ⟨howner, hsession, _⟩ := step_owner ho input
    refine ⟨_, howner, ?_⟩
    change _ + (s.owner.any fun call => call.answers s.session input).toNat ≤ _
    rw [hsession, ho]
    exact call.length_step input s.session
  | shutdown | cancel | lose => exact ⟨call, ho, Nat.le_refl _⟩
  | shutting i =>
    refine ⟨call, ?_, ?_⟩
    · change (s.stepShutdown i).owner = some call
      unfold stepShutdown
      split <;> exact ho
    · exact call.length_aside (config_shutting i) (state_shutting h.begun i)

theorem ended_of_answers (h : s.Sound) (ho : s.owner = some call) {turns : List Turn}
    (hlen : call.length s.session ≤ s.answers turns) :
    ∃ before, before <+: turns ∧ ∃ result, (s.run before).owner = some (.ended result) := by
  induction turns generalizing s call with
  | nil =>
    obtain ⟨result, rfl⟩ := OwnerPhase.length_eq_zero_iff.mp (Nat.le_zero.mp hlen)
    exact ⟨[], List.prefix_refl _, result, ho⟩
  | cons turn turns ih =>
    by_cases hend : ∃ result, call = .ended result
    · obtain ⟨result, rfl⟩ := hend
      exact ⟨[], List.nil_prefix, result, ho⟩
    · obtain ⟨call', ho', hlen'⟩ := length_step h ho (fun result he => hend ⟨result, he⟩) turn
      have hleft : call'.length (s.step turn).session ≤ (s.step turn).answers turns := by
        unfold answers at hlen
        omega
      obtain ⟨before, hbefore, hresult⟩ := ih (h.step turn) ho' hleft
      exact ⟨turn :: before, List.cons_prefix_cons.mpr ⟨rfl, hbefore⟩, hresult⟩

end Supervisor
end OrderEntry

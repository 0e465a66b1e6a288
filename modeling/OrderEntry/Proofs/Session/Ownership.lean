import OrderEntry.Proofs.Session.WireOrder

/-! One owner connects and reconnects, one call at a time, and any number of shutdowns come in between. Main
statement: closed is for good, a connected session has a link in its slot, and once every call is over,
each link that ever was in the slot is there still or has been marked down. -/

namespace OrderEntry

structure Supervisor where
  session : Session
  owner : Option OwnerPhase := none
  shutdowns : List ShutdownPhase := []
  /-- Every link that was put into the slot. -/
  installed : List LinkId := []

/-- Between two phases of a call anything else may happen. -/
inductive Turn
  | call (purpose : Purpose)
  | owner (input : TaskInput)
  | shutdown
  | shutting (i : Nat)
  | cancel
  | lose (link : LinkId)

namespace Supervisor

def isIdle (s : Supervisor) : Bool :=
  match s.owner with
  | none | some (.ended _) => true
  | _ => false

def new (config : Config) : Supervisor := { session := .new config }

def call (s : Supervisor) (p : Purpose) : Supervisor :=
  if s.isIdle then { s with owner := some (.start p) } else s

def stepOwner (s : Supervisor) (input : TaskInput) : Supervisor :=
  match s.owner with
  | none => s
  | some call =>
    let (call, session) := call.step input s.session
    { s with
      session
      owner := some call
      installed := s.installed ++ (s.session.installed? session).toList }

def stepShutdown (s : Supervisor) (i : Nat) : Supervisor :=
  match s.shutdowns[i]? with
  | none => s
  | some call =>
    let (call, session) := call.step s.session
    { s with session, shutdowns := s.shutdowns.set i call }

def step (s : Supervisor) : Turn → Supervisor
  | .call p => s.call p
  | .owner input => s.stepOwner input
  | .shutdown => { s with shutdowns := s.shutdowns ++ [.storing] }
  | .shutting i => s.stepShutdown i
  | .cancel => { s with session := { s.session with cancelled := true } }
  | .lose id => { s with session := s.session.updateLink id Link.markDown }

def run (s : Supervisor) (turns : List Turn) : Supervisor := turns.foldl step s

def IsQuiet (s : Supervisor) : Prop := s.isIdle = true ∧ ∀ call ∈ s.shutdowns, call = .done

end Supervisor

/-! ### What one phase of a call does -/

namespace OwnerPhase

def closes? : OwnerPhase → Option LinkId
  | closingOld old | closingReplaced _ _ old | closingWithdrawn old => old
  | _ => none

def Withdraws : OwnerPhase → Prop
  | closingReplaced .. | confirming .. | withdrawing => True
  | _ => False

def Safe (s : Session) : OwnerPhase → Prop
  | unlinking => s.state ≠ .connected
  | closingOld _ | retrying _ | installing .reconnect _ _ | givingUp _ => s.slot = none
  | closingReplaced .. | confirming .. => s.state = .closed ∨ s.slot ≠ none
  | withdrawing => s.state = .closed
  | closingWithdrawn _ => s.slot = none
  | announcing .. | dialing | installing .connect _ _ | fallingBack .. | ended _ => True

variable {call call' : OwnerPhase} {s s' : Session}

theorem Safe.congr (h : call.Safe s) (hst : s'.state = s.state) (hs : s'.slot = s.slot) :
    call.Safe s' := by
  cases call with
  | installing p =>
    cases p with
    | connect => trivial
    | reconnect => exact hs.trans h
  | closingOld | retrying | givingUp | closingWithdrawn => exact hs.trans h
  | unlinking | closingReplaced | confirming | withdrawing => simpa only [Safe, hst, hs] using h
  | announcing | dialing | fallingBack | ended => trivial

theorem Safe.shut (h : call.Safe s) (hc : s'.state = .closed) (hs : s'.slot = s.slot ∨ s'.slot = none) :
    call.Safe s' := by
  have hnone : s.slot = none → s'.slot = none := fun hn => hs.elim (·.trans hn) id
  cases call with
  | unlinking => exact fun hst => by cases hst.symm.trans hc
  | installing p =>
    cases p with
    | connect => trivial
    | reconnect => exact hnone h
  | closingOld | retrying | givingUp | closingWithdrawn => exact hnone h
  | closingReplaced | confirming => exact .inl hc
  | withdrawing => exact hc
  | announcing | dialing | fallingBack | ended => trivial

theorem Step.closed (h : call.Step s call' s') (hc : s.state = .closed) : s'.state = .closed := by
  cases h with
  | announced hn | confirmed hn | fellBack hn => exact absurd hc hn
  | gaveUp => rfl
  | @oldClosed old | @replacedClosed _ _ old | @withdrawnClosed old => cases old <;> exact hc
  | stay | announceLooked | announceRefused | dialFailed | dialed | unlinked | delayOver | redialFailed
  | redialed | retryCancelled | retryConnected | retryStopped | retryExhausted | installed
  | confirmLooked | confirmRefused | withdrawn | fallBackLooked | fallBackRefused | giveUpLooked
  | giveUpRefused => exact hc

theorem Step.connected (h : call.Step s call' s') (hs : call.Safe s)
    (hc : s.state = .connected → s.slot ≠ none) : s'.state = .connected → s'.slot ≠ none := by
  cases h with
  | @announced p => cases p <;> exact nofun
  | unlinked => exact fun hst => absurd hst hs
  | installed => exact fun _ => nofun
  | @confirmed p k _ _ hn =>
    have hslot : (s.serve p k).slot = s.slot := by cases p <;> rfl
    exact fun _ => hslot ▸ hs.resolve_left hn
  | withdrawn => exact fun hst => by cases hst.symm.trans hs
  | fellBack | gaveUp => exact nofun
  | @oldClosed old | @replacedClosed _ _ old | @withdrawnClosed old => cases old <;> exact hc
  | stay | announceLooked | announceRefused | dialFailed | dialed | delayOver | redialFailed | redialed
  | retryCancelled | retryConnected | retryStopped | retryExhausted | confirmLooked | confirmRefused
  | fallBackLooked | fallBackRefused | giveUpLooked | giveUpRefused => exact hc

theorem Step.emptied {other : Prop} (h : call.Step s call' s') (hs : call.Safe s)
    (hc : s.state = .closed → s.slot = none ∨ other ∨ call.Withdraws) :
    s'.state = .closed → s'.slot = none ∨ other ∨ call'.Withdraws := by
  cases h with
  | stay => exact hc
  | @announced p | @confirmed p => cases p <;> exact nofun
  | fellBack => exact nofun
  | unlinked | withdrawn => exact fun _ => .inl rfl
  | installed | replacedClosed | confirmLooked | confirmRefused => exact fun _ => .inr (.inr trivial)
  | @oldClosed old | @withdrawnClosed old => exact fun _ => .inl ((s.slot_closeLink old).trans hs)
  | delayOver | redialFailed | redialed | retryCancelled | retryConnected | retryStopped | retryExhausted
  | giveUpLooked | giveUpRefused | gaveUp => exact fun _ => .inl hs
  | announceLooked | announceRefused | dialFailed | dialed | fallBackLooked | fallBackRefused =>
    exact fun hst => (hc hst).imp_right fun ho => .inl (ho.resolve_right id)

theorem Step.safe (h : call.Step s call' s') (hs : call.Safe s) : call'.Safe s' := by
  cases h with
  | @announced p =>
    cases p with
    | connect => trivial
    | reconnect => exact nofun
  | @oldClosed old => exact (s.slot_closeLink old).trans hs
  | @replacedClosed p k old => cases old <;> exact hs
  | installed => exact .inr nofun
  | confirmRefused hst => exact hst
  | unlinked | withdrawn => rfl
  | stay | delayOver | redialFailed | redialed | retryCancelled | retryConnected | retryExhausted
  | confirmLooked | giveUpLooked => exact hs
  | announceLooked | announceRefused | dialFailed | dialed | retryStopped | confirmed
  | withdrawnClosed | fallBackLooked | fallBackRefused | fellBack | giveUpRefused | gaveUp => trivial

theorem Step.released (h : call.Step s call' s') {id : LinkId} (hlt : id < s.links.length)
    (hr : s.slot = some id ∨ s.isUp id = false ∨ call.closes? = some id) :
    s'.slot = some id ∨ s'.isUp id = false ∨ call'.closes? = some id := by
  have hclose : ∀ old, s.slot = some id ∨ s.isUp id = false ∨ old = some id →
      (s.closeLink old).slot = some id ∨ (s.closeLink old).isUp id = false := by
    intro old hr
    exact hr.imp (s.slot_closeLink old).trans (Session.isUp_closeLink_eq_false old)
  cases h with
  | stay => exact hr
  | unlinked | withdrawn | installed =>
    rcases hr with hs | hd | hc
    · exact .inr (.inr hs)
    · exact .inr (.inl hd)
    · cases hc
  | @oldClosed old | @replacedClosed _ _ old | @withdrawnClosed old =>
    exact (hclose old hr).imp_right .inl
  | @dialed remote | @redialed _ _ remote =>
    rw [Session.isUp_addLink _ hlt]
    exact hr.imp_right fun ho => .inl (ho.resolve_right nofun)
  | @announced p =>
    exact hr.imp_right fun ho => .inl (ho.resolve_right nofun)
  | @confirmed p =>
    cases p <;> exact hr.imp_right fun ho => .inl (ho.resolve_right nofun)
  | announceLooked | announceRefused | dialFailed | delayOver | redialFailed | retryCancelled
  | retryConnected | retryStopped | retryExhausted | confirmLooked | confirmRefused | fallBackLooked
  | fallBackRefused | fellBack | giveUpLooked | giveUpRefused | gaveUp =>
    exact hr.imp_right fun ho => .inl (ho.resolve_right nofun)

theorem Step.opened (h : call.Step s call' s') (hh : ∀ id, call.held? = some id → id < s.links.length) :
    s.links.length ≤ s'.links.length ∧
      (∀ id, call'.held? = some id → id < s'.links.length) ∧
      ∀ id, s.installed? s' = some id → id < s'.links.length := by
  cases h.effect with
  | kept hi hs _ hheld =>
    refine ⟨Nat.le_of_eq hi.opened.symm, fun id hid => hi.opened ▸ hh id (hheld id hid),
      fun id hid => ?_⟩
    cases (Session.installed?_of_slot (.inl hs)).symm.trans hid
  | emptied hi hs hn =>
    refine ⟨Nat.le_of_eq hi.opened.symm, fun id hid => ?_, fun id hid => ?_⟩
    · cases hn.symm.trans hid
    · cases (Session.installed?_of_slot (.inr hs)).symm.trans hid
  | installed id hi hc hs hn =>
    refine ⟨Nat.le_of_eq hi.opened.symm, fun id' hid => ?_, fun id' hid => ?_⟩
    · cases hn.symm.trans hid
    · unfold Session.installed? at hid
      split at hid
      · cases hid
      · obtain rfl : id = id' := Option.some.inj (hs.symm.trans hid)
        exact hi.opened ▸ hh id hc
  | opened remote he _ hn =>
    have hlen : s'.links.length = s.links.length + 1 := by rw [he, Session.length_addLink]
    have hslot : s'.slot = s.slot := by rw [he]; rfl
    refine ⟨by omega, fun id hid => ?_, fun id hid => ?_⟩
    · obtain rfl : s.links.length = id := Option.some.inj (hn.symm.trans hid)
      exact hlen ▸ Nat.lt_succ_self _
    · cases (Session.installed?_of_slot (.inl hslot)).symm.trans hid

end OwnerPhase

namespace ShutdownPhase

def closes? : ShutdownPhase → Option LinkId
  | closing taken => taken
  | _ => none

variable (call : ShutdownPhase) (s : Session)

theorem released {id : LinkId} (hr : s.slot = some id ∨ s.isUp id = false ∨ call.closes? = some id) :
    (call.step s).2.slot = some id ∨ (call.step s).2.isUp id = false ∨
      (call.step s).1.closes? = some id := by
  cases call with
  | storing => exact hr.imp_right fun ho => .inl (ho.resolve_right nofun)
  | taking =>
    rcases hr with hs | hd | hc
    · exact .inr (.inr hs)
    · exact .inr (.inl hd)
    · cases hc
  | closing taken =>
    refine (hr.imp (s.slot_closeLink taken).trans fun ho => ?_)
    exact .inl (Session.isUp_closeLink_eq_false taken ho)
  | done => exact hr

theorem closed_step (h : call ≠ .storing → s.state = .closed) : (call.step s).2.state = .closed := by
  cases call with
  | storing => rfl
  | taking | done => exact h nofun
  | closing taken => cases taken <;> exact h nofun

end ShutdownPhase

/-! ### All calls together -/

namespace Supervisor

def Closes (s : Supervisor) (id : LinkId) : Prop :=
  (∃ call ∈ s.owner, call.closes? = some id) ∨ ∃ call ∈ s.shutdowns, call.closes? = some id

structure Sound (s : Supervisor) : Prop where
  opened : ∀ id ∈ s.installed, id < s.session.links.length
  held : ∀ call ∈ s.owner, ∀ id, call.held? = some id → id < s.session.links.length
  released : ∀ id ∈ s.installed,
    s.session.slot = some id ∨ s.session.isUp id = false ∨ s.Closes id
  connected : s.session.state = .connected → s.session.slot ≠ none
  closed : s.session.state = .closed →
    s.session.slot = none ∨ .taking ∈ s.shutdowns ∨ ∃ call ∈ s.owner, call.Withdraws
  begun : ∀ call ∈ s.shutdowns, call ≠ .storing → s.session.state = .closed
  safe : ∀ call ∈ s.owner, call.Safe s.session

variable {s : Supervisor}

theorem sound_new (config : Config) : (new config).Sound where
  opened := nofun
  held := nofun
  released := nofun
  connected := nofun
  closed := nofun
  begun := nofun
  safe := nofun

theorem slot_of_installed? {before after : Session} {id : LinkId}
    (h : before.installed? after = some id) : after.slot = some id := by
  unfold Session.installed? at h
  split at h
  · cases h
  · exact h

theorem Sound.owner_step (h : s.Sound) {call call' : OwnerPhase} {session : Session}
    (ho : s.owner = some call) (hk : call.Step s.session call' session) :
    { s with
      session
      owner := some call'
      installed := s.installed ++ (s.session.installed? session).toList }.Sound := by
  have hsafe := h.safe call ho
  obtain ⟨hle, hheld, hnew⟩ := hk.opened (h.held call ho)
  refine ⟨fun id hid => ?_, fun _ hc => ?_, fun id hid => ?_, hk.connected hsafe h.connected,
    fun hst => ?_, fun c hc hn => hk.closed (h.begun c hc hn), fun _ hc => ?_⟩
  · rcases List.mem_append.mp hid with hid | hid
    · exact Nat.lt_of_lt_of_le (h.opened id hid) hle
    · exact hnew id (Option.mem_toList.mp hid)
  · cases hc
    exact hheld
  · rcases List.mem_append.mp hid with hid | hid
    · have hstep := hk.released (h.opened id hid)
      rcases h.released id hid with hs | hd | ⟨c, hc, hcl⟩ | hclosing
      · exact (hstep (.inl hs)).imp_right (.imp_right fun hcl => .inl ⟨call', rfl, hcl⟩)
      · exact (hstep (.inr (.inl hd))).imp_right (.imp_right fun hcl => .inl ⟨call', rfl, hcl⟩)
      · obtain rfl : call = c := Option.some.inj (ho.symm.trans hc)
        exact (hstep (.inr (.inr hcl))).imp_right (.imp_right fun hcl => .inl ⟨call', rfl, hcl⟩)
      · exact .inr (.inr (.inr hclosing))
    · exact .inl (slot_of_installed? (Option.mem_toList.mp hid))
  · have hwas : s.session.state = .closed →
        s.session.slot = none ∨ .taking ∈ s.shutdowns ∨ call.Withdraws := by
      intro hst
      refine (h.closed hst).imp_right (.imp_right fun ⟨c, hc, hw⟩ => ?_)
      obtain rfl : call = c := Option.some.inj (ho.symm.trans hc)
      exact hw
    exact (hk.emptied hsafe hwas hst).imp_right (.imp_right fun hw => ⟨call', rfl, hw⟩)
  · cases hc
    exact hk.safe hsafe

theorem Sound.shutting_step (h : s.Sound) {i : Nat} {call : ShutdownPhase}
    (hi : s.shutdowns[i]? = some call) :
    { s with
      session := (call.step s.session).2
      shutdowns := s.shutdowns.set i (call.step s.session).1 }.Sound := by
  have hmem : call ∈ s.shutdowns := List.mem_of_getElem? hi
  have hclosed : (call.step s.session).2.state = .closed := call.closed_step _ (h.begun call hmem)
  have hnew : (call.step s.session).1 ∈ s.shutdowns.set i (call.step s.session).1 :=
    List.mem_set (List.getElem?_eq_some_iff.mp hi).1 _
  obtain ⟨hsame, hslot⟩ := call.effect s.session
  refine ⟨fun id hid => hsame.opened ▸ h.opened id hid,
    fun c hc id hid => hsame.opened ▸ h.held c hc id hid, fun id hid => ?_,
    fun hst => (by cases hst.symm.trans hclosed), fun _ => ?_, fun _ _ _ => hclosed,
    fun c hc => (h.safe c hc).shut hclosed hslot⟩
  · have hstep : s.session.slot = some id ∨ s.session.isUp id = false ∨ call.closes? = some id →
        (call.step s.session).2.slot = some id ∨ (call.step s.session).2.isUp id = false ∨
          Closes { s with
            session := (call.step s.session).2
            shutdowns := s.shutdowns.set i (call.step s.session).1 } id :=
      fun hr => (call.released s.session hr).imp_right (.imp_right fun hcl => .inr ⟨_, hnew, hcl⟩)
    rcases h.released id hid with hs | hd | hclosing | ⟨c, hc, hcl⟩
    · exact hstep (.inl hs)
    · exact hstep (.inr (.inl hd))
    · exact .inr (.inr (.inl hclosing))
    · rcases mem_set_or_eq hi hc with hc | rfl
      · exact .inr (.inr (.inr ⟨c, hc, hcl⟩))
      · exact hstep (.inr (.inr hcl))
  · -- who empties the slot: this call, another shutdown or the owner
    cases call with
    | storing => exact .inr (.inl hnew)
    | taking => exact .inl rfl
    | closing taken =>
      rcases h.closed (h.begun _ hmem nofun) with hs | ht | hw
      · exact .inl ((s.session.slot_closeLink taken).trans hs)
      · exact .inr (.inl ((mem_set_or_eq hi ht).resolve_right nofun))
      · exact .inr (.inr hw)
    | done =>
      rcases h.closed (h.begun _ hmem nofun) with hs | ht | hw
      · exact .inl hs
      · exact .inr (.inl ((mem_set_or_eq hi ht).resolve_right nofun))
      · exact .inr (.inr hw)

theorem Sound.aside (h : s.Sound) {session : Session} (hst : session.state = s.session.state)
    (hs : session.slot = s.session.slot) (hl : session.links.length = s.session.links.length)
    (hu : ∀ id, session.isUp id = true → s.session.isUp id = true) : { s with session }.Sound where
  opened := fun id hid => hl ▸ h.opened id hid
  held := fun c hc id hid => hl ▸ h.held c hc id hid
  released := fun id hid => (h.released id hid).imp hs.trans (.imp_left fun hd =>
    Bool.eq_false_iff.mpr fun hup => Bool.eq_false_iff.mp hd (hu id hup))
  connected := fun hc => hs ▸ h.connected (hst ▸ hc)
  closed := fun hc => hs ▸ h.closed (hst ▸ hc)
  begun := fun c hc hn => hst.trans (h.begun c hc hn)
  safe := fun c hc => (h.safe c hc).congr hst hs

theorem not_withdraws_of_isIdle (hidle : s.isIdle = true) :
    ∀ call ∈ s.owner, call.closes? = none ∧ ¬call.Withdraws := by
  rintro call hc
  unfold isIdle at hidle
  cases call with
  | ended result => exact ⟨rfl, id⟩
  | announcing | dialing | unlinking | closingOld | retrying | installing | closingReplaced | confirming
  | withdrawing | closingWithdrawn | fallingBack | givingUp =>
    rw [Option.mem_def.mp hc] at hidle
    cases hidle

theorem Sound.call (h : s.Sound) (p : Purpose) : (s.call p).Sound := by
  unfold Supervisor.call
  split
  next hidle =>
    have hnone := not_withdraws_of_isIdle hidle
    refine ⟨h.opened, fun c hc id hid => ?_, fun id hid => ?_, h.connected, fun hst => ?_, h.begun,
      fun c hc => ?_⟩
    · cases hc
      cases hid
    · rcases h.released id hid with hs | hd | ⟨c, hc, hcl⟩ | hclosing
      · exact .inl hs
      · exact .inr (.inl hd)
      · cases (hnone c hc).1.symm.trans hcl
      · exact .inr (.inr (.inr hclosing))
    · rcases h.closed hst with hs | ht | ⟨c, hc, hw⟩
      · exact .inl hs
      · exact .inr (.inl ht)
      · exact absurd hw (hnone c hc).2
    · cases hc
      trivial
  next => exact h

theorem Sound.shutdown (h : s.Sound) : (s.step .shutdown).Sound := by
  refine ⟨h.opened, h.held, fun id hid => ?_, h.connected, fun hst => ?_, fun c hc hn => ?_, h.safe⟩
  · refine (h.released id hid).imp_right (.imp_right (.imp_right fun ⟨c, hc, hcl⟩ => ?_))
    exact ⟨c, List.mem_append_left _ hc, hcl⟩
  · exact (h.closed hst).imp_right (.imp_left (List.mem_append_left _))
  · rcases List.mem_append.mp hc with hc | hc
    · exact h.begun c hc hn
    · exact absurd (List.mem_singleton.mp hc) hn

theorem Sound.step (h : s.Sound) (turn : Turn) : (s.step turn).Sound := by
  cases turn with
  | call p => exact h.call p
  | owner input =>
    change (s.stepOwner input).Sound
    fun_cases stepOwner s input with
    | case1 => exact h
    | case2 call ho call' session hs =>
      have hk := call.step_kind input s.session
      rw [hs] at hk
      exact h.owner_step ho hk
  | shutdown => exact h.shutdown
  | shutting i =>
    change (s.stepShutdown i).Sound
    fun_cases stepShutdown s i with
    | case1 => exact h
    | case2 call hi call' session hs =>
      have hk := h.shutting_step hi
      rw [hs] at hk
      exact hk
  | cancel => exact h.aside rfl rfl rfl fun _ => id
  | lose id =>
    have hb := s.session.beside_updateLink id (f := Link.markDown) fun _ _ hu => by cases hu
    exact h.aside hb.state hb.slot hb.opened hb.up

theorem Sound.run (h : s.Sound) (turns : List Turn) : (s.run turns).Sound := by
  unfold Supervisor.run
  induction turns generalizing s with
  | nil => exact h
  | cons turn turns ih => exact ih (h.step turn)

theorem closed_step (h : s.Sound) (hc : s.session.state = .closed) (turn : Turn) :
    (s.step turn).session.state = .closed := by
  cases turn with
  | call p =>
    change (s.call p).session.state = .closed
    unfold Supervisor.call
    split <;> exact hc
  | owner input =>
    change (s.stepOwner input).session.state = .closed
    fun_cases stepOwner s input with
    | case1 => exact hc
    | case2 call ho call' session hs =>
      have hk := call.step_kind input s.session
      rw [hs] at hk
      exact hk.closed hc
  | shutting i =>
    change (s.stepShutdown i).session.state = .closed
    fun_cases stepShutdown s i with
    | case1 => exact hc
    | case2 call hi call' session hs =>
      have hst := call.closed_step s.session (h.begun call (List.mem_of_getElem? hi))
      rw [hs] at hst
      exact hst
  | shutdown | cancel | lose => exact hc

theorem closed_run (h : s.Sound) (hc : s.session.state = .closed) (turns : List Turn) :
    (s.run turns).session.state = .closed := by
  unfold Supervisor.run
  induction turns generalizing s with
  | nil => exact hc
  | cons turn turns ih => exact ih (h.step turn) (closed_step h hc turn)

/-- Whoever calls when, and whatever the network answers: closed is for good, and connected means that the
slot is occupied. Once no call is under way, each link that ever was in the slot is still there or has
been marked down, and the slot of a closed session is empty. -/
theorem closed_for_good_and_links_released (config : Config) (turns : List Turn) :
    (((new config).run turns).session.state = .closed →
      ∀ more, (((new config).run turns).run more).session.state = .closed) ∧
    (((new config).run turns).session.state = .connected →
      ∃ id, ((new config).run turns).session.slot = some id) ∧
    (((new config).run turns).IsQuiet →
      (∀ id ∈ ((new config).run turns).installed,
        ((new config).run turns).session.slot ≠ some id →
          ∃ l, ((new config).run turns).session.link? id = some l ∧ l.up = false) ∧
      (((new config).run turns).session.state = .closed →
        ((new config).run turns).session.slot = none)) := by
  have h := (sound_new config).run turns
  refine ⟨fun hc more => closed_run h hc more, fun hc => ?_,
    fun ⟨hidle, hdone⟩ => ⟨fun id hid hs => ?_, fun hc => ?_⟩⟩
  · exact Option.ne_none_iff_exists'.mp (h.connected hc)
  · have hlink := List.getElem?_eq_getElem (h.opened id hid)
    refine ⟨_, hlink, ?_⟩
    rcases h.released id hid with hslot | hd | ⟨c, hc, hcl⟩ | ⟨c, hc, hcl⟩
    · exact absurd hslot hs
    · simpa only [Session.isUp, Session.link?, hlink, Option.any_some] using hd
    · cases (not_withdraws_of_isIdle hidle c hc).1.symm.trans hcl
    · cases hdone c hc ▸ hcl
  · rcases h.closed hc with hslot | ht | ⟨c, hc, hw⟩
    · exact hslot
    · cases hdone _ ht
    · exact absurd hw (not_withdraws_of_isIdle hidle c hc).2

end Supervisor
end OrderEntry

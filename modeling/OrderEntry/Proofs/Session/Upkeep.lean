import OrderEntry.Proofs.Session.ClientSteps

/-! Who looks after the link in service. Until a client is told to stop, a connect or a reconnect ends with a
link in the slot that is up or was taken down by a failed write since, or it ends without any link; then
a connect leaves the slot empty and a reconnect closes the client. -/

namespace OrderEntry
namespace Session

/-- A link that nobody but a failed write has taken down, `cut` being those that were. -/
def Serves (s : Session) (cut : List LinkId) (id : LinkId) : Prop :=
  id < s.links.length ∧ (s.isUp id = true ∨ id ∈ cut)

def Vacant (s : Session) : Prop := s.state ≠ .closed ∧ s.slot = none

def Served (s : Session) (cut : List LinkId) : Prop :=
  s.state ≠ .closed ∧ ∃ id, s.slot = some id ∧ s.Serves cut id

def InService (s : Session) (cut : List LinkId) : Prop :=
  s.state = .connected ∧ ∃ id, s.slot = some id ∧ s.Serves cut id

structure Steady (cut : List LinkId) (s s' : Session) : Prop where
  beside : s.Beside s'
  stays : ∀ id, s.isUp id = true → s'.isUp id = true ∨ id ∈ cut

variable {s s' : Session} {cut cut' : List LinkId}

theorem Steady.of_links (hb : s.Beside s') (hl : s'.links = s.links) : Steady cut s s' := by
  refine ⟨hb, fun id hu => .inl ?_⟩
  unfold isUp link? at hu ⊢
  rw [hl]
  exact hu

theorem Steady.serves (hs : Steady cut' s s') (hc : cut ⊆ cut') {id : LinkId}
    (h : s.Serves cut id) : s'.Serves cut' id := by
  obtain ⟨hlt, hu | hm⟩ := h
  · exact ⟨hs.beside.opened ▸ hlt, hs.stays id hu⟩
  · exact ⟨hs.beside.opened ▸ hlt, .inr (hc hm)⟩

theorem Steady.vacant (hs : Steady cut s s') (h : s.Vacant) : s'.Vacant :=
  ⟨hs.beside.state ▸ h.1, hs.beside.slot ▸ h.2⟩

theorem Steady.served (hs : Steady cut' s s') (hc : cut ⊆ cut') (h : s.Served cut) :
    s'.Served cut' := by
  obtain ⟨ho, id, hi, hv⟩ := h
  exact ⟨hs.beside.state ▸ ho, id, hs.beside.slot ▸ hi, hs.serves hc hv⟩

theorem Steady.inService (hs : Steady cut' s s') (hc : cut ⊆ cut') (h : s.InService cut) :
    s'.InService cut' := by
  obtain ⟨ho, id, hi, hv⟩ := h
  exact ⟨hs.beside.state ▸ ho, id, hs.beside.slot ▸ hi, hs.serves hc hv⟩

theorem steady_readLink {id : LinkId} {reading : Option Reading}
    (h : s.readLink id = (reading, s')) (hr : ∀ r, reading = some r → Link.endsLink r = false) :
    Steady cut s s' := by
  refine ⟨beside_readLink h, fun id' hu => .inl ?_⟩
  rcases readLink_cases h with ⟨_, _, rfl⟩ | ⟨l, hl, he, rfl⟩
  · exact hu
  · rw [s.isUp_updateLink id id', hu]
    intro l' hl'
    obtain rfl : l = l' := Option.some.inj (hl.symm.trans hl')
    have hn : l.read.1.any Link.endsLink = false := by
      rw [← he]
      rcases reading with _ | r
      · rfl
      · exact hr r rfl
    rw [Link.read_up, hn, Bool.not_false, Bool.and_true]

theorem serves_addLink (s : Session) (cut : List LinkId) (remote : String) :
    (s.addLink (s.newLink remote)).2.Serves cut s.links.length := by
  refine ⟨by rw [length_addLink]; exact Nat.lt_succ_self _, .inl ?_⟩
  unfold isUp
  rw [link?_addLink, if_pos rfl]
  rfl

end Session

namespace OwnerPhase

def Fits (p : Purpose) (cut : List LinkId) (s : Session) : OwnerPhase → Prop
  | announcing p' _ => p' = p ∧ s.state ≠ .closed ∧ (p = .connect → s.slot = none)
  | dialing | fallingBack .. => p = .connect ∧ s.Vacant
  | unlinking => p = .reconnect ∧ s.state ≠ .closed
  | closingOld _ | givingUp _ => p = .reconnect ∧ s.Vacant
  | retrying (.waiting ..) | retrying (.dialing ..) | retrying (.ended .exhausted) =>
    p = .reconnect ∧ s.Vacant
  | retrying (.ended (.connected _ id)) => p = .reconnect ∧ s.Vacant ∧ s.Serves cut id
  | installing p' _ id => p' = p ∧ s.Vacant ∧ s.Serves cut id
  | closingReplaced p' _ old => p' = p ∧ old = none ∧ s.Served cut
  | confirming p' _ _ => p' = p ∧ s.Served cut
  | ended (.ok _) => s.InService cut
  | ended (.error e) =>
    match p with
    | .connect => s.Vacant
    | .reconnect => s.state = .closed ∧ e = .maxReconnects s.config.maxReconnectAttempts
  -- only a client that was told to stop gets here
  | retrying (.ended .cancelled) | withdrawing | closingWithdrawn _ => False

variable {p : Purpose} {cut cut' : List LinkId} {s s' : Session} {call call' : OwnerPhase}

theorem Fits.steady (h : call.Fits p cut s) (hs : s.Steady cut' s') (hc : cut ⊆ cut') :
    call.Fits p cut' s' := by
  have hstate := hs.beside.state
  have hslot := hs.beside.slot
  cases call with
  | announcing p' seen => exact ⟨h.1, hstate ▸ h.2.1, fun hp => hslot ▸ h.2.2 hp⟩
  | unlinking => exact ⟨h.1, hstate ▸ h.2⟩
  | dialing | fallingBack | closingOld | givingUp => exact ⟨h.1, hs.vacant h.2⟩
  | retrying phase =>
    cases phase with
    | waiting | dialing => exact ⟨h.1, hs.vacant h.2⟩
    | ended outcome =>
      cases outcome with
      | connected k id => exact ⟨h.1, hs.vacant h.2.1, hs.serves hc h.2.2⟩
      | cancelled => exact h.elim
      | exhausted => exact ⟨h.1, hs.vacant h.2⟩
  | installing => exact ⟨h.1, hs.vacant h.2.1, hs.serves hc h.2.2⟩
  | closingReplaced => exact ⟨h.1, h.2.1, hs.served hc h.2.2⟩
  | confirming => exact ⟨h.1, hs.served hc h.2⟩
  | ended result =>
    cases result with
    | ok k => exact hs.inService hc h
    | error e =>
      cases p with
      | connect => exact hs.vacant h
      | reconnect => exact ⟨hstate ▸ h.1, hs.beside.config ▸ h.2⟩
  | withdrawing | closingWithdrawn => exact h.elim

theorem fits_after (r : Retry) (k : Nat) (d : Duration) (hp : p = .reconnect) (hv : s.Vacant) :
    (retrying (r.after k d)).Fits p cut s := by
  unfold Retry.after
  split
  · exact ⟨hp, hv⟩
  · exact ⟨hp, hv⟩

theorem fits_opening (hp : p = .connect → s.slot = none) :
    p.opening.Fits p cut { s with state := p.announced } := by
  cases p with
  | connect => exact ⟨rfl, nofun, hp rfl⟩
  | reconnect => exact ⟨rfl, nofun⟩

theorem inService_serve (p : Purpose) (k : Nat) (h : s.Served cut) :
    (s.serve p k).InService cut := by
  obtain ⟨_, id, hi, hv⟩ := h
  cases p with
  | connect => exact ⟨rfl, id, hi, hv⟩
  | reconnect => exact ⟨rfl, id, hi, hv⟩

theorem Fits.step (h : call.Step s call' s') (hf : call.Fits p cut s)
    (hc : s.cancelled = false) : call'.Fits p cut s' := by
  cases h with
  | stay => exact hf
  | announceLooked => exact hf
  -- nobody else closes the client, so no exchange is refused
  | announceRefused hcl => exact absurd hcl hf.2.1
  | announced =>
    obtain ⟨rfl, _, hp⟩ := hf
    exact fits_opening hp
  | dialFailed => exact hf
  | dialed remote => exact ⟨hf.1.symm, hf.2, s.serves_addLink cut remote⟩
  | unlinked => exact ⟨hf.1, hf.2, rfl⟩
  | @oldClosed old =>
    refine fits_after _ 0 _ hf.1 ?_
    cases old with
    | none => exact hf.2
    | some old => exact hf.2
  | delayOver => exact hf
  | redialFailed => exact fits_after _ _ _ hf.1 hf.2
  | redialed remote => exact ⟨hf.1, hf.2, s.serves_addLink cut remote⟩
  | retryCancelled hx => cases hc.symm.trans hx
  | retryConnected => exact ⟨hf.1.symm, hf.2⟩
  | retryStopped => exact hf.elim
  | retryExhausted => exact hf
  | installed => exact ⟨hf.1, hf.2.1.2, hf.2.1.1, _, rfl, hf.2.2⟩
  | replacedClosed =>
    obtain ⟨hp, rfl, hv⟩ := hf
    exact ⟨hp, hv⟩
  | confirmLooked => exact hf
  | confirmRefused hcl => exact absurd hcl hf.2.1
  | @confirmed p' k => exact inService_serve p' k hf.2
  | withdrawn => exact hf.elim
  | withdrawnClosed => exact hf.elim
  | fallBackLooked => exact hf
  | fallBackRefused hcl => exact absurd hcl hf.2.1
  | fellBack =>
    obtain ⟨rfl, _, hs⟩ := hf
    exact ⟨nofun, hs⟩
  | giveUpLooked => exact hf
  | giveUpRefused hcl => exact absurd hcl hf.2.1
  | gaveUp =>
    obtain ⟨rfl, _⟩ := hf
    exact ⟨rfl, rfl⟩

end OwnerPhase
end OrderEntry

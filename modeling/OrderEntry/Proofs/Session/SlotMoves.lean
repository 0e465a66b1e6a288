import OrderEntry.Proofs.Session.ClientSteps

/-! What the tasks do to the slot and to the reading sides of the links. A call opens a link, holds it outside
the slot and then installs it; nothing but a read takes arrivals in. -/

namespace OrderEntry
namespace Session

structure SameInput (s s' : Session) : Prop where
  config : s'.config = s.config
  opened : s'.links.length = s.links.length
  received : s'.counters.received = s.counters.received
  input : ∀ id, s'.input? id = s.input? id

variable {s s' : Session}

theorem SameInput.refl (s : Session) : s.SameInput s := ⟨rfl, rfl, rfl, fun _ => rfl⟩

theorem SameInput.of_beside (hb : s.Beside s') (hi : ∀ id, s'.input? id = s.input? id) :
    s.SameInput s' := ⟨hb.config, hb.opened, hb.received, hi⟩

theorem sameInput_closeLink (s : Session) (old : Option LinkId) : s.SameInput (s.closeLink old) :=
  .of_beside (s.beside_closeLink old) fun id => s.input?_closeLink id old

theorem sameInput_markDown (s : Session) (id : LinkId) : s.SameInput (s.updateLink id Link.markDown) where
  config := rfl
  opened := s.length_updateLink id _
  received := rfl
  input := fun id' => s.input?_updateLink id id' fun _ _ => ⟨rfl, rfl⟩

theorem sameInput_noteError (s : Session) (e : ClientError) : s.SameInput (s.noteError e) :=
  ⟨rfl, rfl, rfl, fun _ => rfl⟩

theorem slot_closeLink (s : Session) (old : Option LinkId) : (s.closeLink old).slot = s.slot := by
  cases old <;> rfl

theorem input?_of_links (h : s'.links = s.links) (id : LinkId) : s'.input? id = s.input? id := by
  unfold input? link?
  rw [h]

theorem input?_newLink (s : Session) (remote : String) :
    (s.addLink (s.newLink remote)).2.input? s.links.length =
      some (.new s.config.transport s.config.wireFormat, []) := by
  unfold input?
  rw [link?_addLink, if_pos rfl]
  rfl

theorem lt_of_input? {id : LinkId} {side : LinkReader × List Arrival}
    (h : s.input? id = some side) : id < s.links.length := by
  rcases Nat.lt_or_ge id s.links.length with hlt | hge
  · exact hlt
  · unfold input? at h
    rw [s.link?_eq_none id hge] at h
    cases h

theorem input?_readLink {id : LinkId} {r : LinkReader} {a : List Arrival}
    {reading : Option Reading} (h : s.input? id = some (r, a))
    (hr : s.readLink id = (reading, s')) :
    reading = (r.next a).1 ∧ s'.input? id = some (r.next a).2 := by
  rcases readLink_cases hr with ⟨hl, _, _⟩ | ⟨l, hl, he, rfl⟩
  · unfold input? at h
    rw [hl] at h
    cases h
  · unfold input? at h ⊢
    rw [hl] at h
    cases h
    rw [link?_updateLink, if_pos rfl, hl]
    exact ⟨he, rfl⟩

theorem input?_readLink_of_ne {id id' : LinkId} {reading : Option Reading}
    (hr : s.readLink id = (reading, s')) (hn : id ≠ id') : s'.input? id' = s.input? id' := by
  rcases readLink_cases hr with ⟨_, _, rfl⟩ | ⟨l, _, _, rfl⟩
  · rfl
  · unfold input?
    rw [link?_updateLink, if_neg hn]

end Session

namespace OwnerPhase

def held? : OwnerPhase → Option LinkId
  | retrying (.ended (.connected _ id)) => some id
  | installing _ _ id => some id
  | _ => none

/-- Whatever the slot holds, it is not a link that a reconnect is there to replace. -/
def Renewed : OwnerPhase → Prop
  | announcing .reconnect _ | unlinking | ended (.error _) => False
  | _ => True

inductive Effect (call : OwnerPhase) (s : Session) (call' : OwnerPhase) (s' : Session) : Prop
  | kept (hi : s.SameInput s') (hs : s'.slot = s.slot) (hr : call'.Renewed → call.Renewed)
      (hh : ∀ id, call'.held? = some id → call.held? = some id)
  | emptied (hi : s.SameInput s') (hs : s'.slot = none) (hh : call'.held? = none)
  | installed (id : LinkId) (hi : s.SameInput s') (hc : call.held? = some id)
      (hs : s'.slot = some id) (hh : call'.held? = none)
  | opened (remote : String) (he : s' = (s.addLink (s.newLink remote)).2) (hr : call.Renewed)
      (hh : call'.held? = some s.links.length)

variable {call call' : OwnerPhase} {s s' : Session}

theorem held?_after (r : Retry) (k : Nat) (d : Duration) : (retrying (r.after k d)).held? = none := by
  unfold Retry.after
  split <;> rfl

theorem Step.effect (h : call.Step s call' s') : Effect call s call' s' := by
  cases h with
  | stay => exact .kept (.refl s) rfl id fun _ => id
  | @announceLooked p => cases p <;> exact .kept (.refl s) rfl id nofun
  | announceRefused => exact .kept (.refl s) rfl nofun nofun
  | @announced p => cases p <;> exact .kept ⟨rfl, rfl, rfl, fun _ => rfl⟩ rfl id nofun
  | dialFailed => exact .kept (.refl s) rfl id nofun
  | dialed remote => exact .opened remote rfl trivial rfl
  | unlinked => exact .emptied ⟨rfl, rfl, rfl, fun _ => rfl⟩ rfl rfl
  | @oldClosed old =>
    refine .kept (s.sameInput_closeLink old) (s.slot_closeLink old) (fun _ => trivial) fun id hh => ?_
    cases (held?_after _ 0 _).symm.trans hh
  | delayOver => exact .kept (.refl s) rfl id nofun
  | redialFailed =>
    refine .kept ⟨rfl, rfl, rfl, fun _ => rfl⟩ rfl (fun _ => trivial) fun id hh => ?_
    cases (held?_after _ _ _).symm.trans hh
  | redialed remote => exact .opened remote rfl trivial rfl
  | retryCancelled => exact .kept (.refl s) rfl (fun _ => trivial) nofun
  | retryConnected => exact .kept (.refl s) rfl (fun _ => trivial) fun _ hh => hh
  | retryStopped => exact .kept (.refl s) rfl nofun nofun
  | retryExhausted => exact .kept (.refl s) rfl (fun _ => trivial) nofun
  | @installed p k id => exact .installed id ⟨rfl, rfl, rfl, fun _ => rfl⟩ rfl rfl rfl
  | @replacedClosed p k old =>
    exact .kept (s.sameInput_closeLink old) (s.slot_closeLink old) (fun _ => trivial) nofun
  | confirmLooked => exact .kept (.refl s) rfl id nofun
  | confirmRefused => exact .kept (.refl s) rfl (fun _ => trivial) nofun
  | @confirmed p =>
    cases p <;> exact .kept ⟨rfl, rfl, rfl, fun _ => rfl⟩ rfl (fun _ => trivial) nofun
  | withdrawn => exact .emptied ⟨rfl, rfl, rfl, fun _ => rfl⟩ rfl rfl
  | @withdrawnClosed taken =>
    exact .kept (s.sameInput_closeLink taken) (s.slot_closeLink taken) nofun nofun
  | fallBackLooked => exact .kept (.refl s) rfl id nofun
  | fallBackRefused => exact .kept (.refl s) rfl nofun nofun
  | fellBack => exact .kept ⟨rfl, rfl, rfl, fun _ => rfl⟩ rfl nofun nofun
  | giveUpLooked => exact .kept (.refl s) rfl id nofun
  | giveUpRefused => exact .kept (.refl s) rfl nofun nofun
  | gaveUp => exact .kept ⟨rfl, rfl, rfl, fun _ => rfl⟩ rfl nofun nofun

end OwnerPhase

theorem ShutdownPhase.effect (call : ShutdownPhase) (s : Session) :
    s.SameInput (call.step s).2 ∧ ((call.step s).2.slot = s.slot ∨ (call.step s).2.slot = none) := by
  cases call with
  | storing => exact ⟨⟨rfl, rfl, rfl, fun _ => rfl⟩, .inl rfl⟩
  | taking => exact ⟨⟨rfl, rfl, rfl, fun _ => rfl⟩, .inr rfl⟩
  | closing taken => exact ⟨s.sameInput_closeLink taken, .inl (s.slot_closeLink taken)⟩
  | done => exact ⟨.refl s, .inl rfl⟩

end OrderEntry

import OrderEntry.Proofs.Session.Delivery
import OrderEntry.Proofs.Session.History

/-! Events are dispatched in the order of the wire. Main statement: in every run, what is dispatched is, link by
link in the order of installation, a first part of what a fresh decoder makes of the arrivals on that
link before anything fails there. -/

namespace OrderEntry

/-- The event that the loop dispatches between a read and its next round. -/
def ReaderPhase.dispatched? (before after : ReaderPhase) (s : Session) : Option (LinkId × Event) :=
  match before, after with
  | reading _ id, looking _ =>
    match (s.readLink id).1 with
    | some (.ok (some e)) => some (id, e)
    | _ => none
  | _, _ => none

def Session.installed? (before after : Session) : Option LinkId :=
  if after.slot = before.slot then none else after.slot

namespace Client

def dispatched? (before : Client) (_ : Move) (after : Client) : Option (LinkId × Event) :=
  before.reader.dispatched? after.reader before.session

def installed? (before : Client) (_ : Move) (after : Client) : Option LinkId :=
  before.session.installed? after.session

def arrived? (id : LinkId) (before : Client) (m : Move) (_ : Client) : Option Arrival :=
  match m with
  | .arrive id' a => before.session.arrivedBy id' a id
  | _ => none

end Client

variable {s s' : Session} {sent : List (LinkId × Event)} {installs : List LinkId}
  {arrived : LinkId → List Arrival}

namespace Session

def SlotHealthy (s : Session) (sent : List (LinkId × Event)) (arrived : LinkId → List Arrival) :
    Prop :=
  ∀ id, s.slot = some id → s.Healthy sent arrived id

theorem installed?_of_slot (h : s'.slot = s.slot ∨ s'.slot = none) : s.installed? s' = none := by
  unfold installed?
  rcases h with h | h
  · exact if_pos h
  · rw [h]
    split <;> rfl

theorem SlotHealthy.sameInput (h : s.SlotHealthy sent arrived) (hi : s.SameInput s')
    (hs : s'.slot = s.slot ∨ s'.slot = none) : s'.SlotHealthy sent arrived := by
  intro id hid
  rcases hs with hs | hs
  · exact (h id (hs ▸ hid)).of_input hi.config (hi.input id) rfl
  · cases hs.symm.trans hid

end Session

namespace OwnerPhase

def Holds (s : Session) (installs : List LinkId) (call : OwnerPhase) : Prop :=
  ∀ id, call.held? = some id → id < s.links.length ∧ id ∉ installs

variable {call call' : OwnerPhase}

theorem Effect.tracks (h : Effect call s call' s') (ht : s.Tracks sent installs arrived)
    (hh : call.Holds s installs) :
    s'.Tracks sent (installs ++ (s.installed? s').toList) arrived ∧
      call'.Holds s' (installs ++ (s.installed? s').toList) := by
  cases h with
  | kept hi hs _ hh' =>
    rw [Session.installed?_of_slot (.inl hs), Option.toList_none, List.append_nil]
    refine ⟨ht.sameInput hi (.inl hs), fun id hid => ?_⟩
    rw [hi.opened]
    exact hh id (hh' id hid)
  | emptied hi hs hn =>
    rw [Session.installed?_of_slot (.inr hs), Option.toList_none, List.append_nil]
    refine ⟨ht.sameInput hi (.inr hs), fun id hid => ?_⟩
    cases hn.symm.trans hid
  | installed id hi hc hs hn =>
    obtain ⟨hlt, hnew⟩ := hh id hc
    have hslot : s'.slot ≠ s.slot := by
      -- what the slot holds was installed before, and this link was not
      intro he
      have hlast := ht.slot id (he ▸ hs)
      exact hnew (List.mem_of_getLast? hlast)
    have hinst : s.installed? s' = some id := by
      unfold Session.installed?
      rw [if_neg hslot, hs]
    rw [hinst]
    refine ⟨ht.install hi hs hlt hnew, fun id' hid => ?_⟩
    cases hn.symm.trans hid
  | opened remote he _ hn =>
    have hs : s'.slot = s.slot := by rw [he]; rfl
    rw [Session.installed?_of_slot (.inl hs), Option.toList_none, List.append_nil]
    subst he
    refine ⟨ht.open_link remote, fun id hid => ?_⟩
    obtain rfl : s.links.length = id := Option.some.inj (hn.symm.trans hid)
    refine ⟨by rw [Session.length_addLink]; exact Nat.lt_succ_self _, fun hm => ?_⟩
    exact Nat.lt_irrefl _ (ht.opened _ hm)

theorem Effect.slotHealthy (h : Effect call s call' s') (ht : s.Tracks sent installs arrived)
    (hh : call.Holds s installs)
    (hs : (call'.Renewed → call.Renewed) → s.SlotHealthy sent arrived) :
    s'.SlotHealthy sent arrived := by
  cases h with
  | kept hi hk hr => exact (hs hr).sameInput hi (.inl hk)
  | emptied hi hk =>
    intro id hid
    cases hk.symm.trans hid
  | installed id hi hc hk =>
    obtain ⟨hlt, hnew⟩ := hh id hc
    intro id' hid
    obtain rfl : id = id' := Option.some.inj (hk.symm.trans hid)
    exact (ht.fresh id hlt hnew).of_input hi.config (hi.input id) rfl
  | opened remote he hr =>
    subst he
    exact fun id hid => (hs (fun _ => hr) id hid).opened _

end OwnerPhase

namespace ReaderPhase

def Follows (s : Session) (sent : List (LinkId × Event)) (installs : List LinkId)
    (arrived : LinkId → List Arrival) : ReaderPhase → Prop
  | idle | looking _ => s.SlotHealthy sent arrived
  | waiting _ wait => wait.IsOpen ∧ s.SlotHealthy sent arrived
  | reading _ id => installs.getLast? = some id ∧ s.Healthy sent arrived id
  | restoring _ call => (call.Renewed → s.SlotHealthy sent arrived) ∧ call.Holds s installs
  | tripping _ | submitting _ | reporting .. | stopped => True

variable {phase phase' : ReaderPhase}

theorem Follows.sameInput (h : phase.Follows s sent installs arrived) (hi : s.SameInput s')
    (hs : s'.slot = s.slot ∨ s'.slot = none) : phase.Follows s' sent installs arrived := by
  cases phase with
  | idle | looking => exact Session.SlotHealthy.sameInput h hi hs
  | waiting => exact ⟨h.1, h.2.sameInput hi hs⟩
  | reading f id => exact ⟨h.1, h.2.of_input hi.config (hi.input id) rfl⟩
  | restoring f call =>
    refine ⟨fun hr => (h.1 hr).sameInput hi hs, fun id hid => ?_⟩
    rw [hi.opened]
    exact h.2 id hid
  | tripping | submitting | reporting | stopped => trivial

theorem dispatched?_self (phase : ReaderPhase) (s : Session) : phase.dispatched? phase s = none := by
  cases phase <;> rfl

theorem Step.accept_of_dispatched? (h : phase.Step s phase' s') {id : LinkId} {e : Event}
    (hd : phase.dispatched? phase' s = some (id, e)) : s' = (s.readLink id).2.accept e := by
  cases h with
  | @event f id' _ s₁ e' hr =>
    dsimp only [dispatched?] at hd
    rw [hr] at hd
    cases hd
    rw [hr]
  | stay =>
    rw [dispatched?_self] at hd
    cases hd
  | lookStopped | found | lost | waited | unready | failedLast | failed | failedForGood
  | readStopped | restoring | restored | shutting | tripped | submitted | submitStopped
  | reported => cases hd

theorem Granted.dispatched?_eq_none (h : phase.Granted phase') (s : Session) :
    phase.dispatched? phase' s = none := by
  cases h with
  | same => exact dispatched?_self ..
  | report => rfl

theorem Granted.follows (h : phase.Granted phase') (hf : phase.Follows s sent installs arrived) :
    phase'.Follows s sent installs arrived := by
  cases h with
  | same => exact hf
  | report => trivial

theorem quiet (hd : phase.dispatched? phase' s = none) (hs : s'.slot = s.slot ∨ s'.slot = none)
    (h : s'.Tracks sent installs arrived ∧ phase'.Follows s' sent installs arrived) :
    s'.Tracks (sent ++ (phase.dispatched? phase' s).toList)
        (installs ++ (s.installed? s').toList) arrived ∧
      phase'.Follows s' (sent ++ (phase.dispatched? phase' s).toList)
        (installs ++ (s.installed? s').toList) arrived := by
  rw [hd, Session.installed?_of_slot hs, Option.toList_none, Option.toList_none, List.append_nil,
    List.append_nil]
  exact h

theorem follows_reading (ht : s.Tracks sent installs arrived) (hs : s.SlotHealthy sent arrived)
    {id : LinkId} (f : Nat) (hl : s.live? = some id) :
    (reading f id).Follows s sent installs arrived := by
  obtain ⟨hslot, _⟩ := (s.live?_eq_some_iff id).mp hl
  exact ⟨ht.slot id hslot, hs id hslot⟩

theorem Follows.arrive (h : phase.Follows s sent installs arrived) (id : LinkId) (a : Arrival) :
    phase.Follows (s.updateLink id (·.arrive a)) sent installs
      fun j => arrived j ++ (s.arrivedBy id a j).toList := by
  have hslot : s.SlotHealthy sent arrived → (s.updateLink id (·.arrive a)).SlotHealthy sent
      fun j => arrived j ++ (s.arrivedBy id a j).toList :=
    fun hs id' hid => (hs id' hid).arrive a
  cases phase with
  | idle | looking => exact hslot h
  | waiting => exact ⟨h.1, hslot h.2⟩
  | reading => exact ⟨h.1, h.2.arrive a⟩
  | restoring f call =>
    refine ⟨fun hr => hslot (h.1 hr), fun id' hid => ?_⟩
    rw [Session.length_updateLink]
    exact h.2 id' hid
  | tripping | submitting | reporting | stopped => trivial

theorem follows_waited (f : Nat) {wait : LinkWait} (ho : wait.IsOpen)
    (hs : s.SlotHealthy sent arrived) : (waited f wait).Follows s sent installs arrived := by
  cases wait with
  | checking | pausing => exact ⟨trivial, hs⟩
  | found | missing => exact ho.elim

theorem follows_afterReport (e : ClientError) (r : FatalReport) :
    (afterReport e r).Follows s sent installs arrived := by
  cases r <;> trivial

theorem tracks_readLink (ht : s.Tracks sent installs arrived) {id : LinkId}
    {reading : Option Reading} (hlast : installs.getLast? = some id)
    (hr : s.readLink id = (reading, s')) : s'.Tracks sent installs arrived := by
  have hb := Session.beside_readLink hr
  refine ht.of_input hb.config hb.opened hb.received (.inl hb.slot) fun id' hn => ?_
  refine Session.input?_readLink_of_ne hr ?_
  rintro rfl
  exact hn (List.mem_of_getLast? hlast)

theorem tracks_noteError (ht : s.Tracks sent installs arrived) {id : LinkId}
    {reading : Option Reading} (hlast : installs.getLast? = some id)
    (hr : s.readLink id = (reading, s')) (e : ClientError) :
    (s'.noteError e).slot = s.slot ∧ (s'.noteError e).Tracks sent installs arrived := by
  have hs := (s'.beside_noteError e).slot.trans (Session.beside_readLink hr).slot
  exact ⟨hs, (tracks_readLink ht hlast hr).sameInput (s'.sameInput_noteError e) (.inl rfl)⟩

theorem Follows.step (h : phase.Step s phase' s') (ht : s.Tracks sent installs arrived)
    (hf : phase.Follows s sent installs arrived) :
    s'.Tracks (sent ++ (phase.dispatched? phase' s).toList)
        (installs ++ (s.installed? s').toList) arrived ∧
      phase'.Follows s' (sent ++ (phase.dispatched? phase' s).toList)
        (installs ++ (s.installed? s').toList) arrived := by
  cases h with
  | stay => exact quiet (dispatched?_self ..) (.inl rfl) ⟨ht, hf⟩
  | lookStopped => exact quiet rfl (.inl rfl) ⟨ht, trivial⟩
  | found _ hl => exact quiet rfl (.inl rfl) ⟨ht, follows_reading ht hf _ hl⟩
  | lost => exact quiet rfl (.inl rfl) ⟨ht, trivial, hf⟩
  | @waited f wait _ input =>
    obtain ⟨ho, hs⟩ := hf
    refine quiet rfl (.inl rfl) ⟨ht, ?_⟩
    rcases LinkWait.step_cases input s ho with hw | hw | ⟨id, hw, hl⟩
    · exact follows_waited f hw hs
    · rw [hw]
      trivial
    · rw [hw]
      exact follows_reading ht hs f hl
  | unready hr =>
    refine quiet rfl (.inl (Session.beside_readLink hr).slot) ⟨tracks_readLink ht hf.1 hr, ?_⟩
    exact ⟨hf.1, hf.2.unready hr⟩
  | @event f id _ s₁ e hr =>
    obtain ⟨hlast, hh⟩ := hf
    have hd : (reading f id).dispatched? (looking 0) s = some (id, e) := by
      dsimp only [dispatched?]
      rw [hr]
    have hslot : (s₁.accept e).slot = s.slot :=
      (s₁.slot_accept e).trans (Session.beside_readLink hr).slot
    rw [hd, Session.installed?_of_slot (.inl hslot), Option.toList_none, List.append_nil]
    refine ⟨ht.event hlast hh hr, fun id' hid => ?_⟩
    -- the slot still holds the link that was read, as the last one that was installed
    have hlast' := ht.slot id' (hslot ▸ hid)
    obtain rfl : id = id' := Option.some.inj (hlast.symm.trans hlast')
    exact hh.event hr
  | @failedLast f id _ s₁ r e hr =>
    obtain ⟨hs, ht'⟩ := tracks_noteError ht hf.1 hr e
    exact quiet rfl (.inl hs) ⟨ht', trivial⟩
  | @failed f id _ s₁ r e hr =>
    obtain ⟨hs, ht'⟩ := tracks_noteError ht hf.1 hr e
    -- the call has yet to take the failed link out of the slot
    exact quiet rfl (.inl hs) ⟨ht', nofun, nofun⟩
  | @failedForGood f id _ s₁ r e hr =>
    obtain ⟨hs, ht'⟩ := tracks_noteError ht hf.1 hr e
    have hm := (s₁.noteError e).sameInput_markDown id
    exact quiet rfl (.inl hs) ⟨ht'.sameInput hm (.inl rfl), trivial⟩
  | readStopped => exact quiet rfl (.inl rfl) ⟨ht, trivial⟩
  | @restoring f call call' _ _ hs =>
    obtain ⟨hr, hh⟩ := hf
    have he := hs.effect
    obtain ⟨ht', hh'⟩ := he.tracks ht hh
    have hd : (restoring f call).dispatched? (restoring f call') s = none := rfl
    rw [hd, Option.toList_none, List.append_nil]
    exact ⟨ht', fun hr' => he.slotHealthy ht hh fun hback => hr (hback hr'), hh'⟩
  | @restored f result =>
    refine quiet rfl (.inl rfl) ⟨ht, ?_⟩
    cases result with
    | ok k => exact hf.1 trivial
    | error e => cases e <;> trivial
  | @shutting call =>
    obtain ⟨hi, hs⟩ := call.effect s
    exact quiet rfl hs ⟨ht.sameInput hi hs, trivial⟩
  | tripped => exact quiet rfl (.inl rfl) ⟨ht, trivial⟩
  | @submitted e _ r errors =>
    have hi : s.SameInput (s.withErrors errors) := ⟨rfl, rfl, rfl, fun _ => rfl⟩
    exact quiet rfl (.inl rfl) ⟨ht.sameInput hi (.inl rfl), follows_afterReport e r⟩
  | submitStopped => exact quiet rfl (.inl rfl) ⟨ht, trivial⟩
  | @reported e _ r r' i errors =>
    have hi : s.SameInput (s.withErrors errors) := ⟨rfl, rfl, rfl, fun _ => rfl⟩
    exact quiet rfl (.inl rfl) ⟨ht.sameInput hi (.inl rfl), follows_afterReport e r'⟩

end ReaderPhase

namespace Client

structure Delivers (c : Client) (sent : List (LinkId × Event)) (installs : List LinkId)
    (arrived : LinkId → List Arrival) : Prop where
  tracks : c.session.Tracks sent installs arrived
  reader : c.reader.Follows c.session sent installs arrived
  connecting : ∀ call, c.connecting = some call → call.Holds c.session installs

variable {c c' : Client} {m : Move}

theorem arrived_same (hm : ∀ id a, m ≠ .arrive id a) (c c' : Client)
    (arrived : LinkId → List Arrival) :
    (fun id => arrived id ++ (arrived? id c m c').toList) = arrived := by
  funext id
  unfold arrived?
  split
  · exact absurd rfl (hm _ _)
  · exact List.append_nil _

theorem Delivers.aside (hd : c.Delivers sent installs arrived) (hm : ∀ id a, m ≠ .arrive id a)
    (hi : c.session.SameInput c'.session)
    (hs : c'.session.slot = c.session.slot ∨ c'.session.slot = none)
    (hr : c.reader.Granted c'.reader)
    (hc : ∀ call, c'.connecting = some call → call.Holds c.session installs) :
    c'.Delivers (sent ++ (dispatched? c m c').toList) (installs ++ (installed? c m c').toList)
      fun id => arrived id ++ (arrived? id c m c').toList := by
  have hsent : dispatched? c m c' = none := hr.dispatched?_eq_none c.session
  have hinst : installed? c m c' = none := Session.installed?_of_slot hs
  rw [arrived_same hm, hsent, hinst, Option.toList_none, Option.toList_none, List.append_nil,
    List.append_nil]
  refine ⟨hd.tracks.sameInput hi hs, hr.follows (hd.reader.sameInput hi hs), ?_⟩
  intro call hcall id hid
  rw [hi.opened]
  exact hc call hcall id hid

theorem Delivers.connect_step (hd : c.Delivers sent installs arrived)
    (hm : ∀ id a, m ≠ .arrive id a) {call call' : OwnerPhase} (hcall : c.connecting = some call)
    (hidle : c.reader = .idle) (hs : call.Step c.session call' c'.session)
    (hr : c'.reader = .idle) (hc : c'.connecting = some call') :
    c'.Delivers (sent ++ (dispatched? c m c').toList) (installs ++ (installed? c m c').toList)
      fun id => arrived id ++ (arrived? id c m c').toList := by
  have hsent : dispatched? c m c' = none := by
    unfold dispatched?
    rw [hidle]
    rfl
  have hslot : c.session.SlotHealthy sent arrived := by
    have hf := hd.reader
    rw [hidle] at hf
    exact hf
  have he := hs.effect
  obtain ⟨ht', hh'⟩ := he.tracks hd.tracks (hd.connecting call hcall)
  have hslot' := he.slotHealthy hd.tracks (hd.connecting call hcall) fun _ => hslot
  rw [arrived_same hm, hsent, Option.toList_none, List.append_nil]
  refine ⟨ht', ?_, fun call'' hcall' => ?_⟩
  · rw [hr]
    exact hslot'
  · obtain rfl : call' = call'' := Option.some.inj (hc.symm.trans hcall')
    exact hh'

theorem Delivers.started (hd : c.Delivers sent installs arrived) (hidle : c.reader = .idle)
    (hs : c'.session = c.session) (hr : c'.reader = .looking 0) (hc : c'.connecting = none)
    {input : TaskInput} :
    c'.Delivers (sent ++ (dispatched? c (.connecting input) c').toList)
      (installs ++ (installed? c (.connecting input) c').toList)
      fun id => arrived id ++ (arrived? id c (.connecting input) c').toList := by
  have hsent : dispatched? c (.connecting input) c' = none := by
    unfold dispatched?
    rw [hidle]
    rfl
  have hinst : installed? c (.connecting input) c' = none :=
    Session.installed?_of_slot (.inl (congrArg Session.slot hs))
  rw [arrived_same (m := .connecting input) (fun _ _ => nofun), hsent, hinst, Option.toList_none, Option.toList_none,
    List.append_nil, List.append_nil]
  refine ⟨hs ▸ hd.tracks, ?_, fun call hcall => ?_⟩
  · have hf := hd.reader
    rw [hidle] at hf
    rw [hs, hr]
    exact hf
  · cases hc.symm.trans hcall

theorem Delivers.reader_step (hd : c.Delivers sent installs arrived) (ht : c.Tidy)
    {input : TaskInput} {reader : ReaderPhase} {session : Session}
    (hs : c.reader.Step c.session reader session) (hc' : c' = { c with reader, session }) :
    c'.Delivers (sent ++ (dispatched? c (.reader input) c').toList)
      (installs ++ (installed? c (.reader input) c').toList)
      fun id => arrived id ++ (arrived? id c (.reader input) c').toList := by
  subst hc'
  obtain ⟨ht', hf'⟩ := hd.reader.step hs hd.tracks
  rw [arrived_same (m := .reader input) (fun _ _ => nofun)]
  refine ⟨ht', hf', fun call hcall => ?_⟩
  -- the loop has not been started, so it has not moved
  have hidle := ht.idle_of_connecting hcall
  obtain ⟨_, rfl⟩ := idle_step hs hidle
  have hinst : installed? c (.reader input) { c with reader } = none :=
    Session.installed?_of_slot (.inl rfl)
  rw [hinst, Option.toList_none, List.append_nil]
  exact hd.connecting call hcall

theorem Delivers.arrive (hd : c.Delivers sent installs arrived) (id : LinkId) (a : Arrival) :
    { c with session := c.session.updateLink id (·.arrive a) }.Delivers sent installs
      fun j => arrived j ++ (c.session.arrivedBy id a j).toList := by
  refine ⟨hd.tracks.arrive id a, hd.reader.arrive id a, fun call hcall id' hid => ?_⟩
  rw [Session.length_updateLink]
  exact hd.connecting call hcall id' hid

theorem Delivers.step (h : Step c m c') (ht : c.Tidy) (hd : c.Delivers sent installs arrived) :
    c'.Delivers (sent ++ (dispatched? c m c').toList) (installs ++ (installed? c m c').toList)
      fun id => arrived id ++ (arrived? id c m c').toList := by
  cases h with
  | stay hm => exact hd.aside hm.ne.2 (.refl _) (.inl rfl) (.same _) hd.connecting
  | called hb hl hr hm =>
    exact hd.aside hm.ne.2 (.of_beside hb (Session.input?_of_links hl)) (.inl hb.slot) hr hd.connecting
  | connect =>
    refine hd.aside (fun _ _ => nofun) (.refl _) (.inl rfl) (.same _) fun call hcall => ?_
    cases hcall
    exact nofun
  | connecting hcall hs =>
    have hi := ht.idle_of_connecting hcall
    exact hd.connect_step (fun _ _ => nofun) hcall hi hs hi rfl
  | connectFailed | connectedLate =>
    exact hd.aside (fun _ _ => nofun) (.refl _) (.inl rfl) (.same _) nofun
  | connected hcall => refine hd.started (ht.idle_of_connecting hcall) ?_ ?_ ?_ <;> rfl
  | reader hs => exact hd.reader_step ht hs rfl
  | writer hs =>
    exact hd.aside (fun _ _ => nofun) (.of_beside hs.beside hs.input?) (.inl hs.beside.slot)
      (.same _) hd.connecting
  | close =>
    exact hd.aside (fun _ _ => nofun) ⟨rfl, rfl, rfl, fun _ => rfl⟩ (.inl rfl) (.same _) hd.connecting
  | joined | returned =>
    exact hd.aside (fun _ _ => nofun) (.refl _) (.inl rfl) (.same _) hd.connecting
  | @shutting n call =>
    obtain ⟨hi, hs⟩ := call.effect c.session
    exact hd.aside (fun _ _ => nofun) hi hs (.same _) hd.connecting
  | arrive id a =>
    have hsent : dispatched? c (.arrive id a)
        { c with session := c.session.updateLink id (·.arrive a) } = none :=
      ReaderPhase.dispatched?_self ..
    have hinst : installed? c (.arrive id a)
        { c with session := c.session.updateLink id (·.arrive a) } = none :=
      Session.installed?_of_slot (.inl rfl)
    rw [hsent, hinst, Option.toList_none, Option.toList_none, List.append_nil, List.append_nil]
    exact hd.arrive id a

theorem Delivers.run (hd : c.Delivers sent installs arrived) (ht : c.Tidy) (moves : List Move) :
    (c.run moves).Delivers (sent ++ c.observe dispatched? moves)
      (installs ++ c.observe installed? moves)
      fun id => arrived id ++ c.observe (arrived? id) moves := by
  induction moves generalizing c sent installs arrived with
  | nil =>
    unfold observe
    simp only [List.append_nil]
    exact hd
  | cons m moves ih =>
    have hk := c.step_kind m
    have hd' := ih (hd.step hk ht) (ht.step hk)
    simp only [List.append_assoc] at hd'
    exact hd'

theorem delivers_new {config : Config} (h : new config = .ok c) : c.Delivers [] [] fun _ => [] := by
  obtain rfl := new_eq h
  have hs : (Session.new config).Tracks [] [] fun _ => [] := by
    refine ⟨List.nodup_nil, nofun, nofun, nofun, rfl, fun _ _ => List.nil_prefix, ?_, ?_, rfl⟩
    · exact fun id hlt => absurd hlt (Nat.not_lt_zero id)
    · exact fun _ _ => rfl
  exact ⟨hs, nofun, nofun⟩

theorem Step.accept_of_dispatched? (h : Step c m c') (ht : c.Tidy) {id : LinkId} {e : Event}
    (hd : dispatched? c m c' = some (id, e)) :
    c'.session = (c.session.readLink id).2.accept e := by
  have hnone {reader : ReaderPhase} (hr : c.reader.Granted reader) :
      c.reader.dispatched? reader c.session ≠ some (id, e) := by
    rw [hr.dispatched?_eq_none]
    exact nofun
  cases h with
  | reader hs => exact hs.accept_of_dispatched? hd
  | called _ _ hr => exact absurd hd (hnone hr)
  | connected hc =>
    unfold dispatched? at hd
    rw [ht.idle_of_connecting hc] at hd
    cases hd
  | stay | connect | connecting | connectFailed | connectedLate | writer | close | joined | shutting
  | returned | arrive => exact absurd hd (hnone (.same _))

/-- In every run the events that are dispatched are, link by link in the order of installation, a first part
of those that a fresh decoder makes of the arrivals on that link before its first failure. No link is
installed twice, each event is what the outputs get in its step, and the counter of events received has
counted them all. -/
theorem dispatched_in_wire_order {config : Config} (h : new config = .ok c) (moves : List Move) :
    (c.observe dispatched? moves).map Prod.snd =
        (c.observe installed? moves).flatMap (eventsFrom (c.observe dispatched? moves)) ∧
      (c.observe installed? moves).Nodup ∧
      (∀ id, eventsFrom (c.observe dispatched? moves) id <+:
        config.decodable (c.observe (arrived? id) moves)) ∧
      (∀ before m after, moves = before ++ m :: after → ∀ id e,
        dispatched? (c.run before) m (c.run (before ++ [m])) = some (id, e) →
          (c.run (before ++ [m])).session = ((c.run before).session.readLink id).2.accept e) ∧
      (c.run moves).session.counters.received =
        UInt64.ofNat (c.observe dispatched? moves).length := by
  have hconfig : (c.run moves).session.config = config := by
    rw [config_run, new_eq h]
    rfl
  have ht := ((delivers_new h).run (tidy_new h) moves).tracks
  simp only [List.nil_append] at ht
  refine ⟨ht.order, ht.nodup, fun id => ?_, fun before m after _ id e hd => ?_, ht.received⟩
  · have hp := ht.inOrder id []
    rw [hconfig, List.append_nil] at hp
    exact hp
  · rw [run_append] at hd ⊢
    exact ((c.run before).step_kind m).accept_of_dispatched? ((tidy_new h).run before) hd

/-! A link that fails behind its first event, and the one that replaces it -/

def lineConfig : Config := { protocol := .line }

def lineClient : Client :=
  { session := .new lineConfig, queue := { capacity := lineConfig.channelCapacity } }

def replacedMoves : List Move :=
  connectMoves ++
    [.arrive 0 (.bytes "A,1,10\n?\nA,1,11\n".toUTF8.toList), .reader .proceed, .reader .proceed,
      .reader .proceed, .reader .proceed] ++
    [.reader .proceed, .reader .proceed, .reader .proceed, .reader .proceed, .reader .elapsed,
      .reader (.dialed (.opened "peer")), .reader .proceed, .reader .proceed, .reader .proceed,
      .reader .proceed, .reader .proceed, .reader .proceed] ++
    [.arrive 1 (.bytes "A,1,12\n".toUTF8.toList), .reader .proceed, .reader .proceed]

theorem dispatched_from_both_links :
    new lineConfig = .ok lineClient ∧
      lineClient.observe dispatched? replacedMoves =
        [(0, .ack ⟨1, 10, none⟩), (1, .ack ⟨1, 12, none⟩)] ∧
      (lineClient.observe installed? replacedMoves).flatMap
        (eventsFrom (lineClient.observe dispatched? replacedMoves)) =
        [.ack ⟨1, 10, none⟩, .ack ⟨1, 12, none⟩] ∧
      (lineClient.run replacedMoves).session.counters.received = 2 := by
  have hn : new lineConfig = .ok lineClient := rfl
  have hd : lineClient.observe dispatched? replacedMoves =
      [(0, .ack ⟨1, 10, none⟩), (1, .ack ⟨1, 12, none⟩)] := by decide +kernel
  obtain ⟨horder, _, _, _, hreceived⟩ := dispatched_in_wire_order hn replacedMoves
  rw [hd] at hreceived
  exact ⟨hn, hd, by rw [← horder, hd]; rfl, hreceived⟩

end Client
end OrderEntry

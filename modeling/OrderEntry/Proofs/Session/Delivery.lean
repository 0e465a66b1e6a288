import OrderEntry.Proofs.Session.SlotMoves
import OrderEntry.Proofs.Wire.Arrivals

/-! The events that were dispatched, link by link. `Healthy` says of one link that its events so far and those
still in front of its reader are what a fresh decoder makes of all that has arrived on it; `Tracks` says
of a whole session that what was dispatched is in order. Each change of a session is shown to keep them. -/

namespace OrderEntry

def eventsFrom (sent : List (LinkId × Event)) (id : LinkId) : List Event :=
  (sent.filter (·.1 = id)).map Prod.snd

theorem eventsFrom_concat_self (sent : List (LinkId × Event)) (id : LinkId) (e : Event) :
    eventsFrom (sent ++ [(id, e)]) id = eventsFrom sent id ++ [e] := by
  simp [eventsFrom]

theorem eventsFrom_concat_of_ne (sent : List (LinkId × Event)) {id id' : LinkId} (e : Event)
    (h : id ≠ id') : eventsFrom (sent ++ [(id, e)]) id' = eventsFrom sent id' := by
  simp [eventsFrom, h]

theorem eventsFrom_eq_nil {sent : List (LinkId × Event)} {id : LinkId}
    (h : ∀ p ∈ sent, p.1 ≠ id) : eventsFrom sent id = [] := by
  unfold eventsFrom
  rw [List.map_eq_nil_iff, List.filter_eq_nil_iff]
  intro p hp he
  exact h p hp (of_decide_eq_true he)

/-- What a fresh decoder makes of the arrivals, up to its first failure. -/
def Config.decodable (config : Config) (arrivals : List Arrival) : List Event :=
  leadingEvents (itemsOfArrivals config.transport config.wireFormat arrivals)

namespace Session

def Healthy (s : Session) (sent : List (LinkId × Event)) (arrived : LinkId → List Arrival)
    (id : LinkId) : Prop :=
  ∃ r a, s.input? id = some (r, a) ∧ r.Sound ∧ ∀ more,
    s.config.decodable (arrived id ++ more) = eventsFrom sent id ++ leadingEvents (r.ahead (a ++ more))

variable {s s' : Session} {sent sent' : List (LinkId × Event)} {installs : List LinkId}
  {arrived arrived' : LinkId → List Arrival} {id id' : LinkId}

theorem Healthy.lt (h : s.Healthy sent arrived id) : id < s.links.length := by
  obtain ⟨r, a, hi, _⟩ := h
  exact lt_of_input? hi

theorem Healthy.of_input (h : s.Healthy sent arrived id) (hc : s'.config = s.config)
    (hi : s'.input? id = s.input? id) (he : eventsFrom sent' id = eventsFrom sent id) :
    s'.Healthy sent' arrived id := by
  obtain ⟨r, a, hin, hs, hm⟩ := h
  refine ⟨r, a, hi.trans hin, hs, fun more => ?_⟩
  rw [hc, he]
  exact hm more

theorem Healthy.inOrder (h : s.Healthy sent arrived id) (more : List Arrival) :
    eventsFrom sent id <+: s.config.decodable (arrived id ++ more) := by
  obtain ⟨r, a, _, _, hm⟩ := h
  exact ⟨_, (hm more).symm⟩

theorem Healthy.unready (h : s.Healthy sent arrived id) (hr : s.readLink id = (none, s')) :
    s'.Healthy sent arrived id := by
  obtain ⟨r, a, hin, hs, hm⟩ := h
  obtain ⟨he, hin'⟩ := input?_readLink hin hr
  have hp := fun more => LinkReader.passes_next hs a more
  rw [← he] at hp
  refine ⟨_, _, hin', (hp []).1, fun more => ?_⟩
  rw [(beside_readLink hr).config, hm more, (hp more).2]

theorem config_accept (s : Session) (e : Event) : (s.accept e).config = s.config :=
  (s.keeps_accept e).config

theorem links_accept (s : Session) (e : Event) : (s.accept e).links = s.links := by
  unfold accept
  dsimp only
  split <;> rfl

theorem Healthy.event {e : Event} (h : s.Healthy sent arrived id)
    (hr : s.readLink id = (some (.ok (some e)), s')) :
    (s'.accept e).Healthy (sent ++ [(id, e)]) arrived id := by
  obtain ⟨r, a, hin, hs, hm⟩ := h
  obtain ⟨he, hin'⟩ := input?_readLink hin hr
  have hp := fun more => LinkReader.passes_next hs a more
  rw [← he] at hp
  rw [← input?_of_links (s'.links_accept e)] at hin'
  refine ⟨_, _, hin', (hp []).1, fun more => ?_⟩
  rw [config_accept, (beside_readLink hr).config, hm more, (hp more).2, eventsFrom_concat_self,
    List.append_assoc]
  rfl

theorem Healthy.opened (h : s.Healthy sent arrived id) (l : Link) :
    (s.addLink l).2.Healthy sent arrived id := h.of_input rfl (input?_addLink l h.lt) rfl

theorem healthy_newLink (s : Session) (remote : String) (hs : eventsFrom sent s.links.length = [])
    (ha : arrived s.links.length = []) :
    (s.addLink (s.newLink remote)).2.Healthy sent arrived s.links.length := by
  refine ⟨_, _, s.input?_newLink remote, LinkReader.sound_new .., fun more => ?_⟩
  rw [hs, ha, LinkReader.ahead_new]
  rfl

def arrivedBy (s : Session) (id : LinkId) (a : Arrival) (id' : LinkId) : Option Arrival :=
  if id = id' ∧ id' < s.links.length then some a else none

theorem Healthy.arrive (h : s.Healthy sent arrived id') (a : Arrival) :
    (s.updateLink id (·.arrive a)).Healthy sent
      (fun j => arrived j ++ (s.arrivedBy id a j).toList) id' := by
  have hlt := h.lt
  rcases Decidable.em (id = id') with rfl | hn
  · obtain ⟨r, b, hin, hs, hm⟩ := h
    refine ⟨r, b ++ [a], ?_, hs, fun more => ?_⟩
    · unfold input? at hin ⊢
      rw [link?_updateLink, if_pos rfl]
      rcases hl : s.link? id with _ | l
      · rw [hl] at hin
        cases hin
      · rw [hl] at hin
        cases hin
        rfl
    · -- the new arrival joins those that are still to come
      have ha : s.arrivedBy id a id = some a := if_pos ⟨rfl, hlt⟩
      simp only [ha, Option.toList_some, List.append_assoc]
      exact hm ([a] ++ more)
  · have ha : s.arrivedBy id a id' = none := if_neg fun hx => hn hx.1
    have hi : (s.updateLink id (·.arrive a)).input? id' = s.input? id' := by
      unfold input?
      rw [link?_updateLink, if_neg hn]
    obtain ⟨r, b, hin, hs, hm⟩ := h
    refine ⟨r, b, hi.trans hin, hs, fun more => ?_⟩
    simp only [ha, Option.toList_none, List.append_nil]
    exact hm more

/-- What was dispatched so far is in order, `installs` being the links in the order in which they were put
into the slot and `arrived` all that has arrived on each. -/
structure Tracks (s : Session) (sent : List (LinkId × Event)) (installs : List LinkId)
    (arrived : LinkId → List Arrival) : Prop where
  nodup : installs.Nodup
  opened : ∀ id ∈ installs, id < s.links.length
  slot : ∀ id, s.slot = some id → installs.getLast? = some id
  source : ∀ p ∈ sent, p.1 ∈ installs
  order : sent.map Prod.snd = installs.flatMap (eventsFrom sent)
  inOrder : ∀ id more, eventsFrom sent id <+: s.config.decodable (arrived id ++ more)
  fresh : ∀ id, id < s.links.length → id ∉ installs → s.Healthy sent arrived id
  unopened : ∀ id, s.links.length ≤ id → arrived id = []
  received : s.counters.received = UInt64.ofNat sent.length

theorem Tracks.eventsFrom_eq_nil (h : s.Tracks sent installs arrived) (hn : id ∉ installs) :
    eventsFrom sent id = [] := by
  refine OrderEntry.eventsFrom_eq_nil fun p hp he => hn ?_
  rw [← he]
  exact h.source p hp

theorem Tracks.of_input (h : s.Tracks sent installs arrived) (hc : s'.config = s.config)
    (hl : s'.links.length = s.links.length)
    (hr : s'.counters.received = s.counters.received)
    (hs : s'.slot = s.slot ∨ s'.slot = none)
    (hi : ∀ id, id ∉ installs → s'.input? id = s.input? id) : s'.Tracks sent installs arrived where
  nodup := h.nodup
  opened := fun id hm => hl ▸ h.opened id hm
  slot := by
    intro id hid
    rcases hs with hs | hs
    · exact h.slot id (hs ▸ hid)
    · cases hs.symm.trans hid
  source := h.source
  order := h.order
  inOrder := hc ▸ h.inOrder
  fresh := fun id hlt hn => (h.fresh id (hl ▸ hlt) hn).of_input hc (hi id hn) rfl
  unopened := fun id hge => h.unopened id (hl ▸ hge)
  received := hr.trans h.received

theorem Tracks.sameInput (h : s.Tracks sent installs arrived) (hi : s.SameInput s')
    (hs : s'.slot = s.slot ∨ s'.slot = none) : s'.Tracks sent installs arrived :=
  h.of_input hi.config hi.opened hi.received hs fun id _ => hi.input id

theorem Tracks.install (h : s.Tracks sent installs arrived) (hi : s.SameInput s')
    (hs : s'.slot = some id) (hlt : id < s.links.length) (hn : id ∉ installs) :
    s'.Tracks sent (installs ++ [id]) arrived where
  nodup := by
    rw [List.nodup_append]
    refine ⟨h.nodup, by simp, fun a ha b hb => ?_⟩
    rw [List.mem_singleton] at hb
    rintro rfl
    exact hn (hb ▸ ha)
  opened := by
    intro id' hm
    rw [hi.opened]
    rcases List.mem_append.mp hm with hm | hm
    · exact h.opened id' hm
    · rw [List.mem_singleton.mp hm]
      exact hlt
  slot := by
    intro id' hid
    rw [List.getLast?_concat, ← hs, hid]
  source := fun p hp => List.mem_append_left _ (h.source p hp)
  order := by
    rw [List.flatMap_append, List.flatMap_singleton, h.eventsFrom_eq_nil hn, List.append_nil]
    exact h.order
  inOrder := hi.config ▸ h.inOrder
  fresh := by
    intro id' hlt' hn'
    have hn' : id' ∉ installs := fun hm => hn' (List.mem_append_left _ hm)
    exact (h.fresh id' (hi.opened ▸ hlt') hn').of_input hi.config (hi.input id') rfl
  unopened := fun id' hge => h.unopened id' (hi.opened ▸ hge)
  received := hi.received.trans h.received

theorem Tracks.open_link (h : s.Tracks sent installs arrived) (remote : String) :
    (s.addLink (s.newLink remote)).2.Tracks sent installs arrived where
  nodup := h.nodup
  opened := fun id hm => Nat.lt_of_lt_of_le (h.opened id hm) (by simp [length_addLink])
  slot := h.slot
  source := h.source
  order := h.order
  inOrder := h.inOrder
  fresh := by
    intro id hlt hn
    rw [length_addLink] at hlt
    rcases Nat.lt_succ_iff_lt_or_eq.mp hlt with hlt | rfl
    · exact (h.fresh id hlt hn).opened _
    · exact s.healthy_newLink remote (h.eventsFrom_eq_nil hn) (h.unopened _ (Nat.le_refl _))
  unopened := by
    intro id hge
    rw [length_addLink] at hge
    exact h.unopened id (Nat.le_of_succ_le hge)
  received := h.received

theorem Tracks.arrive (h : s.Tracks sent installs arrived) (id : LinkId) (a : Arrival) :
    (s.updateLink id (·.arrive a)).Tracks sent installs
      (fun j => arrived j ++ (s.arrivedBy id a j).toList) where
  nodup := h.nodup
  opened := fun id' hm => (s.length_updateLink id _).symm ▸ h.opened id' hm
  slot := h.slot
  source := h.source
  order := h.order
  inOrder := by
    intro id' more
    rw [List.append_assoc]
    exact h.inOrder id' _
  fresh := fun id' hlt hn => (h.fresh id' ((s.length_updateLink id _) ▸ hlt) hn).arrive a
  unopened := by
    intro id' hge
    rw [length_updateLink] at hge
    have ha : s.arrivedBy id a id' = none := if_neg fun hx => Nat.not_lt.mpr hge hx.2
    rw [ha, Option.toList_none, List.append_nil]
    exact h.unopened id' hge
  received := h.received

theorem slot_accept (s : Session) (e : Event) : (s.accept e).slot = s.slot := by
  unfold accept
  dsimp only
  split <;> rfl

theorem received_accept (s : Session) (e : Event) :
    (s.accept e).counters.received = s.counters.received + 1 := by
  unfold accept
  dsimp only
  split <;> rfl

theorem flatMap_eventsFrom_concat {ids : List LinkId} (e : Event) (hn : id ∉ ids) :
    ids.flatMap (eventsFrom (sent ++ [(id, e)])) = ids.flatMap (eventsFrom sent) := by
  rw [List.flatMap_def, List.flatMap_def]
  refine congrArg _ (List.map_congr_left fun id' hm => ?_)
  refine eventsFrom_concat_of_ne sent e ?_
  rintro rfl
  exact hn hm

theorem Tracks.event {e : Event} (h : s.Tracks sent installs arrived)
    (hlast : installs.getLast? = some id) (hh : s.Healthy sent arrived id)
    (hr : s.readLink id = (some (.ok (some e)), s')) :
    (s'.accept e).Tracks (sent ++ [(id, e)]) installs arrived := by
  have hb := beside_readLink hr
  have hh' := hh.event hr
  have hc : (s'.accept e).config = s.config := (s'.config_accept e).trans hb.config
  have hl : (s'.accept e).links.length = s.links.length := by rw [links_accept, hb.opened]
  obtain ⟨init, rfl⟩ := List.getLast?_eq_some_iff.mp hlast
  -- only the last share grows, because no link was installed twice
  have hinit : id ∉ init := by
    intro hm
    obtain ⟨_, _, hd⟩ := List.nodup_append.mp h.nodup
    exact hd id hm id (List.mem_singleton_self id) rfl
  refine ⟨h.nodup, fun id' hm => hl ▸ h.opened id' hm, ?_, ?_, ?_, ?_, ?_, ?_, ?_⟩
  · intro id' hs
    rw [slot_accept, hb.slot] at hs
    exact h.slot id' hs
  · intro p hp
    rcases List.mem_append.mp hp with hp | hp
    · exact h.source p hp
    · rw [List.mem_singleton.mp hp]
      exact List.mem_append_right _ (List.mem_singleton_self id)
  · rw [List.map_append, h.order, List.flatMap_append, List.flatMap_append,
      flatMap_eventsFrom_concat e hinit, List.flatMap_singleton, List.flatMap_singleton,
      eventsFrom_concat_self, List.append_assoc]
    rfl
  · intro id' more
    rcases Decidable.em (id = id') with rfl | hn
    · exact hh'.inOrder more
    · rw [hc, eventsFrom_concat_of_ne sent e hn]
      exact h.inOrder id' more
  · intro id' hlt hn
    have hne : id ≠ id' := by
      rintro rfl
      exact hn (List.mem_append_right _ (List.mem_singleton_self id))
    have hi : (s'.accept e).input? id' = s.input? id' := by
      rw [input?_of_links (s'.links_accept e), input?_readLink_of_ne hr hne]
    exact (h.fresh id' (hl ▸ hlt) hn).of_input hc hi (eventsFrom_concat_of_ne sent e hne)
  · exact fun id' hge => h.unopened id' (hl ▸ hge)
  · rw [received_accept, hb.received, h.received, List.length_append, List.length_singleton,
      UInt64.ofNat_add]
    rfl

end Session
end OrderEntry

import OrderEntry.Proofs.Session.ReaderSteps
import OrderEntry.Session.WriteLoop

/-! What the functions of a session do to its links: whether a link is up, and what its reader has taken
in and has still in front of it. -/

namespace OrderEntry
namespace Session

variable (s : Session) (id id' : LinkId)

def isUp : Bool := (s.link? id).any Link.up

def input? : Option (LinkReader × List Arrival) := (s.link? id).map fun l => (l.reader, l.arrivals)

theorem live?_eq : s.live? = s.slot.filter s.isUp := rfl

theorem live?_eq_some_iff : s.live? = some id ↔ s.slot = some id ∧ s.isUp id = true := by
  rw [live?_eq, Option.filter_eq_some_iff]

theorem live?_eq_none {id : LinkId} (hs : s.slot = some id) (hn : s.live? = none) :
    s.isUp id = false := by
  cases hu : s.isUp id
  · rfl
  · have hl : s.live? = some id := (s.live?_eq_some_iff id).mpr ⟨hs, hu⟩
    rw [hn] at hl
    cases hl

/-! Changes of one link -/

theorem link?_updateLink (f : Link → Link) :
    (s.updateLink id f).link? id' = if id = id' then (s.link? id').map f else s.link? id' := by
  unfold updateLink link?
  rw [List.getElem?_modify]
  split <;> simp [*]

theorem length_updateLink (f : Link → Link) : (s.updateLink id f).links.length = s.links.length :=
  List.length_modify ..

theorem input?_updateLink {f : Link → Link}
    (hf : ∀ l, s.link? id = some l → (f l).reader = l.reader ∧ (f l).arrivals = l.arrivals) :
    (s.updateLink id f).input? id' = s.input? id' := by
  unfold input?
  rw [link?_updateLink]
  split
  next h =>
    subst h
    rcases hl : s.link? id with _ | l
    · rfl
    · simp only [Option.map_some, hf l hl]
  · rfl

theorem isUp_updateLink {f : Link → Link} (hf : ∀ l, s.link? id = some l → (f l).up = l.up) :
    (s.updateLink id f).isUp id' = s.isUp id' := by
  unfold isUp
  rw [link?_updateLink]
  split
  next h =>
    subst h
    rcases hl : s.link? id with _ | l
    · rfl
    · simp only [Option.map_some, Option.any_some, hf l hl]
  · rfl

theorem isUp_of_isUp_updateLink {s : Session} {id id' : LinkId} {f : Link → Link}
    (hf : ∀ l, s.link? id = some l → (f l).up = true → l.up = true)
    (h : (s.updateLink id f).isUp id' = true) : s.isUp id' = true := by
  unfold isUp at h ⊢
  rw [link?_updateLink] at h
  split at h
  next he =>
    subst he
    rcases hl : s.link? id with _ | l
    · rw [hl] at h
      cases h
    · rw [hl] at h
      exact hf l hl h
  · exact h

theorem isUp_updateLink_of_ne {f : Link → Link} (h : id ≠ id') :
    (s.updateLink id f).isUp id' = s.isUp id' := by
  unfold isUp
  rw [link?_updateLink, if_neg h]

/-! Opening a link -/

theorem link?_addLink (l : Link) :
    (s.addLink l).2.link? id = if id = s.links.length then some l else s.link? id := by
  unfold addLink link?
  split
  next h => rw [h, List.getElem?_concat_length]
  next h =>
    rcases Nat.lt_or_gt_of_ne h with hlt | hgt
    · exact List.getElem?_append_left hlt
    · rw [List.getElem?_eq_none (Nat.le_of_lt hgt),
        List.getElem?_eq_none (by rw [List.length_append]; exact hgt)]

theorem length_addLink (l : Link) : (s.addLink l).2.links.length = s.links.length + 1 := by
  simp only [addLink, List.length_append, List.length_singleton]

theorem link?_eq_none (h : s.links.length ≤ id) : s.link? id = none := List.getElem?_eq_none h

theorem input?_addLink {s : Session} {id : LinkId} (l : Link) (h : id < s.links.length) :
    (s.addLink l).2.input? id = s.input? id := by
  unfold input?
  rw [link?_addLink, if_neg (Nat.ne_of_lt h)]

theorem isUp_addLink {s : Session} {id : LinkId} (l : Link) (h : id < s.links.length) :
    (s.addLink l).2.isUp id = s.isUp id := by
  unfold isUp
  rw [link?_addLink, if_neg (Nat.ne_of_lt h)]

/-! Closing, reading and writing -/

theorem input?_closeLink (old : Option LinkId) : (s.closeLink old).input? id = s.input? id := by
  cases old with
  | none => rfl
  | some old => exact s.input?_updateLink old id fun _ _ => ⟨rfl, rfl⟩

variable {s id} {s' : Session}

theorem isUp_closeLink_eq_false (old : Option LinkId) (h : s.isUp id = false ∨ old = some id) :
    (s.closeLink old).isUp id = false := by
  rcases h with h | rfl
  · cases old with
    | none => exact h
    | some old =>
      refine Bool.eq_false_iff.mpr fun hu => ?_
      have hup := isUp_of_isUp_updateLink (f := Link.close) (fun _ _ hl => by cases hl) hu
      cases h.symm.trans hup
  · unfold isUp closeLink
    dsimp only
    rw [link?_updateLink, if_pos rfl]
    cases s.link? id <;> rfl

theorem readLink_cases {reading : Option Reading} (h : s.readLink id = (reading, s')) :
    (s.link? id = none ∧ reading = none ∧ s' = s) ∨
      ∃ l, s.link? id = some l ∧ reading = l.read.1 ∧ s' = s.updateLink id fun _ => l.read.2 := by
  unfold readLink at h
  rcases hl : s.link? id with _ | l
  · rw [hl] at h
    cases h
    exact .inl ⟨rfl, rfl, rfl⟩
  · rw [hl] at h
    cases h
    exact .inr ⟨l, rfl, rfl, rfl⟩

theorem sendLink_cases {c : Command} {sent : Except String Unit}
    {result : Except TransportError Unit} (h : s.sendLink id c sent = (result, s')) :
    s' = s ∨ ∃ l, s.link? id = some l ∧ s' = s.updateLink id fun _ => (l.send c sent).2 := by
  unfold sendLink at h
  rcases hl : s.link? id with _ | l
  · rw [hl] at h
    cases h
    exact .inl rfl
  · rw [hl] at h
    cases h
    exact .inr ⟨l, rfl, rfl⟩

end Session

namespace Link

theorem send_keeps (l : Link) (c : Command) (sent : Except String Unit) :
    (l.send c sent).2.reader = l.reader ∧ (l.send c sent).2.arrivals = l.arrivals ∧
      ((l.send c sent).2.up = true → l.up = true) := by
  have hfailed :
      let l' := if l.transport == .tcp then l.markDown else l
      l'.reader = l.reader ∧ l'.arrivals = l.arrivals ∧ (l'.up = true → l.up = true) := by
    dsimp only
    split
    · exact ⟨rfl, rfl, nofun⟩
    · exact ⟨rfl, rfl, id⟩
  unfold send
  dsimp only
  split
  next => exact hfailed
  next => exact hfailed
  next => exact ⟨rfl, rfl, id⟩

theorem read_up (l : Link) : l.read.2.up = (l.up && !l.read.1.any endsLink) := rfl

end Link
end OrderEntry

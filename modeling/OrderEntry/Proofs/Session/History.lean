import OrderEntry.Proofs.Session.ClientSteps

/-! What was seen in the course of a run, and what holds in every run: settings stay, a client that was
told to stop is not told otherwise, and a connect is under way only before the loops were started. -/

namespace OrderEntry

theorem ne_nil_of_getElem? {α : Type} {l : List α} {n : Nat} {a : α} (h : l[n]? = some a) : l ≠ [] :=
  List.ne_nil_of_mem (List.mem_of_getElem? h)

theorem mem_set_or_eq {α : Type} {l : List α} {i : Nat} {a b c : α} (hi : l[i]? = some a)
    (hc : c ∈ l) : c ∈ l.set i b ∨ c = a := by
  obtain ⟨j, hj⟩ := List.mem_iff_getElem?.mp hc
  rcases Decidable.em (i = j) with rfl | hij
  · exact .inr (Option.some.inj (hj.symm.trans hi))
  · exact .inl (List.mem_iff_getElem?.mpr ⟨j, (List.getElem?_set_ne hij).trans hj⟩)

namespace Client

variable {α : Type}

/-- What `look` sees in the moves of a run, in order. It is shown the client before and after each. -/
def observe (look : Client → Move → Client → Option α) (c : Client) : List Move → List α
  | [] => []
  | m :: moves => (look c m (c.step m).1).toList ++ (c.step m).1.observe look moves

theorem observe_append (look : Client → Move → Client → Option α) (c : Client)
    (before after : List Move) :
    c.observe look (before ++ after) = c.observe look before ++ (c.run before).observe look after := by
  induction before generalizing c with
  | nil => rfl
  | cons m before ih => rw [List.cons_append, observe, observe, ih, List.append_assoc, run]

variable {c c' : Client} {m : Move}

theorem Step.keeps (h : Step c m c') : c.session.Keeps c'.session ∨ c' = c.close := by
  cases h with
  | called hb => exact .inl hb.keeps
  | connecting _ hs => exact .inl hs.keeps
  | reader hs => exact .inl hs.keeps
  | writer hs => exact .inl hs.beside.keeps
  | shutting => exact .inl (ShutdownPhase.keeps_step ..)
  | close => exact .inr rfl
  | stay | connect | connectFailed | connected | connectedLate | joined | returned | arrive =>
    exact .inl ⟨rfl, rfl⟩

theorem Step.config (h : Step c m c') : c'.session.config = c.session.config := by
  rcases h.keeps with hk | rfl
  · exact hk.config
  · rfl

theorem Step.cancelled_of_after (h : Step c m c') (hc : c'.session.cancelled = false) :
    c.session.cancelled = false := by
  rcases h.keeps with hk | rfl
  · rw [← hk.cancelled, hc]
  · cases hc

theorem Step.closes_ne_nil (h : Step c m c') (hn : c.closes ≠ []) : c'.closes ≠ [] := by
  cases h with
  | close => exact List.append_ne_nil_of_right_ne_nil _ nofun
  | joined | shutting | returned => exact mt (List.set_eq_nil_iff ..).mp hn
  | stay | called | connect | connecting | connectFailed | connected | connectedLate | reader | writer
  | arrive => exact hn

theorem closes_run_ne_nil (hn : c.closes ≠ []) (moves : List Move) : (c.run moves).closes ≠ [] := by
  induction moves generalizing c with
  | nil => exact hn
  | cons m moves ih => exact ih ((c.step_kind m).closes_ne_nil hn)

theorem Step.closes_of_after (h : Step c m c') (hn : c'.closes ≠ []) : c.closes ≠ [] ∨ c' = c.close := by
  cases h with
  | close => exact .inr rfl
  | joined | shutting | returned => exact .inl (mt (List.set_eq_nil_iff ..).mpr hn)
  | stay | called | connect | connecting | connectFailed | connected | connectedLate | reader | writer
  | arrive => exact .inl hn

theorem cancelled_of_run {moves : List Move} (hc : (c.run moves).session.cancelled = false) :
    c.session.cancelled = false := by
  induction moves generalizing c with
  | nil => exact hc
  | cons m moves ih => exact (c.step_kind m).cancelled_of_after (ih hc)

theorem config_run (c : Client) (moves : List Move) :
    (c.run moves).session.config = c.session.config := by
  induction moves generalizing c with
  | nil => rfl
  | cons m moves ih => exact (ih _).trans (c.step_kind m).config

structure Tidy (c : Client) : Prop where
  connecting : c.connecting ≠ none → c.reader = .idle
  held : c.queueHeld = true → c.connecting = none ∧ c.reader = .idle
  closing : c.closes ≠ [] → c.session.cancelled = true
  ended : c.outputsHeld = false → c.closes ≠ []

theorem new_eq {config : Config} (h : new config = .ok c) :
    c = { session := .new config, queue := { capacity := config.channelCapacity } } := by
  unfold new at h
  rcases hc : config.check with e | _
  · rw [hc] at h
    cases h
  · rw [hc] at h
    cases h
    rfl

theorem Tidy.idle_of_connecting (ht : c.Tidy) {call : OwnerPhase}
    (hc : c.connecting = some call) : c.reader = .idle := by
  refine ht.connecting ?_
  rw [hc]
  exact nofun

theorem tidy_new {config : Config} (h : new config = .ok c) : c.Tidy := by
  obtain rfl := new_eq h
  exact ⟨fun hn => absurd rfl hn, fun _ => ⟨rfl, rfl⟩, fun hn => absurd rfl hn, nofun⟩

theorem granted_idle {phase phase' : ReaderPhase} (h : phase.Granted phase') (hi : phase = .idle) :
    phase' = .idle := by
  cases h with
  | same => exact hi
  | report => cases hi

theorem idle_step {phase phase' : ReaderPhase} {s s' : Session} (h : phase.Step s phase' s')
    (hi : phase = .idle) : phase' = .idle ∧ s' = s := by
  subst hi
  cases h
  exact ⟨rfl, rfl⟩

theorem Tidy.step (ht : c.Tidy) (h : Step c m c') : c'.Tidy := by
  refine ⟨fun hn => ?_, fun hh => ?_, fun hn => ?_, fun ho => ?_⟩
  · cases h with
    | called _ _ hr => exact granted_idle hr (ht.connecting hn)
    | connect _ hq => exact (ht.held hq).2
    | connecting hc => exact ht.idle_of_connecting hc
    | reader hs => exact (idle_step hs (ht.connecting hn)).1
    | connectFailed | connected | connectedLate => exact absurd rfl hn
    | stay | writer | close | joined | shutting | returned | arrive => exact ht.connecting hn
  · cases h with
    | called _ _ hr => exact ⟨(ht.held hh).1, granted_idle hr (ht.held hh).2⟩
    | connect => cases hh
    | connecting hc => cases (ht.held hh).1.symm.trans hc
    | connectFailed hc => exact ⟨rfl, ht.idle_of_connecting hc⟩
    | connected hc | connectedLate hc => cases (ht.held hh).1.symm.trans hc
    | reader hs => exact ⟨(ht.held hh).1, (idle_step hs (ht.held hh).2).1⟩
    | returned => cases hh
    | stay | writer | close | joined | shutting | arrive => exact ht.held hh
  · rcases h.keeps with hk | rfl
    · rcases h.closes_of_after hn with hn | rfl
      · rw [hk.cancelled]
        exact ht.closing hn
      · rfl
    · rfl
  · refine h.closes_ne_nil ?_
    cases h with
    | returned hc => exact ne_nil_of_getElem? hc
    | stay | called | connect | connecting | connectFailed | connected | connectedLate | reader | writer
    | close | joined | shutting | arrive => exact ht.ended ho

theorem Tidy.run (ht : c.Tidy) (moves : List Move) : (c.run moves).Tidy := by
  induction moves generalizing c with
  | nil => exact ht
  | cons m moves ih => exact ih (ht.step (c.step_kind m))

def connectMoves : List Move :=
  [.connect, .connecting .proceed, .connecting .proceed, .connecting (.dialed (.opened "peer")),
    .connecting .proceed, .connecting .proceed, .connecting .proceed, .connecting .proceed,
    .connecting .proceed]

end Client
end OrderEntry

import OrderEntry.FatalReport
import OrderEntry.Proofs.BoundedQueue

/-! How a fatal error gets into the error mailbox while errors are received and others are reported, in any
order. A log beside the mailbox notes what is received and what enters. The invariant `Kept` ties the two:
the mailbox loses nothing and changes no order, and room is set aside exactly while the report has been
given some and has not used it. -/

namespace OrderEntry

namespace Mailbox

variable {α : Type} {m : Mailbox α} {a : α}

theorem receive_append_toList (m : Mailbox α) :
    m.receive.1.item?.toList ++ m.receive.2.toList = m.toList := by
  unfold receive
  rcases hp : m.items.pop? with _ | ⟨a, items⟩
  · cases m.sending <;> rfl
  · exact (Fifo.toList_of_pop? hp).symm

theorem capacity_receive (m : Mailbox α) : m.receive.2.capacity = m.capacity := by
  unfold receive
  split <;> rfl

theorem reserved_receive (m : Mailbox α) : m.receive.2.reserved = m.reserved := by
  unfold receive
  split <;> rfl

theorem receiving_receive (m : Mailbox α) : m.receive.2.receiving = m.receiving := by
  unfold receive
  split <;> rfl

theorem size_receive_le (m : Mailbox α) : m.receive.2.items.size ≤ m.items.size := by
  have hall := congrArg List.length m.receive_append_toList
  rw [List.length_append] at hall
  rw [Fifo.size_eq_length, Fifo.size_eq_length]
  exact hall ▸ Nat.le_add_left ..

theorem size_receive_lt (h : 0 < m.items.size) : m.receive.2.items.size < m.items.size := by
  unfold receive
  rcases hp : m.items.pop? with _ | ⟨a, items⟩
  · rw [Fifo.size_eq_length, Fifo.pop?_eq_none_iff.mp hp] at h
    exact absurd h (Nat.lt_irrefl 0)
  · rw [Fifo.size_eq_length m.items, Fifo.toList_of_pop? hp, List.length_cons,
      ← Fifo.size_eq_length]
    exact Nat.lt_succ_self _

theorem offer_of_room (hr : m.receiving = true) (hroom : m.items.size + m.reserved < m.capacity) :
    m.offer a = .ok { m with items := m.items.push a } := by
  unfold offer
  rw [hr, if_neg (by decide), if_pos hroom]

theorem offer_of_full (hr : m.receiving = true) (hfull : m.capacity ≤ m.items.size + m.reserved) :
    m.offer a = .error .full := by
  unfold offer
  rw [hr, if_neg (by decide), if_neg (Nat.not_lt.mpr hfull)]

theorem offer_of_closed (hr : m.receiving = false) : m.offer a = .error .closed := by
  unfold offer
  rw [hr]
  rfl

end Mailbox

/-! ### A report and what happens meanwhile -/

inductive ErrorMove
  | receive
  | report (x : ClientError)
  | resume
  deriving DecidableEq

/-- A move and when it is made, counted from the start of the fatal report. -/
structure Moment where
  time : Duration
  move : ErrorMove

inductive Entry
  | fatal
  | other (x : ClientError)
  deriving DecidableEq

def Entry.error (e : ClientError) : Entry → ClientError
  | fatal => e
  | other x => x

structure Submission where
  report : FatalReport
  errors : Mailbox ClientError
  taken : List ClientError := []
  entered : List Entry := []

namespace Submission

def used (before after : FatalReport) : List Entry :=
  if before ≠ .delivered ∧ after = .delivered then [.fatal] else []

def start (errors : Mailbox ClientError) (e : ClientError) : Submission :=
  let (report, errors) := FatalReport.start errors e
  { report, errors, entered := used .waiting report }

def input (e : ClientError) (s : Submission) (i : FatalReport.Input) : Submission :=
  let (report, errors) := s.report.step i s.errors e
  { s with report, errors, entered := s.entered ++ used s.report report }

def after (e : ClientError) (s : Submission) : ErrorMove → Submission
  | .receive =>
    let (receipt, errors) := s.errors.receive
    let (report, errors) := s.report.grant errors
    { s with report, errors, taken := s.taken ++ receipt.item?.toList }
  | .report x =>
    { s with
      errors := s.errors.offerOrDrop x
      entered := s.entered ++ if (s.errors.offer x).isOk then [.other x] else [] }
  | .resume => s.input e .resumed

def afterAll (e : ClientError) (s : Submission) (moments : List Moment) : Submission :=
  moments.foldl (fun s m => s.after e m.move) s

/-- A report that is begun, the moves up to the moment at which it is stopped, and those from there on. It is
stopped when its own task finds its time over or sees the signal. The signal may have been given earlier:
a task that waits for two things looks at them in any order, and room that is found first is used. -/
def course (errors : Mailbox ClientError) (e : ClientError) (early : List Moment)
    (stop : FatalReport.Input) (late : List Moment) : Submission :=
  (((start errors e).afterAll e early).input e stop).afterAll e late

/-- The same mailbox and the same moves without a fatal report. -/
def unattempted (errors : Mailbox ClientError) (e : ClientError) (moments : List Moment) : Submission :=
  ({ report := .lost, errors } : Submission).afterAll e moments

variable {e : ClientError} {initial : Mailbox ClientError} {s : Submission}

theorem afterAll_append (s : Submission) (early late : List Moment) :
    s.afterAll e (early ++ late) = (s.afterAll e early).afterAll e late :=
  List.foldl_append

/-! ### One step -/

theorem after_receive (h : s.report ≠ .waiting) :
    s.after e .receive =
      { s with
        errors := s.errors.receive.2
        taken := s.taken ++ s.errors.receive.1.item?.toList } := by
  have hgrant : s.report.grant s.errors.receive.2 = (s.report, s.errors.receive.2) := by
    cases hr : s.report with
    | waiting => exact absurd hr h
    | granted | delivered | lost => rfl
  unfold after
  simp only [hgrant]

theorem after_receive_waiting (h : s.report = .waiting) (hroom : s.errors.receive.2.free ≠ 0) :
    s.after e .receive =
      { s with
        report := .granted
        errors := { s.errors.receive.2 with reserved := s.errors.receive.2.reserved + 1 }
        taken := s.taken ++ s.errors.receive.1.item?.toList } := by
  have hgrant : s.report.grant s.errors.receive.2 = (.granted,
      { s.errors.receive.2 with reserved := s.errors.receive.2.reserved + 1 }) := by
    rw [h]
    exact if_neg hroom
  unfold after
  simp only [hgrant]

theorem after_report_accepted {x : ClientError} (hr : s.errors.receiving = true)
    (hroom : s.errors.items.size + s.errors.reserved < s.errors.capacity) :
    s.after e (.report x) =
      { s with
        errors := { s.errors with items := s.errors.items.push x }
        entered := s.entered ++ [.other x] } := by
  simp only [after, Mailbox.offerOrDrop, Mailbox.offer_of_room hr hroom, Except.isOk, Except.toBool,
    if_true]

theorem after_report_refused {x : ClientError} (hr : s.errors.receiving = true)
    (hfull : s.errors.capacity ≤ s.errors.items.size + s.errors.reserved) :
    s.after e (.report x) = s := by
  simp only [after, Mailbox.offerOrDrop, Mailbox.offer_of_full hr hfull, Except.isOk, Except.toBool,
    Bool.false_eq_true, if_false, List.append_nil]

inductive Turn (e : ClientError) (s : Submission) : FatalReport.Input → Submission → Prop
  | none {i : FatalReport.Input} (hg : s.report ≠ .granted)
      (hw : s.report = .waiting → i = .resumed ∧ s.errors.receiving = true) : Turn e s i s
  | giveUp {i : FatalReport.Input} (hw : s.report = .waiting)
      (hr : i = .resumed → s.errors.receiving = false) : Turn e s i { s with report := .lost }
  | enter {i : FatalReport.Input} (hg : s.report = .granted) (hr : s.errors.receiving = true) :
    Turn e s i
      { s with
        report := .delivered
        errors := { s.errors with items := s.errors.items.push e, reserved := s.errors.reserved - 1 }
        entered := s.entered ++ [.fatal] }
  | giveBack {i : FatalReport.Input} (hg : s.report = .granted)
      (hr : s.errors.receiving = true → i = .cancelled) :
    Turn e s i
      { s with report := .lost, errors := { s.errors with reserved := s.errors.reserved - 1 } }

theorem used_self (r : FatalReport) : used r r = [] := if_neg fun h => h.1 h.2

theorem used_lost (r : FatalReport) : used r .lost = [] := if_neg fun h => nomatch h.2

theorem input_eq {i : FatalReport.Input} {r : FatalReport} {m : Mailbox ClientError}
    (h : s.report.step i s.errors e = (r, m)) :
    s.input e i = { s with report := r, errors := m, entered := s.entered ++ used s.report r } := by
  unfold input
  rw [h]

theorem input_same {i : FatalReport.Input}
    (h : s.report.step i s.errors e = (s.report, s.errors)) : s.input e i = s := by
  rw [input_eq h, used_self, List.append_nil]

theorem input_lost {i : FatalReport.Input} {m : Mailbox ClientError}
    (h : s.report.step i s.errors e = (.lost, m)) :
    s.input e i = { s with report := .lost, errors := m } := by
  rw [input_eq h, used_lost, List.append_nil]

theorem turn (e : ClientError) (s : Submission) (i : FatalReport.Input) : Turn e s i (s.input e i) := by
  cases hr : s.report with
  | waiting =>
    by_cases hstays : i = .resumed ∧ s.errors.receiving = true
    · have hstep : s.report.step i s.errors e = (s.report, s.errors) := by
        rw [hr, hstays.1]
        exact if_pos hstays.2
      rw [input_same hstep]
      exact .none (by simp [hr]) fun _ => hstays
    · have hstep : s.report.step i s.errors e = (.lost, s.errors) := by
        rw [hr]
        cases i with
        | resumed => exact if_neg fun h => hstays ⟨rfl, h⟩
        | expired | cancelled => rfl
      rw [input_lost hstep]
      exact .giveUp hr fun hi => Bool.eq_false_iff.mpr fun h => hstays ⟨hi, h⟩
  | granted =>
    by_cases hi : i = .cancelled
    · subst hi
      rw [input_lost (by rw [hr]; rfl)]
      exact .giveBack hr fun _ => rfl
    · have hstep : s.report.step i s.errors e = FatalReport.useRoom s.errors e := by
        rw [hr]
        cases i with
        | resumed | expired => rfl
        | cancelled => exact absurd rfl hi
      by_cases hthere : s.errors.receiving = true
      · rw [input_eq (hstep.trans (if_pos hthere)), hr]
        exact .enter hr hthere
      · rw [input_lost (hstep.trans (if_neg hthere))]
        exact .giveBack hr fun h => absurd h hthere
  | delivered | lost =>
    have hstep : s.report.step i s.errors e = (s.report, s.errors) := by
      rw [hr]
      cases i <;> rfl
    rw [input_same hstep]
    exact .none (by simp [hr]) (by simp [hr])

/-! ### What every step keeps -/

structure Kept (e : ClientError) (initial : Mailbox ClientError) (s : Submission) : Prop where
  receiving : s.errors.receiving = true
  capacity : s.errors.capacity = initial.capacity
  reserved : s.errors.reserved = if s.report = .granted then 1 else 0
  fits : s.errors.items.size + s.errors.reserved ≤ s.errors.capacity
  full : s.report = .waiting → s.errors.items.size = s.errors.capacity
  order : s.taken ++ s.errors.toList = initial.toList ++ s.entered.map (Entry.error e)
  count : s.entered.count .fatal = if s.report = .delivered then 1 else 0

structure Ready (errors : Mailbox ClientError) : Prop where
  receiving : errors.receiving = true
  reserved : errors.reserved = 0
  positive : 0 < errors.capacity
  fits : errors.items.size ≤ errors.capacity

theorem start_of_room (h : Ready initial) (hroom : initial.items.size < initial.capacity) :
    start initial e =
      { report := .delivered
        errors := { initial with items := initial.items.push e }
        entered := [.fatal] } := by
  have hfree : initial.items.size + initial.reserved < initial.capacity := by
    rwa [h.reserved, Nat.add_zero]
  unfold start FatalReport.start
  rw [Mailbox.offer_of_room h.receiving hfree]
  rfl

theorem start_of_full (h : Ready initial) (hfull : initial.items.size = initial.capacity) :
    start initial e = { report := .waiting, errors := initial } := by
  have hnone : initial.capacity ≤ initial.items.size + initial.reserved := by
    rw [h.reserved, hfull]
    exact Nat.le_add_right ..
  unfold start FatalReport.start
  rw [Mailbox.offer_of_full h.receiving hnone]
  rfl

theorem kept_start (h : Ready initial) : Kept e initial (start initial e) := by
  rcases Nat.lt_or_eq_of_le h.fits with hroom | hfull
  · rw [start_of_room h hroom]
    exact {
      receiving := h.receiving
      capacity := rfl
      reserved := h.reserved
      fits := by
        show initial.items.size + 1 + initial.reserved ≤ initial.capacity
        rw [h.reserved]
        exact hroom
      full := nofun
      order := Fifo.toList_push ..
      count := rfl }
  · rw [start_of_full h hfull]
    exact {
      receiving := h.receiving
      capacity := rfl
      reserved := h.reserved
      fits := by
        rw [h.reserved]
        exact h.fits
      full := fun _ => hfull
      order := (List.append_nil _).symm
      count := rfl }

namespace Kept

theorem order_push (h : Kept e initial s) (entry : Entry) :
    s.taken ++ (s.errors.items.push (entry.error e)).toList =
      initial.toList ++ (s.entered ++ [entry]).map (Entry.error e) := by
  rw [Fifo.toList_push, List.map_append, ← List.append_assoc, ← List.append_assoc]
  exact congrArg (· ++ [entry.error e]) h.order

theorem order_receive (h : Kept e initial s) :
    s.taken ++ s.errors.receive.1.item?.toList ++ s.errors.receive.2.toList =
      initial.toList ++ s.entered.map (Entry.error e) := by
  rw [List.append_assoc, Mailbox.receive_append_toList]
  exact h.order

theorem turn {i : FatalReport.Input} {s' : Submission} (h : Kept e initial s)
    (ht : Turn e s i s') : Kept e initial s' := by
  have hreserved := h.reserved
  have hcount := h.count
  have hfits := h.fits
  cases ht with
  | none => exact h
  | giveUp hw =>
    rw [hw] at hreserved hcount
    exact { h with reserved := hreserved, full := nofun, count := hcount }
  | enter hg =>
    rw [hg] at hreserved hcount
    exact {
      receiving := h.receiving
      capacity := h.capacity
      reserved := congrArg (· - 1) hreserved
      -- the error takes up the room that was set aside for it
      fits := by
        rw [hreserved] at hfits
        show s.errors.items.size + 1 + (s.errors.reserved - 1) ≤ s.errors.capacity
        rwa [hreserved]
      full := nofun
      order := h.order_push .fatal
      count := by
        rw [List.count_append, hcount]
        rfl }
  | giveBack hg =>
    rw [hg] at hreserved hcount
    exact {
      receiving := h.receiving
      capacity := h.capacity
      reserved := congrArg (· - 1) hreserved
      fits := Nat.le_trans (Nat.add_le_add_left (Nat.sub_le ..) _) hfits
      full := nofun
      order := h.order
      count := hcount }

theorem input (h : Kept e initial s) (i : FatalReport.Input) : Kept e initial (s.input e i) :=
  h.turn (Submission.turn e s i)

theorem size_receive_lt (h : Kept e initial s) (hp : 0 < initial.capacity)
    (hw : s.report = .waiting) : s.errors.receive.2.items.size < s.errors.capacity := by
  rw [← h.full hw]
  apply Mailbox.size_receive_lt
  rwa [h.full hw, h.capacity]

theorem after_receive_waiting (h : Kept e initial s) (hp : 0 < initial.capacity)
    (hw : s.report = .waiting) :
    s.after e .receive =
      { s with
        report := .granted
        errors := { s.errors.receive.2 with reserved := 1 }
        taken := s.taken ++ s.errors.receive.1.item?.toList } := by
  have hreserved : s.errors.receive.2.reserved = 0 := by
    have := h.reserved
    rw [hw] at this
    exact s.errors.reserved_receive.trans this
  have hfree : s.errors.receive.2.free ≠ 0 := by
    unfold Mailbox.free
    rw [hreserved, s.errors.capacity_receive]
    exact Nat.sub_ne_zero_of_lt (h.size_receive_lt hp hw)
  rw [Submission.after_receive_waiting hw hfree, hreserved]

theorem receive (h : Kept e initial s) (hp : 0 < initial.capacity) :
    Kept e initial (s.after e .receive) := by
  have hreceiving := s.errors.receiving_receive.trans h.receiving
  have hcapacity := s.errors.capacity_receive
  have hreserved := s.errors.reserved_receive
  by_cases hw : s.report = .waiting
  · have hcount := h.count
    rw [hw] at hcount
    rw [h.after_receive_waiting hp hw]
    exact {
      receiving := hreceiving
      capacity := hcapacity.trans h.capacity
      reserved := rfl
      fits := hcapacity ▸ h.size_receive_lt hp hw
      full := nofun
      order := h.order_receive
      count := hcount }
  · rw [after_receive hw]
    exact {
      receiving := hreceiving
      capacity := hcapacity.trans h.capacity
      reserved := hreserved.trans h.reserved
      fits := by
        rw [hreserved, hcapacity]
        exact Nat.le_trans (Nat.add_le_add_right s.errors.size_receive_le _) h.fits
      full := fun hw' => absurd hw' hw
      order := h.order_receive
      count := h.count }

theorem report (h : Kept e initial s) (x : ClientError) : Kept e initial (s.after e (.report x)) := by
  rcases Nat.lt_or_ge (s.errors.items.size + s.errors.reserved) s.errors.capacity with hroom | hfull
  · rw [after_report_accepted h.receiving hroom]
    exact {
      receiving := h.receiving
      capacity := h.capacity
      reserved := h.reserved
      fits := by
        show s.errors.items.size + 1 + s.errors.reserved ≤ s.errors.capacity
        omega
      full := fun hw => by
        have hall := h.full hw
        omega
      order := h.order_push (.other x)
      count := by
        rw [List.count_append, h.count]
        rfl }
  · rwa [after_report_refused h.receiving hfull]

theorem after (h : Kept e initial s) (hp : 0 < initial.capacity) (m : ErrorMove) :
    Kept e initial (s.after e m) := by
  cases m with
  | receive => exact h.receive hp
  | report x => exact h.report x
  | resume => exact h.input .resumed

theorem afterAll (h : Kept e initial s) (hp : 0 < initial.capacity) (moments : List Moment) :
    Kept e initial (s.afterAll e moments) := by
  induction moments generalizing s with
  | nil => exact h
  | cons m moments ih => exact ih (h.after hp m.move)

end Kept

theorem kept_course (h : Ready initial) (e : ClientError) (early : List Moment)
    (stop : FatalReport.Input) (late : List Moment) :
    Kept e initial (course initial e early stop late) :=
  (((kept_start h).afterAll h.positive early).input stop).afterAll h.positive late

/-! ### Reports that get room -/

def Secured (s : Submission) : Prop := s.report = .granted ∨ s.report = .delivered

theorem Secured.ne_waiting (h : Secured s) : s.report ≠ .waiting := by
  rcases h with hr | hr <;> simp [hr]

theorem Secured.after (h : Secured s) (hr : s.errors.receiving = true) (m : ErrorMove) :
    Secured (s.after e m) := by
  cases m with
  | receive =>
    rw [after_receive h.ne_waiting]
    exact h
  | report x => exact h
  | resume =>
    show Secured (s.input e .resumed)
    have ht := turn e s .resumed
    generalize s.input e .resumed = s' at ht ⊢
    cases ht with
    | none => exact h
    | giveUp hw => exact absurd hw h.ne_waiting
    | enter => exact .inr rfl
    | giveBack _ hstop => cases hstop hr

theorem Secured.afterAll (h : Secured s) (hk : Kept e initial s) (hp : 0 < initial.capacity)
    (moments : List Moment) : Secured (s.afterAll e moments) := by
  induction moments generalizing s with
  | nil => exact h
  | cons m moments ih => exact ih (h.after hk.receiving m.move) (hk.after hp m.move)

theorem Secured.expired (h : Secured s) (hr : s.errors.receiving = true) :
    (s.input e .expired).report = .delivered := by
  have ht := turn e s .expired
  generalize s.input e .expired = s' at ht ⊢
  cases ht with
  | none hg => exact h.resolve_left hg
  | giveUp hw => exact absurd hw h.ne_waiting
  | enter => rfl
  | giveBack _ hstop => cases hstop hr

theorem after_of_full {m : ErrorMove} (hr : s.errors.receiving = true)
    (hfull : s.errors.capacity ≤ s.errors.items.size + s.errors.reserved) (hg : s.report ≠ .granted)
    (hm : m ≠ .receive) : s.after e m = s := by
  cases m with
  | receive => exact absurd rfl hm
  | report x => exact after_report_refused hr hfull
  | resume =>
    show s.input e .resumed = s
    have ht := turn e s .resumed
    generalize s.input e .resumed = s' at ht ⊢
    cases ht with
    | none => rfl
    | giveUp _ hgone => cases hr.symm.trans (hgone rfl)
    | enter hg' | giveBack hg' => exact absurd hg' hg

theorem afterAll_of_full {moments : List Moment} (hr : s.errors.receiving = true)
    (hfull : s.errors.capacity ≤ s.errors.items.size + s.errors.reserved) (hg : s.report ≠ .granted)
    (hm : ∀ m ∈ moments, m.move ≠ .receive) : s.afterAll e moments = s := by
  induction moments with
  | nil => rfl
  | cons m moments ih =>
    have hstep : s.after e m.move = s := after_of_full hr hfull hg (hm m List.mem_cons_self)
    show (s.after e m.move).afterAll e moments = s
    rw [hstep]
    exact ih fun m' hmem => hm m' (List.mem_cons_of_mem _ hmem)

theorem Kept.no_room (h : Kept e initial s) (hw : s.report = .waiting) :
    s.errors.capacity ≤ s.errors.items.size + s.errors.reserved := by
  rw [h.full hw]
  exact Nat.le_add_right ..

theorem Kept.secured_of_receive (h : Kept e initial s) (hp : 0 < initial.capacity)
    (hw : s.report = .waiting) {moments : List Moment}
    (hm : ∃ m ∈ moments, m.move = .receive) : Secured (s.afterAll e moments) := by
  induction moments with
  | nil =>
    obtain ⟨m, hmem, _⟩ := hm
    cases hmem
  | cons m moments ih =>
    show Secured ((s.after e m.move).afterAll e moments)
    by_cases hfirst : m.move = .receive
    · have hsecured : Secured (s.after e m.move) := by
        rw [hfirst, h.after_receive_waiting hp hw]
        exact .inl rfl
      exact hsecured.afterAll (h.after hp m.move) hp moments
    · have hstep : s.after e m.move = s :=
        after_of_full h.receiving (h.no_room hw) (by simp [hw]) hfirst
      rw [hstep]
      apply ih
      obtain ⟨m', hmem, hreceive⟩ := hm
      rcases List.mem_cons.mp hmem with rfl | hrest
      · exact absurd hreceive hfirst
      · exact ⟨m', hrest, hreceive⟩

theorem secured_of_room (h : Ready initial) {moments : List Moment}
    (hroom : initial.items.size < initial.capacity ∨ ∃ m ∈ moments, m.move = .receive) :
    Secured ((start initial e).afterAll e moments) := by
  rcases Nat.lt_or_eq_of_le h.fits with hfree | hfull
  · have hsecured : Secured (start initial e) := by
      rw [start_of_room h hfree]
      exact .inr rfl
    exact hsecured.afterAll (kept_start h) h.positive moments
  · have hreceive := hroom.resolve_left (Nat.not_lt_of_ge (Nat.le_of_eq hfull.symm))
    apply (kept_start h).secured_of_receive h.positive ?_ hreceive
    rw [start_of_full h hfull]

/-! ### Reports that are over -/

def Over (s : Submission) : Prop := s.report = .delivered ∨ s.report = .lost

theorem Over.ne_waiting (h : Over s) : s.report ≠ .waiting := by
  rcases h with hr | hr <;> simp [hr]

theorem Over.ne_granted (h : Over s) : s.report ≠ .granted := by
  rcases h with hr | hr <;> simp [hr]

theorem report_after (h : Over s) (m : ErrorMove) : (s.after e m).report = s.report := by
  cases m with
  | receive => rw [after_receive h.ne_waiting]
  | report x => rfl
  | resume =>
    show (s.input e .resumed).report = s.report
    have ht := turn e s .resumed
    generalize s.input e .resumed = s' at ht ⊢
    cases ht with
    | none => rfl
    | giveUp hw => exact absurd hw h.ne_waiting
    | enter hg | giveBack hg => exact absurd hg h.ne_granted

theorem report_afterAll (h : Over s) (moments : List Moment) :
    (s.afterAll e moments).report = s.report := by
  induction moments generalizing s with
  | nil => rfl
  | cons m moments ih =>
    have hstep := report_after (e := e) h m.move
    have hover : Over (s.after e m.move) := by
      unfold Over
      rwa [hstep]
    exact (ih hover).trans hstep

theorem over_input {i : FatalReport.Input} (h : i ≠ .resumed ∨ s.errors.receiving = false) :
    Over (s.input e i) := by
  have ht := turn e s i
  generalize s.input e i = s' at ht ⊢
  cases ht with
  | none hg hw =>
    cases hr : s.report with
    | waiting =>
      obtain ⟨hresumed, hreceiving⟩ := hw hr
      rcases h with hi | hgone
      · exact absurd hresumed hi
      · cases hreceiving.symm.trans hgone
    | granted => exact absurd hr hg
    | delivered => exact .inl hr
    | lost => exact .inr hr
  | giveUp => exact .inr rfl
  | enter => exact .inl rfl
  | giveBack => exact .inr rfl

theorem start_of_closed {gone : Mailbox ClientError} (h : gone.receiving = false) :
    start gone e = { report := .lost, errors := gone } := by
  unfold start FatalReport.start
  rw [Mailbox.offer_of_closed h]
  rfl

theorem over_course (s : Submission) {stop : FatalReport.Input} (hstop : stop ≠ .resumed)
    (late : List Moment) : Over ((s.input e stop).afterAll e late) := by
  have hover : Over (s.input e stop) := over_input (.inl hstop)
  unfold Over
  rwa [report_afterAll hover]

theorem Kept.ready (h : Kept e initial s) (hp : 0 < initial.capacity) (ho : Over s) :
    Ready s.errors where
  receiving := h.receiving
  reserved := h.reserved.trans (if_neg ho.ne_granted)
  positive := h.capacity ▸ hp
  fits := Nat.le_trans (Nat.le_add_right ..) h.fits

theorem course_of_full (h : Ready initial) (hfull : initial.items.size = initial.capacity)
    {early : List Moment} (hearly : ∀ m ∈ early, m.move ≠ .receive) {stop : FatalReport.Input}
    (hstop : stop ≠ .resumed) (late : List Moment) :
    course initial e early stop late = unattempted initial e (early ++ late) := by
  have hnone : initial.capacity ≤ initial.items.size + initial.reserved := by
    rw [hfull]
    exact Nat.le_add_right ..
  have hstays (r : FatalReport) (hg : r ≠ .granted) :
      ({ report := r, errors := initial } : Submission).afterAll e early =
        { report := r, errors := initial } :=
    afterAll_of_full h.receiving hnone hg hearly
  have hstopped : ({ report := .waiting, errors := initial } : Submission).input e stop =
      { report := .lost, errors := initial } := by
    apply input_lost
    cases stop with
    | resumed => exact absurd rfl hstop
    | expired | cancelled => rfl
  unfold course unattempted
  rw [start_of_full h hfull, afterAll_append, hstays _ (by decide), hstays _ (by decide), hstopped]

/-! ### The whole course -/

theorem entered_prefix_after (s : Submission) (m : ErrorMove) :
    s.entered <+: (s.after e m).entered := by
  cases m with
  | receive => exact List.prefix_rfl
  | report x => exact List.prefix_append ..
  | resume => exact List.prefix_append ..

theorem entered_prefix_afterAll (s : Submission) (moments : List Moment) :
    s.entered <+: (s.afterAll e moments).entered := by
  induction moments generalizing s with
  | nil => exact List.prefix_rfl
  | cons m moments ih => exact (entered_prefix_after s m.move).trans (ih (s.after e m.move))

theorem entered_prefix_course {moments early : List Moment} (hm : moments <+: early)
    (stop : FatalReport.Input) (late : List Moment) :
    ((start initial e).afterAll e moments).entered <+:
      (course initial e early stop late).entered := by
  obtain ⟨rest, rfl⟩ := hm
  unfold course
  rw [afterAll_append]
  generalize (start initial e).afterAll e moments = s
  have hrest : s.entered <+: (s.afterAll e rest).entered := entered_prefix_afterAll s rest
  have hstop : (s.afterAll e rest).entered <+: ((s.afterAll e rest).input e stop).entered :=
    List.prefix_append ..
  exact (hrest.trans hstop).trans (entered_prefix_afterAll _ late)

theorem Kept.fatal_mem_iff (h : Kept e initial s) : .fatal ∈ s.entered ↔ s.report = .delivered := by
  rw [← List.count_pos_iff, h.count]
  split <;> simp [*]

/-- A report on its way: all that has entered so far stays in front of its error, and no other report can
take the room that it waits for. -/
structure Pending (s later : Submission) : Prop where
  fatal_not_mem : .fatal ∉ s.entered
  entered : s.entered <+: later.entered
  refused : s.report = .waiting → ∀ x, s.errors.offer x = .error .full
  room : s.report = .granted → ∀ x, (s.errors.offerOrDrop x).items.size < s.errors.capacity

theorem Kept.pending (h : Kept e initial s) {later : Submission} (ho : ¬Over s)
    (hlater : s.entered <+: later.entered) : Pending s later where
  fatal_not_mem hmem := ho (.inl (h.fatal_mem_iff.mp hmem))
  entered := hlater
  refused hw _ := Mailbox.offer_of_full h.receiving (h.no_room hw)
  room hg x := by
    have hreport := h.report x
    have hreserved : (s.errors.offerOrDrop x).reserved = 1 := by
      have := hreport.reserved
      rwa [show (s.after e (.report x)).report = .granted from hg] at this
    have hcapacity : (s.errors.offerOrDrop x).capacity = s.errors.capacity :=
      hreport.capacity.trans h.capacity.symm
    have hfits : (s.errors.offerOrDrop x).items.size + (s.errors.offerOrDrop x).reserved ≤
      (s.errors.offerOrDrop x).capacity := hreport.fits
    rwa [hreserved, hcapacity] at hfits

/-- A report that failed: its error never entered, and all else is as it is without the report. -/
structure Traceless (errors : Mailbox ClientError) (e : ClientError) (moments : List Moment)
    (s : Submission) : Prop where
  report : s.report = .lost
  fatal_not_mem : .fatal ∉ s.entered
  same : s = unattempted errors e moments

theorem traceless_course (h : Ready initial) (hfull : initial.items.size = initial.capacity)
    {early : List Moment} (hearly : ∀ m ∈ early, m.move ≠ .receive) {stop : FatalReport.Input}
    (hstop : stop ≠ .resumed) (late : List Moment) :
    Traceless initial e (early ++ late) (course initial e early stop late) := by
  have hsame := course_of_full (e := e) h hfull hearly hstop late
  have hreport : (course initial e early stop late).report = .lost := by
    rw [hsame]
    exact report_afterAll (.inr rfl) (early ++ late)
  refine ⟨hreport, fun hmem => ?_, hsame⟩
  have hdelivered := (kept_course h e early stop late).fatal_mem_iff.mp hmem
  cases hreport.symm.trans hdelivered

/-- The time of a report is over after the first of these moves and before the others. -/
structure Expires (early late : List Moment) : Prop where
  early : ∀ m ∈ early, m.time.nanos ≤ FatalReport.patience.nanos
  late : ∀ m ∈ late, FatalReport.patience.nanos ≤ m.time.nanos

/-- A report with the moves before and after it is stopped. The mailbox keeps everything in the order in which
it entered, and the error enters exactly if the report is delivered. Whatever stops the report, it is over
then and leaves no room set aside. If there is room at the start or a receive makes some in time, the
error enters once, behind what entered before, and until then no other report can take its room. If there
is none in time, or the report sees the signal to stop before there is any, nothing is left of it. Without
a receiver it is over at once. -/
theorem fatal_report_delivered_or_traceless {errors : Mailbox ClientError} (h : Ready errors)
    (e : ClientError) (early late : List Moment) :
    (∀ stop, let s := course errors e early stop late
      s.taken ++ s.errors.toList = errors.toList ++ s.entered.map (Entry.error e) ∧
      s.entered.count .fatal = if s.report = .delivered then 1 else 0) ∧
    (∀ stop, stop ≠ .resumed → Over (course errors e early stop []) ∧
      Ready (course errors e early stop late).errors) ∧
    (Expires early late → errors.items.size < errors.capacity ∨
        (∃ m ∈ early ++ late, m.move = .receive ∧ m.time < FatalReport.patience) →
      (course errors e early .expired []).report = .delivered ∧
      (course errors e early .expired late).entered.count .fatal = 1) ∧
    (∀ moments stop, moments <+: early → ¬Over ((start errors e).afterAll e moments) →
      Pending ((start errors e).afterAll e moments) (course errors e early stop late)) ∧
    (Expires early late → errors.items.size = errors.capacity →
        (∀ m ∈ early ++ late, m.move = .receive → FatalReport.patience < m.time) →
      Traceless errors e (early ++ late) (course errors e early .expired late)) ∧
    (errors.items.size = errors.capacity → (∀ m ∈ early, m.move ≠ .receive) →
      Traceless errors e (early ++ late) (course errors e early .cancelled late)) ∧
    (∀ gone : Mailbox ClientError, gone.receiving = false →
      start gone e = { report := .lost, errors := gone }) ∧
    ∀ s : Submission, s.errors.receiving = false → Over (s.input e .resumed) := by
  have hkept := fun stop => kept_course h e early stop late
  refine ⟨fun stop => ⟨(hkept stop).order, (hkept stop).count⟩,
    fun stop hstop => ⟨over_input (.inl hstop),
      (hkept stop).ready h.positive (over_course _ hstop late)⟩,
    fun ht hroom => ?_, fun moments stop hm ho => ?_, fun ht hfull hnone => ?_,
    fun hfull hnone => traceless_course h hfull hnone (by decide) late,
    fun gone hgone => start_of_closed hgone, fun s hgone => over_input (.inr hgone)⟩
  · have hbefore : errors.items.size < errors.capacity ∨ ∃ m ∈ early, m.move = .receive := by
      refine hroom.imp_right ?_
      rintro ⟨m, hmem, hreceive, htime⟩
      rcases List.mem_append.mp hmem with hin | hin
      · exact ⟨m, hin, hreceive⟩
      · exact absurd htime (Nat.not_lt_of_ge (ht.late m hin))
    have hdelivered : (course errors e early .expired []).report = .delivered :=
      (secured_of_room h hbefore).expired ((kept_start h).afterAll h.positive early).receiving
    have hlast : (course errors e early .expired late).report = .delivered :=
      (report_afterAll (.inl hdelivered) late).trans hdelivered
    refine ⟨hdelivered, ?_⟩
    rw [(hkept .expired).count, if_pos hlast]
  · exact ((kept_start h).afterAll h.positive moments).pending ho (entered_prefix_course hm stop late)
  · have hunread : ∀ m ∈ early, m.move ≠ .receive := fun m hin hreceive =>
      absurd (hnone m (List.mem_append_left _ hin) hreceive) (Nat.not_lt_of_ge (ht.early m hin))
    exact traceless_course h hfull hunread (by decide) late

/-- A mailbox with room for one error, which is received after 400 ms. Reports before and after that are
turned away, and the fatal error is the next one received. -/
theorem fatal_report_delivered_after_receive :
    let errors : Mailbox ClientError := { capacity := 1, items := Fifo.empty.push .queueFull }
    let early : List Moment := [⟨.ofMillis 100, .report .closed⟩, ⟨.ofMillis 400, .receive⟩,
      ⟨.ofMillis 500, .report .closed⟩]
    let late : List Moment := [⟨.ofMillis 1200, .receive⟩]
    let s := course errors (.maxReconnects 3) early .expired late
    Ready errors ∧ Expires early late ∧ s.entered.count .fatal = 1 ∧
      s.taken = [.queueFull, .maxReconnects 3] := by
  intro errors early late s
  have hready : Ready errors := ⟨rfl, rfl, by decide, by decide⟩
  have ht : Expires early late := ⟨by decide, by decide⟩
  have hcourse := fatal_report_delivered_or_traceless hready (.maxReconnects 3) early late
  have hroom : ∃ m ∈ early ++ late, m.move = .receive ∧ m.time < FatalReport.patience := by decide
  exact ⟨hready, ht, (hcourse.2.2.1 ht (.inr hroom)).2, by decide⟩

end Submission
end OrderEntry

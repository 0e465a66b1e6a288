import OrderEntry.Proofs.Session.ReaderSteps
import Mathlib.Data.List.DropRight

/-! What the read loop does, deed by deed, and in which order while reconnecting is enabled: every failed
read is followed by one reconnect, except for the last of a hundred in a row, which is followed by the
end of the client. The order is given as the paths of a small graph, and the rules on failures in a row
are read off from these paths. -/

namespace OrderEntry

inductive Deed
  | read (link : LinkId) (reading : Reading)
  | reconnect
  | dial
  | dialFailed (attempt : Nat) (cause : TransportError)
  | restored
  | shut (taken : Option LinkId)
  | raised (e : ClientError)
  | ended

namespace Deed

def isEvent : Deed → Bool
  | read _ (.ok (some _)) => true
  | _ => false

def isFailure : Deed → Bool
  | read _ r => r.failure?.isSome
  | _ => false

def isRestored : Deed → Bool
  | restored => true
  | _ => false

def Breaks : Deed → Prop
  | shut _ => True
  | raised e => e = .maxConsecutiveErrors maxConsecutiveErrors
  | _ => False

theorem of_failure {id : LinkId} {r : Reading} (hr : r.failure?.isSome = true) :
    (read id r).isEvent = false ∧ (read id r).isFailure = true := by
  refine ⟨?_, hr⟩
  rcases r with e | _ | e
  · rfl
  · rfl
  · cases hr

end Deed

/-- The number of failed reads since the last event. -/
def failuresInARow (log : List Deed) : Nat :=
  (log.rtakeWhile fun d => !d.isEvent).countP Deed.isFailure

theorem failuresInARow_concat (log : List Deed) (d : Deed) :
    failuresInARow (log ++ [d]) =
      if d.isEvent then 0 else failuresInARow log + if d.isFailure then 1 else 0 := by
  unfold failuresInARow
  rw [List.rtakeWhile_concat]
  cases d.isEvent with
  | true => rfl
  | false => simp [List.countP_append, List.countP_singleton]

theorem failuresInARow_failure {log : List Deed} {id : LinkId} {r : Reading}
    (hr : r.failure?.isSome = true) : failuresInARow (log ++ [.read id r]) = failuresInARow log + 1 := by
  obtain ⟨he, hf⟩ := @Deed.of_failure id _ hr
  rw [failuresInARow_concat, he, hf]
  rfl

def lastDeeds (taken : Option LinkId) : List Deed :=
  [.shut taken, .raised (.maxConsecutiveErrors maxConsecutiveErrors), .ended]

inductive Stage
  | looking (failures : Nat)
  | failed (failures : Nat)
  | restoring (failures : Nat)
  | raised (failures : Nat)
  | tripped (link : LinkId)
  /-- The session was shut down as well, and `rest` is still to be done. -/
  | breaking (link : LinkId) (taken : Option LinkId) (rest : List Deed)
  | finished (failures : Nat)

namespace Stage

inductive Step : Stage → Deed → Stage → Prop
  | event {n : Nat} {id : LinkId} {e : Event} : Step (looking n) (.read id (.ok (some e))) (looking 0)
  | failed {n : Nat} {id : LinkId} {r : Reading} (hr : r.failure?.isSome = true)
      (hn : n + 1 < maxConsecutiveErrors) : Step (looking n) (.read id r) (failed (n + 1))
  | failedLast {n : Nat} {id : LinkId} {r : Reading} (hr : r.failure?.isSome = true)
      (hn : n + 1 = maxConsecutiveErrors) : Step (looking n) (.read id r) (tripped id)
  | shut {id : LinkId} {taken : Option LinkId} :
      Step (tripped id) (.shut taken) (breaking id taken (lastDeeds taken).tail)
  | reconnect {n : Nat} : Step (failed n) .reconnect (restoring n)
  | dial {n : Nat} : Step (restoring n) .dial (restoring n)
  | dialFailed {n k : Nat} {cause : TransportError} :
      Step (restoring n) (.dialFailed k cause) (restoring n)
  | restored {n : Nat} : Step (restoring n) .restored (looking n)
  | raised {n : Nat} {e : ClientError} (he : e ≠ .maxConsecutiveErrors maxConsecutiveErrors) :
      Step (restoring n) (.raised e) (raised n)
  | rest {id : LinkId} {taken : Option LinkId} {d : Deed} {rest : List Deed} :
      Step (breaking id taken (d :: rest)) d (breaking id taken rest)
  | lost {n : Nat} : Step (looking n) .ended (finished n)
  | refused {n : Nat} : Step (restoring n) .ended (finished n)
  | ended {n : Nat} : Step (raised n) .ended (finished n)

inductive Path : Stage → List Deed → Stage → Prop
  | nil (stage : Stage) : Path stage [] stage
  | cons {stage stage' stage'' : Stage} {d : Deed} {log : List Deed} (h : Step stage d stage')
      (hp : Path stage' log stage'') : Path stage (d :: log) stage''

variable {stage stage' stage'' : Stage} {d : Deed} {log before after : List Deed}

theorem Path.append (h : Path stage log stage') {log' : List Deed} (h' : Path stage' log' stage'') :
    Path stage (log ++ log') stage'' := by
  induction h with
  | nil => exact h'
  | cons hs _ ih => exact .cons hs (ih h')

theorem Path.loop (h : ∀ d ∈ log, Step stage d stage) : Path stage log stage := by
  induction log with
  | nil => exact .nil stage
  | cons d log ih =>
    exact .cons (h d List.mem_cons_self) (ih fun d' hd' => h d' (List.mem_cons_of_mem _ hd'))

theorem Path.split (h : Path stage (before ++ after) stage') :
    ∃ mid, Path stage before mid ∧ Path mid after stage' := by
  induction before generalizing stage with
  | nil => exact ⟨stage, .nil stage, h⟩
  | cons d before ih =>
    cases h with
    | cons hs hp =>
      obtain ⟨mid, hb, ha⟩ := ih hp
      exact ⟨mid, .cons hs hb, ha⟩

theorem Path.one (h : Path stage [d] stage') : Step stage d stage' := by
  cases h with
  | cons hs hp =>
    cases hp
    exact hs

def failures : Stage → Nat
  | looking n | failed n | restoring n | raised n | finished n => n
  | tripped _ | breaking .. => maxConsecutiveErrors

def Fits : Stage → Prop
  | looking n | finished n => n < maxConsecutiveErrors
  | failed n | restoring n | raised n => 0 < n ∧ n < maxConsecutiveErrors
  | tripped _ => True
  | breaking _ taken rest => rest <:+ (lastDeeds taken).tail

theorem Fits.failures_le (h : stage.Fits) : stage.failures ≤ maxConsecutiveErrors := by
  cases stage with
  | looking | finished => exact Nat.le_of_lt h
  | failed | restoring | raised => exact Nat.le_of_lt h.2
  | tripped | breaking => exact Nat.le_refl _

theorem fits_start : (looking 0).Fits := Nat.zero_lt_succ 99

theorem Step.fits (h : Step stage d stage') (hf : stage.Fits) : stage'.Fits := by
  cases h with
  | event => exact fits_start
  | failed _ hn => exact ⟨Nat.succ_pos _, hn⟩
  | failedLast => trivial
  | shut => exact List.suffix_refl _
  | reconnect | dial | dialFailed | raised => exact hf
  | restored => exact hf.2
  | rest => exact (List.suffix_cons ..).trans hf
  | lost => exact hf
  | refused | ended => exact hf.2

theorem Path.fits (h : Path stage log stage') (hf : stage.Fits) : stage'.Fits := by
  induction h with
  | nil => exact hf
  | cons hs _ ih => exact ih (hs.fits hf)

theorem quiet_of_mem_lastDeeds {taken : Option LinkId} (h : d ∈ (lastDeeds taken).tail) :
    d.isEvent = false ∧ d.isFailure = false ∧ d.isRestored = false ∧ d ≠ .reconnect := by
  simp only [lastDeeds, List.tail_cons, List.mem_cons, List.not_mem_nil, or_false] at h
  rcases h with rfl | rfl <;> exact ⟨rfl, rfl, rfl, nofun⟩

theorem Step.failures_eq (h : Step stage d stage') (hf : stage.Fits) :
    stage'.failures =
      if d.isEvent then 0 else stage.failures + if d.isFailure then 1 else 0 := by
  cases h with
  | event => rfl
  | failed hr =>
    obtain ⟨he, hf⟩ := Deed.of_failure hr
    rw [he, hf]
    rfl
  | failedLast hr hn =>
    obtain ⟨he, hf⟩ := Deed.of_failure hr
    rw [he, hf]
    exact hn.symm
  | rest =>
    obtain ⟨he, hr, _⟩ := quiet_of_mem_lastDeeds (hf.subset List.mem_cons_self)
    rw [he, hr]
    rfl
  | shut | reconnect | dial | dialFailed | restored | raised | lost | refused | ended => rfl

theorem Path.failures_eq (h : Path (looking 0) log stage) : failuresInARow log = stage.failures := by
  induction log using List.reverseRecOn generalizing stage with
  | nil =>
    cases h
    rfl
  | append_singleton log d ih =>
    obtain ⟨mid, hp, hs⟩ := h.split
    rw [failuresInARow_concat, hs.one.failures_eq (hp.fits fits_start), ih hp]

def restores : Stage → Nat
  | looking n | finished n => n
  | failed n | restoring n | raised n => n - 1
  | tripped _ | breaking .. => maxConsecutiveErrors - 1

theorem Fits.restores_lt (h : stage.Fits) : stage.restores < maxConsecutiveErrors := by
  cases stage with
  | looking | finished => exact h
  | failed n | restoring n | raised n => exact Nat.lt_of_le_of_lt (Nat.sub_le n 1) h.2
  | tripped | breaking => exact Nat.lt_succ_self 99

theorem Step.restores_le (h : Step stage d stage') (hf : stage.Fits) (he : d.isEvent = false) :
    stage.restores + (if d.isRestored then 1 else 0) ≤ stage'.restores := by
  cases h with
  | event => cases he
  | failed | shut | reconnect | dial | dialFailed | raised | lost => exact Nat.le_refl _
  | failedLast _ hn => exact Nat.le_sub_of_add_le (Nat.le_of_eq hn)
  | @restored n => exact Nat.le_of_eq (Nat.sub_add_cancel hf.1)
  | rest =>
    rw [(quiet_of_mem_lastDeeds (hf.subset List.mem_cons_self)).2.2.1]
    exact Nat.le_refl _
  | @refused n | @ended n => exact Nat.sub_le n 1

theorem Path.restores_le (h : Path stage log stage') (hf : stage.Fits)
    (he : ∀ d ∈ log, d.isEvent = false) :
    stage.restores + log.countP Deed.isRestored ≤ stage'.restores := by
  induction h with
  | nil => exact Nat.le_refl _
  | @cons _ _ _ d log hs _ ih =>
    have hd := hs.restores_le hf (he d List.mem_cons_self)
    have hrest := ih (hs.fits hf) fun d' hd' => he d' (List.mem_cons_of_mem _ hd')
    rw [List.countP_cons]
    omega

theorem Path.of_breaking {id : LinkId} {taken : Option LinkId} {rest : List Deed}
    (h : Path (breaking id taken rest) log stage) :
    ∃ rest', stage = breaking id taken rest' ∧ rest = log ++ rest' := by
  induction log generalizing rest with
  | nil =>
    cases h
    exact ⟨rest, rfl, rfl⟩
  | cons d log ih =>
    cases h with
    | cons hs hp =>
      cases hs with
      | rest =>
        obtain ⟨rest', hst, hr⟩ := ih hp
        exact ⟨rest', hst, congrArg _ hr⟩

def Trips (id : LinkId) (log : List Deed) : Stage → Prop
  | tripped id' => id' = id ∧ log = []
  | breaking id' taken rest => id' = id ∧ lastDeeds taken = log ++ rest
  | _ => False

def IsLast : Stage → Prop
  | tripped _ | breaking .. => True
  | _ => False

theorem Trips.isLast {id : LinkId} (h : stage.Trips id log) : stage.IsLast := by
  cases stage with
  | tripped | breaking => trivial
  | looking | failed | restoring | raised | finished => exact h

theorem Path.isLast (h : Path stage log stage') (hl : stage.IsLast) : stage'.IsLast := by
  induction h with
  | nil => exact hl
  | cons hs _ ih =>
    cases hs with
    | shut | rest => exact ih trivial
    | _ => exact hl.elim

theorem Path.of_tripped {id : LinkId} (h : Path (tripped id) log stage) : stage.Trips id log := by
  cases h with
  | nil => exact ⟨rfl, rfl⟩
  | cons hs hp =>
    cases hs with
    | shut =>
      obtain ⟨rest, rfl, hr⟩ := hp.of_breaking
      exact ⟨rfl, congrArg _ hr⟩

theorem Step.of_breaks (h : Step stage d stage') (hb : d.Breaks) :
    stage.failures = maxConsecutiveErrors := by
  cases h with
  | rest | shut => rfl
  | raised he => exact absurd hb he
  | event | failed | failedLast | reconnect | dial | dialFailed | restored | lost | refused | ended =>
    exact hb.elim

theorem Path.after_last {id : LinkId} {r : Reading}
    (h : Path (looking 0) (before ++ .read id r :: after) stage) (hr : r.failure?.isSome = true)
    (hn : failuresInARow before + 1 = maxConsecutiveErrors) : stage.Trips id after := by
  obtain ⟨mid, hp, ha⟩ := h.split
  rw [hp.failures_eq] at hn
  cases ha with
  | cons hs ha =>
    cases hs with
    | event => cases hr
    | failed _ hlt => exact absurd hn (Nat.ne_of_lt hlt)
    | failedLast => exact ha.of_tripped
    | rest =>
      have hm := (hp.fits fits_start).subset List.mem_cons_self
      cases hr.symm.trans (quiet_of_mem_lastDeeds hm).2.1

end Stage

structure Regular (log : List Deed) : Prop where
  atMost : failuresInARow log ≤ maxConsecutiveErrors
  /-- Every failure but the last is followed by a reconnect, -/
  answered : ∀ before id r after, log = before ++ .read id r :: after → r.failure?.isSome = true →
    failuresInARow before + 1 < maxConsecutiveErrors → ∃ rest, after = .reconnect :: rest
  /-- and no reconnect comes without such a failure. -/
  called : ∀ before after, log = before ++ .reconnect :: after →
    ∃ earlier id r, before = earlier ++ [.read id r] ∧ r.failure?.isSome = true ∧
      failuresInARow before < maxConsecutiveErrors
  onlyLast : ∀ before d after, log = before ++ d :: after → d.Breaks →
    failuresInARow before = maxConsecutiveErrors
  restores : ∀ before part after, log = before ++ part ++ after →
    (∀ d ∈ part, d.isEvent = false) → part.countP Deed.isRestored < maxConsecutiveErrors

namespace Stage

variable {stage : Stage} {log : List Deed}

theorem Path.answered (h : Path (looking 0) log stage) (hn : ∀ n, stage ≠ failed n)
    {before after : List Deed} {id : LinkId} {r : Reading} (hl : log = before ++ .read id r :: after)
    (hr : r.failure?.isSome = true) (hb : failuresInARow before + 1 < maxConsecutiveErrors) :
    ∃ rest, after = .reconnect :: rest := by
  subst hl
  obtain ⟨mid, hp, ha⟩ := h.split
  rw [hp.failures_eq] at hb
  cases ha with
  | cons hs ha =>
    cases hs with
    | event => cases hr
    | failed =>
      cases ha with
      | nil => exact absurd rfl (hn _)
      | cons hs' _ =>
        cases hs'
        exact ⟨_, rfl⟩
    | failedLast _ he => exact absurd he (Nat.ne_of_lt hb)
    | rest => exact absurd (Nat.lt_of_succ_lt hb) (Nat.lt_irrefl _)

theorem Path.called (h : Path (looking 0) log stage) {before after : List Deed}
    (hl : log = before ++ .reconnect :: after) :
    ∃ earlier id r, before = earlier ++ [.read id r] ∧ r.failure?.isSome = true ∧
      failuresInARow before < maxConsecutiveErrors := by
  subst hl
  obtain ⟨mid, hp, ha⟩ := h.split
  have hlt : failuresInARow before < maxConsecutiveErrors ∧ ∃ n, mid = failed n := by
    have hf := hp.fits fits_start
    rw [hp.failures_eq]
    cases ha with
    | cons hs _ =>
      cases hs with
      | reconnect => exact ⟨hf.2, _, rfl⟩
      | rest => exact absurd rfl (quiet_of_mem_lastDeeds (hf.subset List.mem_cons_self)).2.2.2
  obtain ⟨hlt, n, rfl⟩ := hlt
  -- only a failed read leads here
  induction before using List.reverseRecOn with
  | nil => cases hp
  | append_singleton earlier d =>
    obtain ⟨mid, _, hs⟩ := hp.split
    cases hs.one with
    | failed hr => exact ⟨earlier, _, _, rfl, hr, hlt⟩

theorem Path.regular (h : Path (looking 0) log stage) (hn : ∀ n, stage ≠ failed n) : Regular log where
  atMost := by
    rw [h.failures_eq]
    exact (h.fits fits_start).failures_le
  answered := fun _ _ _ _ hl hr hb => h.answered hn hl hr hb
  called := fun _ _ hl => h.called hl
  onlyLast := by
    rintro before d after rfl hb
    obtain ⟨mid, hp, ha⟩ := h.split
    rw [hp.failures_eq]
    cases ha with
    | cons hs _ => exact hs.of_breaks hb
  restores := by
    rintro before part after rfl he
    obtain ⟨mid', hp, _⟩ := h.split
    obtain ⟨mid, hp, hpart⟩ := hp.split
    have hf := hp.fits fits_start
    have hle := hpart.restores_le hf he
    have hlt := (hpart.fits hf).restores_lt
    omega

end Stage
end OrderEntry

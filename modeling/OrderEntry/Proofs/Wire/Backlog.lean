import OrderEntry.Proofs.Wire.Chunks
import OrderEntry.Proofs.Wire.Payload.Grammar

/-! How much a peer can make a decoder hold back, and for how long. A decoder is fed and asked for items in
any order, in the stream and at its end, and a ledger notes for every rejected frame what has come and
what was removed of it. Main statement: asked often enough a decoder has no item left, then its buffer
holds less than a message and nothing that is to be dropped, and a rejected frame costs the stream its
header and the bytes that it declared, no more. -/

namespace OrderEntry

/-- What stays in the buffer while no item is there: a line without its newline, or a frame with its
header that lacks a byte. -/
def Framing.backlog : Framing → Nat
  | line => maxMessageBytes
  | framed => maxMessageBytes + 3

structure Rejection where
  declared : Nat
  /-- What has come since its header began, that included. -/
  arrived : Nat
  removed : Nat
  deriving DecidableEq, Repr

namespace Rejection

def arrive (n : Nat) (r : Rejection) : Rejection := { r with arrived := r.arrived + n }

def remove (n : Nat) (r : Rejection) : Rejection := { r with removed := r.removed + n }

end Rejection

namespace Decoder

inductive Call
  | feed (bytes : Bytes)
  | ask (atEnd : Bool)
  deriving DecidableEq, Repr

def framing : Decoder → Framing
  | lines .. => .line
  | frames .. => .framed

def skip : Decoder → Nat
  | lines .. => 0
  | frames _ skip => skip

def isDiscarding : Decoder → Bool
  | lines _ discarding => discarding
  | frames _ skip => skip != 0

/-- The next item, in the stream or at its end. The fault of the end is no item. -/
def ask (atEnd : Bool) (d : Decoder) (buffer : Bytes) : Option Item × Decoder × Bytes :=
  if atEnd then
    match d.nextAtEnd buffer with
    | (.ok item, after) => (item, after)
    | (.error _, after) => (none, after)
  else d.next buffer

def call (d : Decoder) (buffer : Bytes) : Call → Decoder × Bytes
  | .feed bytes => (d, buffer ++ bytes)
  | .ask atEnd => (d.ask atEnd buffer).2

def run (d : Decoder) (buffer : Bytes) : List Call → Decoder × Bytes
  | [] => (d, buffer)
  | c :: calls => (d.call buffer c).1.run (d.call buffer c).2 calls

/-- The rejected frames, the last one first, after one more call. What is skipped at the start of a call
belongs to the last one so far, and all else that a rejecting call removes to the new one. -/
def note (d : Decoder) (buffer : Bytes) (log : List Rejection) : Call → List Rejection
  | .feed bytes => log.map (·.arrive bytes.length)
  | .ask atEnd =>
    let skipped := (buffer.take d.skip).length
    let log := log.modifyHead (·.remove skipped)
    match d.ask atEnd buffer with
    | (some (.error (.frameLength declared)), _, rest) =>
      { declared
        arrived := buffer.length - skipped
        removed := buffer.length - skipped - rest.length } :: log
    | _ => log

def rejections (d : Decoder) (buffer : Bytes) (log : List Rejection) : List Call → List Rejection
  | [] => log
  | c :: calls =>
    (d.call buffer c).1.rejections (d.call buffer c).2 (d.note buffer log c) calls

/-! Both framings -/

theorem ask_lines (atEnd : Bool) (symbols : SymbolFields) (discarding : Bool) (buffer : Bytes) :
    (lines symbols discarding).ask atEnd buffer =
      match LineDecoder.next symbols atEnd discarding buffer with
      | (item, discarding, rest) => (item, lines symbols discarding, rest) := by
  cases atEnd <;> rfl

theorem ask_frames (atEnd : Bool) (symbols : SymbolFields) (skip : Nat) (buffer : Bytes) :
    (frames symbols skip).ask atEnd buffer =
      match FrameDecoder.next symbols skip buffer with
      | (item, skip, rest) => (item, frames symbols skip, rest) := by
  cases atEnd with
  | false => rfl
  | true =>
    rcases hn : FrameDecoder.next symbols skip buffer with ⟨_ | item, skip', rest⟩
    · -- the stream ends cleanly or not, and in both cases there is no item
      rcases skip' with _ | skip' <;> rcases rest with _ | ⟨b, rest⟩ <;>
        simp [ask, nextAtEnd, hn]
    · simp [ask, nextAtEnd, hn]

theorem framing_ask (atEnd : Bool) (d : Decoder) (buffer : Bytes) :
    (d.ask atEnd buffer).2.1.framing = d.framing := by
  cases d with
  | lines symbols discarding =>
    rw [ask_lines]
    rfl
  | frames symbols skip =>
    rw [ask_frames]
    rfl

theorem framing_run (d : Decoder) (buffer : Bytes) (calls : List Call) :
    (d.run buffer calls).1.framing = d.framing := by
  induction calls generalizing d buffer with
  | nil => rfl
  | cons c calls ih =>
    have hcall : (d.call buffer c).1.framing = d.framing := by
      cases c with
      | feed bytes => rfl
      | ask atEnd => exact framing_ask atEnd d buffer
    exact (ih _ _).trans hcall

theorem framing_new (format : WireFormat) : (new format).framing = format.framing := by
  obtain ⟨framing, symbols⟩ := format
  cases framing <;> rfl

/-! ### Running dry -/

theorem weight_lt_of_ask {atEnd : Bool} {d d' : Decoder} {buffer rest : Bytes} {item : Item}
    (h : d.ask atEnd buffer = (some item, d', rest)) : d'.weight rest < d.weight buffer := by
  cases atEnd with
  | false => exact weight_lt_of_next h
  | true =>
    rcases hn : d.nextAtEnd buffer with ⟨_ | item', after⟩
    · simp [ask, hn] at h
    · simp only [ask, hn, if_true] at h
      cases h
      exact weight_lt_of_nextAtEnd hn

def asked (atEnd : Bool) (d : Decoder) (buffer : Bytes) (n : Nat) : Decoder × Bytes :=
  d.run buffer (List.replicate n (.ask atEnd))

def askedItem (atEnd : Bool) (d : Decoder) (buffer : Bytes) (n : Nat) : Option Item :=
  ((d.asked atEnd buffer n).1.ask atEnd (d.asked atEnd buffer n).2).1

theorem askedItem_zero (atEnd : Bool) (d : Decoder) (buffer : Bytes) :
    d.askedItem atEnd buffer 0 = (d.ask atEnd buffer).1 := rfl

theorem askedItem_succ {atEnd : Bool} {d d' : Decoder} {buffer rest : Bytes} {item : Option Item}
    (h : d.ask atEnd buffer = (item, d', rest)) (n : Nat) :
    d.askedItem atEnd buffer (n + 1) = d'.askedItem atEnd rest n := by
  simp only [askedItem, asked, List.replicate_succ, run, call, h]

theorem exists_askedItem_eq_none (atEnd : Bool) (d : Decoder) (buffer : Bytes) :
    ∃ n ≤ d.weight buffer, d.askedItem atEnd buffer n = none ∧
      ∀ k < n, (d.askedItem atEnd buffer k).isSome = true := by
  induction hw : d.weight buffer using Nat.strongRecOn generalizing d buffer with
  | ind w ih =>
    rcases ha : d.ask atEnd buffer with ⟨_ | item, d', rest⟩
    · refine ⟨0, Nat.zero_le _, ?_, nofun⟩
      rw [askedItem_zero, ha]
    · have hlt : d'.weight rest < w := hw ▸ weight_lt_of_ask ha
      obtain ⟨n, hn, hnone, hsome⟩ := ih _ hlt d' rest rfl
      refine ⟨n + 1, Nat.lt_of_le_of_lt hn hlt, (askedItem_succ ha n).trans hnone, fun k hk => ?_⟩
      cases k with
      | zero => rw [askedItem_zero, ha, Option.isSome_some]
      | succ k =>
        rw [askedItem_succ ha]
        exact hsome k (Nat.lt_of_succ_lt_succ hk)

/-! ### What is left in the buffer -/

end Decoder

theorem length_le_of_incomplete {atEnd : Bool} {buffer : Bytes}
    (h : cutLine atEnd buffer = .incomplete) : buffer.length ≤ maxMessageBytes := by
  unfold cutLine at h
  split at h
  · split at h <;> cases h
  · split at h
    · cases h
    next hl => exact Nat.not_lt.mp hl

namespace LineDecoder

theorem backlog_of_nextLine {symbols : SymbolFields} {atEnd discarding : Bool} {buffer rest : Bytes}
    (h : nextLine symbols atEnd buffer = (none, discarding, rest)) :
    rest.length ≤ maxMessageBytes ∧ discarding = false := by
  fun_induction nextLine symbols atEnd buffer with
  | case1 buffer hc =>
    cases h
    exact ⟨length_le_of_incomplete hc, rfl⟩
  | case2 => cases h
  | case3 => cases h
  | case4 _ _ _ _ _ _ ih => exact ih h
  | case5 => cases h

theorem backlog_of_next {symbols : SymbolFields} {atEnd discarding discarding' : Bool}
    {buffer rest : Bytes} (h : next symbols atEnd discarding buffer = (none, discarding', rest)) :
    rest.length ≤ maxMessageBytes ∧ (discarding' = true → rest = []) := by
  unfold next at h
  split at h
  next left hr =>
    cases h
    have hnil : rest = [] := by
      unfold resume at hr
      split at hr
      · split at hr <;> cases hr
        rfl
      · cases hr
    rw [hnil]
    exact ⟨Nat.zero_le _, fun _ => rfl⟩
  next left hr =>
    obtain ⟨hl, hd⟩ := backlog_of_nextLine h
    refine ⟨hl, fun ht => ?_⟩
    cases hd.symm.trans ht

end LineDecoder

namespace FrameDecoder

theorem eq_nil_of_next {symbols : SymbolFields} {skip skip' : Nat} {buffer rest : Bytes}
    {item : Option Item} (h : next symbols skip buffer = (item, skip' + 1, rest)) : rest = [] := by
  cases next_kind h with
  | skipping hd => rfl
  | rejected hd hh hbad hs => exact nothing_left_of_discard hs

theorem backlog_of_next {symbols : SymbolFields} {skip skip' : Nat} {buffer rest : Bytes}
    (h : next symbols skip buffer = (none, skip', rest)) :
    rest.length ≤ maxMessageBytes + 3 := by
  cases next_kind h with
  | skipping hd => exact Nat.zero_le _
  | noHeader hd hh =>
    have hshort := header?_eq_none_iff.mp hh
    omega
  | unfinished hd hh hgood hl =>
    have hlen := length_of_header? hh
    omega

/-! ### What is skipped -/

theorem declared_lt {buffer body : Bytes} {declared : Nat}
    (h : header? buffer = some (declared, body)) : declared < 2 ^ 32 := by
  match buffer, h with
  | a :: b :: c :: d :: _, h =>
    cases h
    have ha := a.toNat_lt
    have hb := b.toNat_lt
    have hc := c.toNat_lt
    have hd := d.toNat_lt
    rw [ofBigEndian_four]
    omega

theorem discard_balance (skip : Nat) (buffer : Bytes) :
    (discard skip buffer).1 + (buffer.take skip).length = skip ∧
      (discard skip buffer).2.length + (buffer.take skip).length = buffer.length := by
  simp only [discard, List.length_take, List.length_drop]
  omega

end FrameDecoder

/-! ### Rejected frames -/

theorem ofPayload_ne_frameLength (symbols : SymbolFields) (line : String) (n : Nat) :
    Event.ofPayload symbols line ≠ .error (.frameLength n) := by
  have hv : Verdict symbols (splitFields (Text.trim line.toList)) (Event.ofPayload symbols line) :=
    .ofPayload line
  revert hv
  generalize splitFields (Text.trim line.toList) = fields
  generalize Event.ofPayload symbols line = r
  intro hv
  cases hv with
  | @badField _ _ _ column f =>
    unfold Column.fault
    split <;> exact nofun
  | blank | unknownType | fieldCount | event => exact nofun

theorem ofBytes_ne_frameLength (symbols : SymbolFields) (bytes : Bytes) (n : Nat) :
    Event.ofBytes symbols bytes ≠ .error (.frameLength n) := by
  unfold Event.ofBytes
  split
  · exact ofPayload_ne_frameLength symbols _ n
  · exact nofun

theorem ofFrame_ne_frameLength (symbols : SymbolFields) (payload : Bytes) (n : Nat) :
    Event.ofFrame symbols payload ≠ .error (.frameLength n) := by
  have hb := ofBytes_ne_frameLength symbols payload n
  unfold Event.ofFrame
  split
  · rintro ⟨⟩
  · rintro ⟨⟩
  next he =>
    rw [he] at hb
    rintro ⟨⟩
    exact hb rfl

theorem nextLine_ne_frameLength (symbols : SymbolFields) (atEnd : Bool) (buffer : Bytes) (n : Nat) :
    (LineDecoder.nextLine symbols atEnd buffer).1 ≠ some (.error (.frameLength n)) := by
  fun_induction LineDecoder.nextLine symbols atEnd buffer with
  | case1 | case2 | case3 => rintro ⟨⟩
  | case4 _ _ _ _ _ _ ih => exact ih
  | case5 buffer line rest hc e he =>
    have hb := ofBytes_ne_frameLength symbols (dropReturn line) n
    rw [he] at hb
    rintro ⟨⟩
    exact hb rfl

namespace Rejection

structure Complete (r : Rejection) : Prop where
  removed : r.removed = 4 + r.declared
  arrived : r.removed ≤ r.arrived

theorem Complete.arrive {r : Rejection} (h : r.Complete) (n : Nat) : (r.arrive n).Complete :=
  ⟨h.removed, Nat.le_trans h.arrived (Nat.le_add_right _ n)⟩

inductive Charged : Nat → Bytes → List Rejection → Prop
  | even {buffer : Bytes} {log : List Rejection} (h : ∀ r ∈ log, r.Complete) : Charged 0 buffer log
  | owing {skip : Nat} {buffer : Bytes} {r : Rejection} {log : List Rejection}
      (lacks : r.removed + (skip + 1) = 4 + r.declared)
      (arrived : r.arrived = r.removed + buffer.length) (h : ∀ r ∈ log, r.Complete) :
      Charged (skip + 1) buffer (r :: log)

variable {skip : Nat} {buffer : Bytes} {log : List Rejection}

theorem Charged.feed (h : Charged skip buffer log) (bytes : Bytes) :
    Charged skip (buffer ++ bytes) (log.map (·.arrive bytes.length)) := by
  have hmap : ∀ log : List Rejection, (∀ r ∈ log, r.Complete) →
      ∀ r ∈ log.map (·.arrive bytes.length), r.Complete := by
    intro log hlog r hr
    obtain ⟨r', hr', rfl⟩ := List.mem_map.mp hr
    exact (hlog r' hr').arrive _
  cases h with
  | even hlog => exact .even (hmap log hlog)
  | owing lacks arrived hlog =>
    refine .owing lacks ?_ (hmap _ hlog)
    simp only [arrive, List.length_append]
    omega

theorem Charged.discard (h : Charged skip buffer log) :
    Charged (FrameDecoder.discard skip buffer).1 (FrameDecoder.discard skip buffer).2
      (log.modifyHead (·.remove (buffer.take skip).length)) := by
  obtain ⟨hskip, hlength⟩ := FrameDecoder.discard_balance skip buffer
  rcases hd : FrameDecoder.discard skip buffer with ⟨left, rest⟩
  rw [hd] at hskip hlength
  dsimp only at hskip hlength ⊢
  cases h with
  | even hlog =>
    obtain rfl : left = 0 := by omega
    have hsame : log.modifyHead (·.remove (buffer.take 0).length) = log := by
      cases log <;> rfl
    rw [hsame]
    exact .even hlog
  | @owing skip _ r log lacks arrived hlog =>
    generalize (buffer.take (skip + 1)).length = taken at hskip hlength
    rw [List.modifyHead_cons]
    cases left with
    | zero =>
      have hr : (r.remove taken).Complete := by
        refine ⟨?_, ?_⟩ <;> simp only [remove] <;> omega
      exact .even (List.forall_mem_cons.mpr ⟨hr, hlog⟩)
    | succ left =>
      refine .owing ?_ ?_ hlog <;> simp only [remove] <;> omega

theorem charged_header (h : ∀ r ∈ log, r.Complete) (declared : Nat) (body : Bytes) :
    Charged declared body (⟨declared, 4 + body.length, 4⟩ :: log) := by
  cases declared with
  | zero =>
    have hr : Complete ⟨0, 4 + body.length, 4⟩ := ⟨rfl, Nat.le_add_right _ _⟩
    exact .even (List.forall_mem_cons.mpr ⟨hr, h⟩)
  | succ declared => exact .owing rfl rfl h

theorem Charged.complete (h : Charged 0 buffer log) : ∀ r ∈ log, r.Complete := by
  cases h with
  | even hlog => exact hlog

theorem declared_lt_modifyHead {n : Nat} (h : ∀ r ∈ log, r.declared < 2 ^ 32) :
    ∀ r ∈ log.modifyHead (·.remove n), r.declared < 2 ^ 32 := by
  cases log with
  | nil => exact nofun
  | cons r log =>
    obtain ⟨hr, hlog⟩ := List.forall_mem_cons.mp h
    exact List.forall_mem_cons.mpr ⟨hr, hlog⟩

theorem Charged.removed_eq (h : Charged skip buffer log) (hn : skip ≠ 0 → buffer = []) :
    ∀ r ∈ log, r.removed = min (4 + r.declared) r.arrived := by
  have hcomplete : ∀ r : Rejection, r.Complete → r.removed = min (4 + r.declared) r.arrived := by
    intro r hr
    rw [← hr.removed, Nat.min_eq_left hr.arrived]
  cases h with
  | even hlog => exact fun r hr => hcomplete r (hlog r hr)
  | owing lacks arrived hlog =>
    refine List.forall_mem_cons.mpr ⟨?_, fun r hr => hcomplete r (hlog r hr)⟩
    rw [hn (Nat.succ_ne_zero _), List.length_nil] at arrived
    omega

theorem Charged.removed_le (h : Charged skip buffer log) :
    ∀ r ∈ log, r.removed ≤ min (4 + r.declared) r.arrived := by
  have hcomplete : ∀ r : Rejection, r.Complete → r.removed ≤ min (4 + r.declared) r.arrived :=
    fun r hr => Nat.le_min.mpr ⟨Nat.le_of_eq hr.removed, hr.arrived⟩
  cases h with
  | even hlog => exact fun r hr => hcomplete r (hlog r hr)
  | owing lacks arrived hlog =>
    refine List.forall_mem_cons.mpr ⟨?_, fun r hr => hcomplete r (hlog r hr)⟩
    omega

end Rejection

namespace Decoder

structure Fits (buffer : Bytes) (log : List Rejection) (d : Decoder) : Prop where
  charged : Rejection.Charged d.skip buffer log
  skip_lt : d.skip < 2 ^ 32
  declared_lt : ∀ r ∈ log, r.declared < 2 ^ 32

variable {d : Decoder} {buffer : Bytes} {log : List Rejection}

theorem note_ask_of_ne {atEnd : Bool}
    (h : ∀ n, (d.ask atEnd buffer).1 ≠ some (.error (.frameLength n))) :
    d.note buffer log (.ask atEnd) = log.modifyHead (·.remove (buffer.take d.skip).length) := by
  unfold note
  dsimp only
  split
  next declared _ _ ha =>
    refine absurd ?_ (h declared)
    rw [ha]
  next => rfl

theorem note_ask_of_frameLength {atEnd : Bool} {d' : Decoder} {rest : Bytes} {declared : Nat}
    (h : d.ask atEnd buffer = (some (.error (.frameLength declared)), d', rest)) :
    d.note buffer log (.ask atEnd) =
      ⟨declared, buffer.length - (buffer.take d.skip).length,
        buffer.length - (buffer.take d.skip).length - rest.length⟩ ::
        log.modifyHead (·.remove (buffer.take d.skip).length) := by
  simp only [note, h]

theorem Fits.ask_lines {symbols : SymbolFields} {discarding : Bool}
    (h : (lines symbols discarding).Fits buffer log) (atEnd discarding' : Bool) (rest : Bytes) :
    (lines symbols discarding').Fits rest ((lines symbols discarding).note buffer log (.ask atEnd)) := by
  have hne : ∀ n, ((lines symbols discarding).ask atEnd buffer).1 ≠ some (.error (.frameLength n)) := by
    intro n
    rw [Decoder.ask_lines]
    unfold LineDecoder.next
    rcases LineDecoder.resume discarding buffer with ⟨_ | _, left⟩
    · exact nextLine_ne_frameLength symbols atEnd left n
    · rintro ⟨⟩
  have hd := h.charged.discard
  simp only [skip, FrameDecoder.discard, Nat.zero_sub] at hd
  rw [note_ask_of_ne hne]
  exact ⟨.even hd.complete, Nat.two_pow_pos 32, Rejection.declared_lt_modifyHead h.declared_lt⟩

theorem Fits.ask_frames {symbols : SymbolFields} {skip skip' : Nat} {item : Option Item} {rest : Bytes}
    (h : (frames symbols skip).Fits buffer log) (atEnd : Bool)
    (hn : FrameDecoder.next symbols skip buffer = (item, skip', rest)) :
    (frames symbols skip').Fits rest ((frames symbols skip).note buffer log (.ask atEnd)) := by
  have ha : (frames symbols skip).ask atEnd buffer = (item, frames symbols skip', rest) := by
    rw [Decoder.ask_frames, hn]
  have hd : Rejection.Charged (FrameDecoder.discard skip buffer).1 (FrameDecoder.discard skip buffer).2
      (log.modifyHead (·.remove (buffer.take skip).length)) := h.charged.discard
  have hskip : skip < 2 ^ 32 := h.skip_lt
  have hdeclared := @Rejection.declared_lt_modifyHead log (buffer.take skip).length h.declared_lt
  obtain ⟨hleft, hlength⟩ := FrameDecoder.discard_balance skip buffer
  -- without a rejection only the bytes skipped first are noted
  have hquiet : (∀ n, item ≠ some (.error (.frameLength n))) →
      (frames symbols skip).note buffer log (.ask atEnd) =
        log.modifyHead (·.remove (buffer.take skip).length) := by
    intro hne
    refine note_ask_of_ne fun n => ?_
    rw [ha]
    exact hne n
  cases FrameDecoder.next_kind hn with
  | @skipping left hdis =>
    rw [hdis] at hd hleft
    have hlt : left + 1 < 2 ^ 32 := by omega
    rw [hquiet fun _ => nofun]
    exact ⟨hd, hlt, hdeclared⟩
  | noHeader hdis | unfinished hdis =>
    rw [hdis] at hd
    rw [hquiet fun _ => nofun]
    exact ⟨hd, Nat.two_pow_pos 32, hdeclared⟩
  | frame hdis hh hgood hl =>
    rw [hdis] at hd
    rw [hquiet fun n hi => ofFrame_ne_frameLength symbols _ n (Option.some.inj hi)]
    exact ⟨.even hd.complete, Nat.two_pow_pos 32, hdeclared⟩
  | @rejected _ body _ declared _ hdis hh hbad hs =>
    rw [hdis] at hd hlength
    have hlt := FrameDecoder.declared_lt hh
    have hheader := FrameDecoder.length_of_header? hh
    obtain ⟨hleft', hlength'⟩ := FrameDecoder.discard_balance declared body
    have hcharged := (Rejection.charged_header hd.complete declared body).discard
    rw [hs] at hleft' hlength' hcharged
    dsimp only at hlength hleft' hlength' hcharged
    have hlt' : skip' < 2 ^ 32 := by omega
    -- what this call removed of the new frame: its header and what is there of its body
    have hnew : Rejection.mk declared (buffer.length - (buffer.take skip).length)
          (buffer.length - (buffer.take skip).length - rest.length) =
        Rejection.remove (body.take declared).length ⟨declared, 4 + body.length, 4⟩ := by
      simp only [Rejection.remove, Rejection.mk.injEq, true_and]
      omega
    rw [note_ask_of_frameLength ha]
    refine ⟨?_, hlt', List.forall_mem_cons.mpr ⟨hlt, hdeclared⟩⟩
    exact hnew ▸ hcharged

theorem Fits.feed (h : d.Fits buffer log) (bytes : Bytes) :
    d.Fits (buffer ++ bytes) (log.map (·.arrive bytes.length)) := by
  refine ⟨h.charged.feed bytes, h.skip_lt, fun r hr => ?_⟩
  obtain ⟨r', hr', rfl⟩ := List.mem_map.mp hr
  exact h.declared_lt r' hr'

theorem Fits.call (h : d.Fits buffer log) (c : Call) :
    (d.call buffer c).1.Fits (d.call buffer c).2 (d.note buffer log c) := by
  cases c with
  | feed bytes => exact h.feed bytes
  | ask atEnd =>
    cases d with
    | lines symbols discarding =>
      simp only [call, Decoder.ask_lines]
      exact h.ask_lines atEnd _ _
    | frames symbols skip =>
      simp only [call, Decoder.ask_frames]
      exact h.ask_frames atEnd rfl

theorem Fits.run (h : d.Fits buffer log) (calls : List Call) :
    (d.run buffer calls).1.Fits (d.run buffer calls).2 (d.rejections buffer log calls) := by
  induction calls generalizing d buffer log with
  | nil => exact h
  | cons c calls ih => exact ih (h.call c)

theorem fits_new (format : WireFormat) : (new format).Fits [] [] := by
  obtain ⟨framing, symbols⟩ := format
  cases framing with
  | line | framed => exact ⟨.even nofun, Nat.two_pow_pos 32, nofun⟩

theorem nothing_to_skip_of_ask {atEnd : Bool} {d' : Decoder} {rest : Bytes} {item : Option Item}
    (h : d.ask atEnd buffer = (item, d', rest)) (hs : d'.skip ≠ 0) : rest = [] := by
  cases d with
  | lines symbols discarding =>
    rw [Decoder.ask_lines] at h
    cases h
    exact absurd rfl hs
  | frames symbols skip =>
    rcases hn : FrameDecoder.next symbols skip buffer with ⟨item', skip', rest'⟩
    rw [Decoder.ask_frames, hn] at h
    cases h
    obtain ⟨left, rfl⟩ := Nat.exists_eq_succ_of_ne_zero hs
    exact FrameDecoder.eq_nil_of_next hn

theorem backlog_of_ask {atEnd : Bool} {d' : Decoder} {rest : Bytes}
    (h : d.ask atEnd buffer = (none, d', rest)) :
    rest.length ≤ d.framing.backlog ∧ (d'.isDiscarding = true → rest = []) := by
  cases d with
  | lines symbols discarding =>
    rcases hn : LineDecoder.next symbols atEnd discarding buffer with ⟨item, discarding', rest'⟩
    rw [Decoder.ask_lines, hn] at h
    cases h
    exact LineDecoder.backlog_of_next hn
  | frames symbols skip =>
    have hskip := nothing_to_skip_of_ask h
    rcases hn : FrameDecoder.next symbols skip buffer with ⟨item, skip', rest'⟩
    rw [Decoder.ask_frames, hn] at h
    cases h
    exact ⟨FrameDecoder.backlog_of_next hn, fun hd => hskip (bne_iff_ne.mp hd)⟩

theorem run_append (d : Decoder) (buffer : Bytes) (calls calls' : List Call) :
    d.run buffer (calls ++ calls') = (d.run buffer calls).1.run (d.run buffer calls).2 calls' := by
  induction calls generalizing d buffer with
  | nil => rfl
  | cons c calls ih => exact ih _ _

end Decoder

def reached (format : WireFormat) (calls : List Decoder.Call) : Decoder :=
  ((Decoder.new format).run [] calls).1

def rejected (format : WireFormat) (calls : List Decoder.Call) : List Rejection :=
  (Decoder.new format).rejections [] [] calls

/-- Whatever a decoder was fed and asked, and whatever it finds in its buffer: it has an item only so
often, and when it has none the buffer holds less than one message, and nothing that is to be dropped. What
it skips is never more than a header can declare, and no rejected frame costs more than its header and the
bytes it declared: that much is gone once it has come, and all that has come until then. -/
theorem backlog_bounded (format : WireFormat) (calls : List Decoder.Call) :
    (∀ atEnd buffer, ∃ n ≤ 2 * buffer.length + 1,
      (reached format calls).askedItem atEnd buffer n = none ∧
        ∀ k < n, ((reached format calls).askedItem atEnd buffer k).isSome = true) ∧
    (Framing.line.backlog = 16384 ∧ Framing.framed.backlog = 16387) ∧
    (∀ atEnd buffer d rest, (reached format calls).ask atEnd buffer = (none, d, rest) →
      rest.length ≤ format.framing.backlog ∧ (d.isDiscarding = true → rest = [])) ∧
    (reached format calls).skip < 2 ^ 32 ∧
    (∀ skip buffer, (FrameDecoder.discard skip buffer).1 + (buffer.take skip).length = skip) ∧
    (∀ r ∈ rejected format calls,
      r.declared < 2 ^ 32 ∧ r.removed ≤ min (4 + r.declared) r.arrived) ∧
    ∀ atEnd, ∀ r ∈ rejected format (calls ++ [.ask atEnd]),
      r.removed = min (4 + r.declared) r.arrived := by
  have hfits := (Decoder.fits_new format).run calls
  have hframing : (reached format calls).framing = format.framing :=
    (Decoder.framing_run _ _ _).trans (Decoder.framing_new format)
  refine ⟨fun atEnd buffer => ?_, ⟨rfl, rfl⟩, fun atEnd buffer d rest h => ?_, hfits.skip_lt,
    fun skip buffer => (FrameDecoder.discard_balance skip buffer).1,
    fun r hr => ⟨hfits.declared_lt r hr, hfits.charged.removed_le r hr⟩, fun atEnd => ?_⟩
  · obtain ⟨n, hn, hnone, hsome⟩ := (reached format calls).exists_askedItem_eq_none atEnd buffer
    exact ⟨n, Nat.le_trans hn (Decoder.weight_le _ _), hnone, hsome⟩
  · exact hframing ▸ Decoder.backlog_of_ask h
  · have hlast := (Decoder.fits_new format).run (calls ++ [.ask atEnd])
    rw [Decoder.run_append] at hlast
    exact hlast.charged.removed_eq (Decoder.nothing_to_skip_of_ask rfl)

example : rejected ⟨.framed, .omitted⟩ [.feed [0, 0, 78, 32, 1, 2, 3], .ask false] =
    [⟨20000, 7, 7⟩] := by decide

end OrderEntry

import OrderEntry.Proofs.Wire.FrameStream
import OrderEntry.Proofs.Wire.LineStream

/-! A stream that arrives in pieces. A decoder is asked for items after every piece, until it has none, and
once more at the end. Main statements: in both framings the items, and the fault of the end, are
those of the whole stream, wherever it was cut. -/

namespace OrderEntry
namespace Decoder

def feed (d : Decoder) (buffer : Bytes) : List Bytes → List Item × Decoder × Bytes
  | [] => ([], d, buffer)
  | chunk :: chunks =>
    let (items, d, rest) := d.drain (buffer ++ chunk)
    let (more, last) := d.feed rest chunks
    (items ++ more, last)

def pending : Decoder → Bytes → Transcript
  | lines symbols discarding, bytes => (LineDecoder.pending symbols discarding bytes, none)
  | frames symbols skip, bytes => FrameDecoder.pending symbols skip bytes

/-! One step -/

theorem pending_of_next {d d' : Decoder} {buffer rest : Bytes} {item : Option Item}
    (h : d.next buffer = (item, d', rest)) (more : Bytes) :
    d.pending (buffer ++ more) = (d'.pending (rest ++ more)).after item.toList := by
  cases d with
  | lines symbols discarding =>
    rcases hn : LineDecoder.next symbols false discarding buffer with ⟨i, discarding', r⟩
    simp only [next, hn] at h
    cases h
    exact Prod.ext (LineDecoder.pending_of_next hn more (by simp)) rfl
  | frames symbols skip =>
    rcases hn : FrameDecoder.next symbols skip buffer with ⟨i, skip', r⟩
    simp only [next, hn] at h
    cases h
    exact FrameDecoder.pending_of_next hn more

theorem pending_of_nextAtEnd {d d' : Decoder} {buffer rest : Bytes} {item : Item}
    (h : d.nextAtEnd buffer = (.ok (some item), d', rest)) :
    d.pending buffer = (d'.pending rest).after [item] := by
  cases d with
  | lines symbols discarding =>
    rcases hn : LineDecoder.next symbols true discarding buffer with ⟨i, discarding', r⟩
    simp only [nextAtEnd, hn] at h
    cases h
    have hp := LineDecoder.pending_of_next hn [] fun _ => rfl
    rw [List.append_nil, List.append_nil] at hp
    exact Prod.ext hp rfl
  | frames symbols skip =>
    simp only [nextAtEnd] at h
    split at h
    next hn =>
      cases h
      have hp := FrameDecoder.pending_of_next hn []
      rw [List.append_nil, List.append_nil] at hp
      exact hp
    · cases h
    · cases h

theorem pending_of_nextAtEnd_none {d d' : Decoder} {buffer rest : Bytes}
    (h : d.nextAtEnd buffer = (.ok none, d', rest)) : d.pending buffer = ([], none) := by
  cases d with
  | lines symbols discarding =>
    rcases hn : LineDecoder.next symbols true discarding buffer with ⟨i, discarding', r⟩
    simp only [nextAtEnd, hn] at h
    cases h
    have hp := LineDecoder.pending_of_next hn [] fun _ => rfl
    rw [List.append_nil, List.append_nil, LineDecoder.pending_of_next_none hn] at hp
    exact Prod.ext hp rfl
  | frames symbols skip =>
    simp only [nextAtEnd] at h
    split at h
    · cases h
    next hn =>
      have hp := FrameDecoder.pending_of_next hn []
      rw [List.append_nil, List.append_nil, FrameDecoder.pending_of_next_none hn] at hp
      exact hp
    · cases h

theorem pending_of_nextAtEnd_error {d d' : Decoder} {buffer rest : Bytes} {e : EndError}
    (h : d.nextAtEnd buffer = (.error e, d', rest)) : d.pending buffer = ([], some e) := by
  cases d with
  | lines symbols discarding =>
    simp only [nextAtEnd] at h
    cases h
  | frames symbols skip =>
    simp only [nextAtEnd] at h
    split at h
    · cases h
    · cases h
    next skip' rest' hr hn =>
      cases h
      have hne : ¬(skip' = 0 ∧ rest = []) := fun he => hr he.1 he.2
      have hp := FrameDecoder.pending_of_next hn []
      rw [List.append_nil, List.append_nil, FrameDecoder.pending_of_next_none hn, if_neg hne] at hp
      exact hp

/-! A whole run -/

/-- Something that is read off a whole stream, and from which every step takes what it puts out. -/
structure Conserved {β : Type} (view : Decoder → Bytes → β) (after : β → List Item → β) : Prop where
  nil (t : β) : after t [] = t
  append (t : β) (items items' : List Item) : after (after t items') items = after t (items ++ items')
  next {d d' : Decoder} {buffer rest : Bytes} {item : Option Item}
    (h : d.next buffer = (item, d', rest)) (more : Bytes) :
    view d (buffer ++ more) = after (view d' (rest ++ more)) item.toList

section

variable {β : Type} {view : Decoder → Bytes → β} {after : β → List Item → β} {d d' : Decoder}
  {buffer rest : Bytes} {items : List Item}

theorem Conserved.drain (hv : Conserved view after) (h : d.drain buffer = (items, d', rest))
    (more : Bytes) : view d (buffer ++ more) = after (view d' (rest ++ more)) items := by
  fun_induction Decoder.drain d buffer generalizing items with
  | case1 d buffer d' rest hn =>
    cases h
    exact hv.next hn more
  | case2 d buffer item d₁ rest₁ hn _ items₁ last hd ih =>
    cases h
    rw [hv.next hn, ih hd, hv.append]
    rfl

theorem Conserved.feed (hv : Conserved view after) {chunks : List Bytes}
    (h : d.feed buffer chunks = (items, d', rest)) :
    view d (buffer ++ chunks.flatten) = after (view d' rest) items := by
  induction chunks generalizing d buffer items with
  | nil =>
    cases h
    rw [List.flatten_nil, List.append_nil, hv.nil]
  | cons chunk chunks ih =>
    rcases hd : d.drain (buffer ++ chunk) with ⟨items₁, d₁, rest₁⟩
    rcases hf : d₁.feed rest₁ chunks with ⟨items₂, d₂, rest₂⟩
    simp only [Decoder.feed, hd, hf] at h
    cases h
    rw [List.flatten_cons, ← List.append_assoc, hv.drain hd, ih hf, hv.append]

end

theorem pending_conserved : Conserved pending Transcript.after :=
  ⟨Transcript.after_nil, Transcript.after_after, pending_of_next⟩

theorem pending_eq_finish (d : Decoder) (buffer : Bytes) :
    d.pending buffer = ((d.finish buffer).1, (d.finish buffer).2.1) := by
  fun_induction finish d buffer with
  | case1 d buffer e d' rest hn => exact pending_of_nextAtEnd_error hn
  | case2 d buffer d' rest hn => exact pending_of_nextAtEnd_none hn
  | case3 d buffer item d' rest hn _ items last hf ih =>
    rw [pending_of_nextAtEnd hn, ih, hf]
    rfl

/-! Number of items -/

theorem weight_le (d : Decoder) (buffer : Bytes) : d.weight buffer ≤ 2 * buffer.length + 1 := by
  cases d with
  | lines symbols discarding =>
    simp only [weight, LineDecoder.weight]
    split <;> omega
  | frames symbols skip =>
    simp only [weight]
    omega

theorem length_finish_le (d : Decoder) (buffer : Bytes) :
    (d.finish buffer).1.length ≤ d.weight buffer := by
  fun_induction finish d buffer with
  | case1 | case2 => exact Nat.zero_le _
  | case3 d buffer item d' rest hn hlt items last hf ih =>
    rw [hf] at ih
    rw [List.length_cons]
    exact Nat.lt_of_le_of_lt ih hlt

end Decoder

def decodeChunks (format : WireFormat) (chunks : List Bytes) : Transcript :=
  let (items, d, rest) := (Decoder.new format).feed [] chunks
  let (more, fault, _) := d.finish rest
  (items ++ more, fault)

theorem decodeChunks_eq_pending (format : WireFormat) (chunks : List Bytes) :
    decodeChunks format chunks = (Decoder.new format).pending chunks.flatten := by
  rcases hf : (Decoder.new format).feed [] chunks with ⟨items, d, rest⟩
  have hp := Decoder.pending_conserved.feed hf
  rw [List.nil_append, Decoder.pending_eq_finish d rest] at hp
  simp only [decodeChunks, hf]
  exact hp.symm

/-- Lines: every line gives its own item, and the stream ends cleanly. -/
theorem decodeChunks_line (symbols : SymbolFields) (chunks : List Bytes) :
    decodeChunks ⟨.line, symbols⟩ chunks = (itemsOfLineStream symbols chunks.flatten, none) :=
  decodeChunks_eq_pending ⟨.line, symbols⟩ chunks

/-- Frames: every header that is all there gives one item, and only a stream that ends inside a
frame ends with a fault. -/
theorem decodeChunks_framed (symbols : SymbolFields) (chunks : List Bytes) :
    decodeChunks ⟨.framed, symbols⟩ chunks = itemsOfFrameStream symbols chunks.flatten :=
  decodeChunks_eq_pending ⟨.framed, symbols⟩ chunks

end OrderEntry

import OrderEntry.Proofs.Wire.Backlog
import OrderEntry.Proofs.Wire.Framing
import OrderEntry.Wire.Datagram

/-! A datagram next to a stream of the same bytes. Both read the same items; where the stream ends inside a
frame, the datagram also reports the bytes that the stream leaves in its buffer. Main statement: a datagram
gives the items of the stream, however that was cut, and one fault for such bytes, and it gives no more
items than it has bytes. -/

namespace OrderEntry

def leftOver (format : WireFormat) (chunks : List Bytes) : Bytes :=
  let (_, d, rest) := (Decoder.new format).feed [] chunks
  (d.finish rest).2.2

def cutOffItem (fault : Option EndError) (left : Bytes) : List Item :=
  if fault = some .insideFrame ∧ left ≠ [] then [.error (.frameLength (announcedLength left))] else []

theorem itemsOfDatagram_eq (format : WireFormat) (bytes : Bytes) :
    itemsOfDatagram format bytes =
      ((Decoder.new format).finish bytes).1 ++ cutOffItem ((Decoder.new format).finish bytes).2.1
        ((Decoder.new format).finish bytes).2.2 := by
  unfold itemsOfDatagram
  rcases (Decoder.new format).finish bytes with ⟨items, _ | ⟨⟨⟩⟩, _ | ⟨b, rest⟩⟩ <;> simp [cutOffItem]

theorem announcedLength_eq (bytes : Bytes) :
    announcedLength bytes = if 4 ≤ bytes.length then ofBigEndian (bytes.take 4) else bytes.length := by
  match bytes with
  | [] | [_] | [_, _] | [_, _, _] => rfl
  | _ :: _ :: _ :: _ :: _ => simp [announcedLength, FrameDecoder.header?]

/-! ### What a cut-off frame leaves -/

namespace FrameDecoder

/-- The frame at the end of a stream that lacks a byte of its header or of its message. Of a rejected frame
nothing is left. -/
def remainder (bytes : Bytes) : Bytes :=
  match h : header? bytes with
  | none => bytes
  | some (declared, body) =>
    if body.length < declared ∧ declared ≤ maxMessageBytes then bytes
    else
      have := length_of_header? h
      remainder (body.drop declared)
termination_by bytes.length
decreasing_by
  simp only [List.length_drop]
  omega

theorem remainder_of_header?_none {bytes : Bytes} (h : header? bytes = none) :
    remainder bytes = bytes := by
  rw [remainder]
  split
  · rfl
  next hh => cases h.symm.trans hh

theorem remainder_of_header? {bytes body : Bytes} {declared : Nat}
    (h : header? bytes = some (declared, body)) :
    remainder bytes =
      if body.length < declared ∧ declared ≤ maxMessageBytes then bytes
      else remainder (body.drop declared) := by
  rw [remainder]
  split
  next hh => cases h.symm.trans hh
  next hh =>
    cases h.symm.trans hh
    rfl

theorem drop_discard (skip : Nat) (buffer more : Bytes) :
    ((discard skip buffer).2 ++ more).drop (discard skip buffer).1 = (buffer ++ more).drop skip := by
  simp only [discard, List.length_take]
  by_cases h : skip ≤ buffer.length
  · rw [Nat.min_eq_left h, Nat.sub_self, List.drop_zero, List.drop_append_of_le_length h]
  · have hle : buffer.length ≤ skip := Nat.le_of_not_le h
    rw [Nat.min_eq_right hle, List.drop_eq_nil_of_le hle, List.nil_append, List.drop_append,
      List.drop_eq_nil_of_le hle, List.nil_append]

variable {symbols : SymbolFields} {skip skip' : Nat} {buffer rest : Bytes}

theorem remainder_of_next {item : Option Item} (h : next symbols skip buffer = (item, skip', rest))
    (more : Bytes) : remainder ((buffer ++ more).drop skip) = remainder ((rest ++ more).drop skip') := by
  rw [← drop_discard]
  cases next_kind h with
  | skipping hd | noHeader hd | unfinished hd => rw [hd]
  | @rejected _ body _ declared _ hd hh hbad hs =>
    have hdrop := drop_discard declared body more
    rw [hs] at hdrop
    have hlong : ¬((body ++ more).length < declared ∧ declared ≤ maxMessageBytes) := by
      rw [List.length_append]
      omega
    rw [hd, List.drop_zero, remainder_of_header? (header?_append hh more), if_neg hlong, hdrop]
  | @frame _ body declared hd hh hgood hl =>
    have hwhole : ¬((body ++ more).length < declared ∧ declared ≤ maxMessageBytes) := by
      rw [List.length_append]
      omega
    rw [hd, List.drop_zero, remainder_of_header? (header?_append hh more), if_neg hwhole,
      List.drop_append_of_le_length hl, List.drop_zero]

theorem remainder_of_next_none (h : next symbols skip buffer = (none, skip', rest)) :
    remainder (rest.drop skip') = rest := by
  cases next_kind h with
  | skipping hd => exact remainder_of_header?_none rfl
  | noHeader hd hh => exact remainder_of_header?_none hh
  | unfinished hd hh hgood hl =>
    rw [List.drop_zero, remainder_of_header? hh, if_pos ⟨hl, by omega⟩]

end FrameDecoder

namespace Decoder

def remainder : Decoder → Bytes → Bytes
  | lines .., _ => []
  | frames _ skip, bytes => FrameDecoder.remainder (bytes.drop skip)

variable {d d' : Decoder} {buffer rest : Bytes}

theorem remainder_of_next {item : Option Item} (h : d.next buffer = (item, d', rest)) (more : Bytes) :
    d.remainder (buffer ++ more) = d'.remainder (rest ++ more) := by
  cases d with
  | lines symbols discarding =>
    cases h
    rfl
  | frames symbols skip =>
    rcases hn : FrameDecoder.next symbols skip buffer with ⟨i, skip', r⟩
    simp only [next, hn] at h
    cases h
    exact FrameDecoder.remainder_of_next hn more

theorem remainder_of_nextAtEnd {item : Item} (h : d.nextAtEnd buffer = (.ok (some item), d', rest)) :
    d.remainder buffer = d'.remainder rest := by
  cases d with
  | lines symbols discarding =>
    rcases hn : LineDecoder.next symbols true discarding buffer with ⟨i, discarding', r⟩
    simp only [nextAtEnd, hn] at h
    cases h
    rfl
  | frames symbols skip =>
    simp only [nextAtEnd] at h
    split at h
    next hn =>
      cases h
      have hr := FrameDecoder.remainder_of_next hn []
      rw [List.append_nil, List.append_nil] at hr
      exact hr
    · cases h
    · cases h

theorem remainder_of_nextAtEnd_error {e : EndError} (h : d.nextAtEnd buffer = (.error e, d', rest)) :
    d.remainder buffer = rest := by
  cases d with
  | lines symbols discarding => cases h
  | frames symbols skip =>
    simp only [nextAtEnd] at h
    split at h
    · cases h
    · cases h
    next hn =>
      cases h
      have hr := FrameDecoder.remainder_of_next hn []
      rw [List.append_nil, List.append_nil, FrameDecoder.remainder_of_next_none hn] at hr
      exact hr

theorem remainder_conserved : Conserved remainder fun left _ => left :=
  ⟨fun _ => rfl, fun _ _ _ => rfl, remainder_of_next⟩

theorem left_of_finish (h : (d.finish buffer).2.1 = some .insideFrame) :
    (d.finish buffer).2.2 = d.remainder buffer := by
  fun_induction finish d buffer with
  | case1 d buffer e d' rest hn => exact (remainder_of_nextAtEnd_error hn).symm
  | case2 => cases h
  | case3 d buffer item d' rest hn _ items last hf ih =>
    rw [hf] at ih
    exact (ih h).trans (remainder_of_nextAtEnd hn).symm

theorem askedItem_finish (d : Decoder) (buffer : Bytes) :
    ∀ k ≤ (d.finish buffer).1.length, d.askedItem true buffer k = (d.finish buffer).1[k]? := by
  fun_induction finish d buffer with
  | case1 d buffer e d' rest hn =>
    intro k hk
    obtain rfl := Nat.le_zero.mp hk
    simp only [askedItem_zero, ask, hn, if_true, List.getElem?_nil]
  | case2 d buffer d' rest hn =>
    intro k hk
    obtain rfl := Nat.le_zero.mp hk
    simp only [askedItem_zero, ask, hn, if_true, List.getElem?_nil]
  | case3 d buffer item d' rest hn _ items last hf ih =>
    have ha : d.ask true buffer = (some item, d', rest) := by
      simp only [ask, hn, if_true]
    rw [hf] at ih
    intro k hk
    cases k with
    | zero => rw [askedItem_zero, ha, List.getElem?_cons_zero]
    | succ k =>
      rw [askedItem_succ ha, List.getElem?_cons_succ]
      exact ih k (Nat.le_of_succ_le_succ hk)

/-! ### A stream that ends where a frame ends -/

theorem exists_frames_of_next {symbols : SymbolFields} {skip : Nat} {item : Option Item}
    (h : (frames symbols skip).next buffer = (item, d', rest)) :
    ∃ skip', d' = frames symbols skip' ∧
      FrameDecoder.next symbols skip buffer = (item, skip', rest) := by
  rcases hn : FrameDecoder.next symbols skip buffer with ⟨i, skip', r⟩
  simp only [next, hn] at h
  cases h
  exact ⟨skip', rfl, rfl⟩

theorem pending_of_drained {symbols : SymbolFields} {skip : Nat} {items : List Item}
    (h : (frames symbols skip).drain buffer = (items, d', rest)) :
    ∃ skip', d' = frames symbols skip' ∧
      d'.pending rest = ([], if skip' = 0 ∧ rest = [] then none else some .insideFrame) := by
  generalize hd : frames symbols skip = d at h
  fun_induction drain d buffer generalizing items skip with
  | case1 d buffer d₁ rest₁ hn =>
    cases h
    subst hd
    obtain ⟨skip', rfl, hf⟩ := exists_frames_of_next hn
    exact ⟨skip', rfl, FrameDecoder.pending_of_next_none hf⟩
  | case2 d buffer item d₁ rest₁ hn _ items₁ last hl ih =>
    cases h
    subst hd
    obtain ⟨skip', rfl, _⟩ := exists_frames_of_next hn
    exact ih rfl hl

theorem drain_of_clean {symbols : SymbolFields} {items : List Item}
    (h : FrameDecoder.pending symbols 0 buffer = (items, none)) :
    (frames symbols 0).drain buffer = (items, frames symbols 0, []) := by
  rcases hd : (frames symbols 0).drain buffer with ⟨items', d', rest⟩
  obtain ⟨skip', rfl, hend⟩ := pending_of_drained hd
  have hp := pending_conserved.drain hd []
  rw [List.append_nil, List.append_nil, hend] at hp
  obtain ⟨hitems, hfault⟩ := Prod.mk.inj (h.symm.trans hp)
  -- anything left would be the fault that the stream does not have
  split at hfault
  next hclean =>
    obtain ⟨rfl, rfl⟩ := hclean
    rw [hitems, List.append_nil]
  next => cases hfault

/-! ### Number of items -/

theorem length_left_le {e : EndError} (h : d.nextAtEnd buffer = (.error e, d', rest)) :
    rest.length ≤ d.weight buffer := by
  cases d with
  | lines symbols discarding => cases h
  | frames symbols skip =>
    simp only [nextAtEnd] at h
    split at h
    · cases h
    · cases h
    next skip' rest' _ hn =>
      cases h
      obtain ⟨-, hbalance⟩ := FrameDecoder.discard_balance skip buffer
      change rest.length ≤ buffer.length
      cases FrameDecoder.next_kind hn with
      | skipping hd => exact Nat.zero_le _
      | noHeader hd | unfinished hd =>
        rw [hd] at hbalance
        dsimp only at hbalance
        omega

theorem length_finish_add_left_le (h : (d.finish buffer).2.1 = some .insideFrame) :
    (d.finish buffer).1.length + (d.finish buffer).2.2.length ≤ d.weight buffer := by
  fun_induction finish d buffer with
  | case1 d buffer e d' rest hn =>
    rw [List.length_nil, Nat.zero_add]
    exact length_left_le hn
  | case2 => cases h
  | case3 d buffer item d' rest hn hlt items last hf ih =>
    rw [hf] at ih
    have hle := ih h
    dsimp only at hle ⊢
    rw [List.length_cons]
    omega

end Decoder

theorem length_flatten_splitOn_le (bytes : Bytes) :
    (bytes.splitOn newline).flatten.length ≤ bytes.length := by
  induction bytes with
  | nil => exact Nat.le_refl _
  | cons b bytes ih =>
    rw [List.splitOn_cons_eq_if_modifyHead, List.length_cons]
    split
    · rw [List.flatten_cons, List.nil_append]
      exact Nat.le_succ_of_le ih
    · rcases hs : bytes.splitOn newline with _ | ⟨line, lines⟩
      · exact absurd hs (List.splitOn_ne_nil newline bytes)
      · rw [hs, List.flatten_cons, List.length_append] at ih
        rw [List.modifyHead_cons, List.flatten_cons, List.length_append, List.length_cons]
        omega

theorem lineItem?_nil (symbols : SymbolFields) : lineItem? symbols [] = none := by
  cases symbols <;> rfl

theorem length_lineItem?_le (symbols : SymbolFields) (line : Bytes) :
    (lineItem? symbols line).toList.length ≤ line.length := by
  cases line with
  | nil =>
    rw [lineItem?_nil]
    exact Nat.le_refl 0
  | cons b line =>
    have hone : (lineItem? symbols (b :: line)).toList.length ≤ 1 := Option.length_toList_le
    rw [List.length_cons]
    omega

theorem length_itemsOfLines_le (symbols : SymbolFields) (lines : List Bytes) :
    (itemsOfLines symbols lines).length ≤ lines.flatten.length := by
  fun_induction itemsOfLines symbols lines with
  | case1 => exact Nat.le_refl _
  | case2 rest hblank => exact Nat.zero_le _
  | case3 rest hblank =>
    rw [List.flatten_singleton]
    exact length_lineItem?_le symbols rest
  | case4 line lines _ ih =>
    have hline := length_lineItem?_le symbols line
    rw [List.length_append, List.flatten_cons, List.length_append]
    omega

theorem length_itemsOfLineStream_le (symbols : SymbolFields) (bytes : Bytes) :
    (itemsOfLineStream symbols bytes).length ≤ bytes.length :=
  Nat.le_trans (length_itemsOfLines_le symbols _) (length_flatten_splitOn_le bytes)

/-! ### The datagram as a whole -/

theorem cutOffItem_congr {fault : Option EndError} {left left' : Bytes}
    (h : fault = some .insideFrame → left = left') : cutOffItem fault left = cutOffItem fault left' := by
  rcases fault with _ | ⟨⟨⟩⟩
  · rfl
  · rw [h rfl]

theorem itemsOfDatagram_eq_pending (format : WireFormat) (bytes : Bytes) :
    itemsOfDatagram format bytes =
      ((Decoder.new format).pending bytes).1 ++
        cutOffItem ((Decoder.new format).pending bytes).2 ((Decoder.new format).remainder bytes) := by
  rw [itemsOfDatagram_eq, Decoder.pending_eq_finish]
  exact congrArg _ (cutOffItem_congr Decoder.left_of_finish)

theorem length_itemsOfDatagram_le (format : WireFormat) (bytes : Bytes) :
    (itemsOfDatagram format bytes).length ≤ bytes.length := by
  obtain ⟨framing, symbols⟩ := format
  cases framing with
  | line =>
    rw [itemsOfDatagram_eq_pending]
    exact (List.append_nil _).symm ▸ length_itemsOfLineStream_le symbols bytes
  | framed =>
    have hitems := (Decoder.new ⟨.framed, symbols⟩).length_finish_le bytes
    have hleft := @Decoder.length_finish_add_left_le (Decoder.new ⟨.framed, symbols⟩) bytes
    rw [itemsOfDatagram_eq, List.length_append]
    rcases hf : (Decoder.new ⟨.framed, symbols⟩).finish bytes with ⟨items, _ | ⟨⟨⟩⟩, left⟩ <;>
      rw [hf] at hitems hleft
    · exact hitems
    · -- the fault takes the place of at least one byte
      have hone : (cutOffItem (some .insideFrame) left).length ≤ left.length := by
        cases left with
        | nil => exact Nat.le_refl 0
        | cons b left => exact Nat.succ_le_succ (Nat.zero_le _)
      exact Nat.le_trans (Nat.add_le_add_left hone _) (hleft rfl)

theorem leftOver_eq {format : WireFormat} {chunks : List Bytes}
    (h : (decodeChunks format chunks).2 = some .insideFrame) :
    leftOver format chunks = (Decoder.new format).remainder chunks.flatten := by
  rcases hf : (Decoder.new format).feed [] chunks with ⟨items, d, rest⟩
  simp only [decodeChunks, hf] at h
  have hr := Decoder.remainder_conserved.feed hf
  rw [List.nil_append] at hr
  simp only [leftOver, hf]
  rw [hr, Decoder.left_of_finish h]

section Framed

variable {symbols : SymbolFields}

theorem itemsOfDatagram_framed (symbols : SymbolFields) (bytes : Bytes) :
    itemsOfDatagram ⟨.framed, symbols⟩ bytes =
      (itemsOfFrameStream symbols bytes).1 ++
        cutOffItem (itemsOfFrameStream symbols bytes).2 (FrameDecoder.remainder bytes) :=
  itemsOfDatagram_eq_pending ⟨.framed, symbols⟩ bytes

theorem itemsOfDatagram_append {bytes : Bytes} (h : (itemsOfFrameStream symbols bytes).2 = none)
    (more : Bytes) :
    itemsOfDatagram ⟨.framed, symbols⟩ (bytes ++ more) =
      (itemsOfFrameStream symbols bytes).1 ++ itemsOfDatagram ⟨.framed, symbols⟩ more := by
  have hclean : FrameDecoder.pending symbols 0 bytes = ((itemsOfFrameStream symbols bytes).1, none) :=
    Prod.ext rfl h
  have hd := Decoder.drain_of_clean hclean
  have hp := Decoder.pending_conserved.drain hd more
  have hr := Decoder.remainder_conserved.drain hd more
  rw [itemsOfDatagram_eq_pending, itemsOfDatagram_eq_pending]
  simp only [Decoder.new]
  rw [hp, hr, List.nil_append]
  exact List.append_assoc _ _ _

theorem itemsOfDatagram_cutOff {n : Nat} (hn : n < 2 ^ 32) {body : Bytes} (hl : body.length < n) :
    itemsOfDatagram ⟨.framed, symbols⟩ (bigEndian n ++ body) = [.error (.frameLength n)] := by
  have hh := header?_bigEndian hn body
  rw [itemsOfDatagram_framed, FrameDecoder.itemsOfFrameStream_header hh,
    FrameDecoder.remainder_of_header? hh]
  by_cases hbad : n = 0 ∨ maxMessageBytes < n
  · have hlong : ¬(body.length < n ∧ n ≤ maxMessageBytes) := by omega
    have hnil : FrameDecoder.remainder (body.drop n) = [] := by
      rw [List.drop_eq_nil_of_le (Nat.le_of_lt hl)]
      exact FrameDecoder.remainder_of_header?_none rfl
    rw [if_pos hbad, if_neg hlong, hnil, FrameDecoder.pending, if_pos hl]
    rfl
  · have hshort : body.length < n ∧ n ≤ maxMessageBytes := by omega
    have hne : bigEndian n ++ body ≠ [] := by simp [bigEndian]
    have hannounced : announcedLength (bigEndian n ++ body) = n := by
      rw [announcedLength, hh]
    rw [if_neg hbad, if_pos hl, if_pos hshort, cutOffItem, if_pos ⟨rfl, hne⟩, hannounced]
    rfl

theorem itemsOfDatagram_cutHeader {bytes : Bytes} (hne : bytes ≠ []) (hl : bytes.length < 4) :
    itemsOfDatagram ⟨.framed, symbols⟩ bytes = [.error (.frameLength bytes.length)] := by
  have hh : FrameDecoder.header? bytes = none := FrameDecoder.header?_eq_none_iff.mpr hl
  rw [itemsOfDatagram_framed, FrameDecoder.itemsOfFrameStream_no_header hh,
    FrameDecoder.remainder_of_header?_none hh, if_neg hne, cutOffItem, if_pos ⟨rfl, hne⟩,
    announcedLength, hh]
  rfl

end Framed

/-- A datagram gives what a stream of its bytes gives, however that was cut, and where the stream ends in
the middle of a frame with bytes left over, one fault with the length that they announce. Asked until it has
none, a decoder gives these items and no others; there are at most as many as bytes. -/
theorem datagram_decodes_as_stream (format : WireFormat) (chunks : List Bytes) :
    (itemsOfDatagram format chunks.flatten =
      (decodeChunks format chunks).1 ++
        if (decodeChunks format chunks).2 = some .insideFrame ∧ leftOver format chunks ≠ [] then
          [.error (.frameLength (announcedLength (leftOver format chunks)))]
        else []) ∧
    (∀ left, announcedLength left =
      if 4 ≤ left.length then ofBigEndian (left.take 4) else left.length) ∧
    (format.framing = .line →
      itemsOfDatagram format chunks.flatten = (decodeChunks format chunks).1) ∧
    (format.framing = .framed → (decodeChunks format chunks).2 = none →
      (∀ n < 2 ^ 32, ∀ body : Bytes, body.length < n →
        itemsOfDatagram format (chunks.flatten ++ (bigEndian n ++ body)) =
          (decodeChunks format chunks).1 ++ [.error (.frameLength n)]) ∧
      ∀ header : Bytes, header ≠ [] → header.length < 4 →
        itemsOfDatagram format (chunks.flatten ++ header) =
          (decodeChunks format chunks).1 ++ [.error (.frameLength header.length)]) ∧
    (∀ k ≤ (decodeChunks format chunks).1.length,
      (Decoder.new format).askedItem true chunks.flatten k = (decodeChunks format chunks).1[k]?) ∧
    (itemsOfDatagram format chunks.flatten).length ≤ chunks.flatten.length := by
  have hstream : itemsOfDatagram format chunks.flatten =
      (decodeChunks format chunks).1 ++
        cutOffItem (decodeChunks format chunks).2 (leftOver format chunks) := by
    rw [itemsOfDatagram_eq_pending, ← decodeChunks_eq_pending]
    exact congrArg _ (cutOffItem_congr fun h => (leftOver_eq h).symm)
  have hitems : (decodeChunks format chunks).1 = ((Decoder.new format).finish chunks.flatten).1 := by
    rw [decodeChunks_eq_pending, Decoder.pending_eq_finish]
  refine ⟨hstream, announcedLength_eq, fun hline => ?_, fun hframed hclean => ?_, ?_,
    length_itemsOfDatagram_le format chunks.flatten⟩
  · obtain ⟨framing, symbols⟩ := format
    subst hline
    rw [hstream, decodeChunks_line]
    exact List.append_nil _
  · obtain ⟨framing, symbols⟩ := format
    subst hframed
    rw [decodeChunks_framed] at hclean
    rw [decodeChunks_framed]
    refine ⟨fun n hn body hl => ?_, fun header hne hl => ?_⟩
    · rw [itemsOfDatagram_append hclean, itemsOfDatagram_cutOff hn hl]
    · rw [itemsOfDatagram_append hclean, itemsOfDatagram_cutHeader hne hl]
  · rw [hitems]
    exact (Decoder.new format).askedItem_finish chunks.flatten

end OrderEntry

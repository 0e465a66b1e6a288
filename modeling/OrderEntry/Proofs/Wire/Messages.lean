import OrderEntry.Proofs.Text.Utf8
import OrderEntry.Proofs.Wire.Framing
import OrderEntry.Proofs.Wire.Payload.Fields
import OrderEntry.Proofs.Wire.Readings

/-! Streams of arbitrary messages. A message that both framings can carry gives one reading, the same in
both, and however malformed it is, its neighbours are read as if it were well-formed. -/

namespace OrderEntry

def isBlankMessage (message : Bytes) : Bool :=
  (ofUtf8? message).any fun text => text.toList.all Text.isBlank

/-- Within the limits of both framings, whether or not it means anything. -/
structure Portable (message : Bytes) : Prop where
  nonempty : 1 ≤ message.length
  short : message.length ≤ maxMessageBytes
  oneLine : newline ∉ message
  notBlank : isBlankMessage message = false

variable {symbols : SymbolFields} {message : Bytes} {messages : List Bytes}

/-! One message -/

theorem isBlankMessage_of_ofBytes (h : Event.ofBytes symbols message = .ok none) :
    isBlankMessage message = true := by
  unfold Event.ofBytes at h
  split at h
  next text htext =>
    unfold Event.ofPayload readLine at h
    dsimp only at h
    split at h
    next hempty =>
      have htrim := Text.trim_eq_nil_iff.mp (List.isEmpty_iff.mp hempty)
      simpa [isBlankMessage, htext] using htrim
    next =>
      obtain ⟨e, _, he⟩ := map_eq_ok.mp h
      cases he
  next => cases h

theorem Portable.ofBytes_ne (h : Portable message) (symbols : SymbolFields) :
    Event.ofBytes symbols message ≠ .ok none := by
  intro hread
  have hblank := isBlankMessage_of_ofBytes hread
  rw [h.notBlank] at hblank
  cases hblank

theorem readLine_concat_return {α : Type} (ofFields : List Field → Except DecodeError α)
    (line : String) : readLine ofFields (line ++ "\r") = readLine ofFields line := by
  have hline : (line ++ "\r").toList = line.toList ++ ['\r'] := String.toList_append
  have htrim := Text.trim_concat_of_blank (by decide : Text.isBlank '\r' = true) line.toList
  unfold readLine
  rw [hline, htrim]

theorem ofBytes_dropReturn (symbols : SymbolFields) (message : Bytes) :
    Event.ofBytes symbols (dropReturn message) = Event.ofBytes symbols message := by
  unfold dropReturn
  split
  next hlast =>
    obtain ⟨start, rfl⟩ := List.getLast?_eq_some_iff.mp hlast
    -- to the reader of fields the lost carriage return is a blank at the end of the line
    have hread : ∀ line, Event.ofPayload symbols (line ++ "\r") = Event.ofPayload symbols line :=
      readLine_concat_return _
    unfold Event.ofBytes
    rw [List.dropLast_concat, ofUtf8?_concat_return]
    cases ofUtf8? start with
    | none => rfl
    | some line => exact (hread line).symm
  next => rfl

theorem Portable.ofBytes_eq (h : Portable message) (symbols : SymbolFields) :
    Event.ofBytes symbols message = (Event.ofFrame symbols message).map some := by
  have hne := h.ofBytes_ne symbols
  unfold Event.ofFrame
  rcases hread : Event.ofBytes symbols message with e | _ | event
  · rfl
  · exact absurd hread hne
  · rfl

theorem Portable.lineItem?_eq (h : Portable message) (symbols : SymbolFields) :
    lineItem? symbols message = some (Event.ofFrame symbols message) := by
  rw [lineItem?_eq_ofBytes symbols h.short, ofBytes_dropReturn, h.ofBytes_eq]
  cases Event.ofFrame symbols message <;> rfl

theorem Portable.reading_ofFrame (h : Portable message) (symbols : SymbolFields) :
    Item.reading (Event.ofFrame symbols message) =
      (Event.ofBytes symbols message).mapError .decode := by
  rw [h.ofBytes_eq]
  cases Event.ofFrame symbols message <;> rfl

/-! A stream of messages -/

theorem itemsOfLineStream_wrap (h : ∀ m ∈ messages, Portable m) :
    itemsOfLineStream symbols (messages.flatMap Framing.line.wrap) =
      messages.map (Event.ofFrame symbols) := by
  induction messages with
  | nil => rfl
  | cons m messages ih =>
    obtain ⟨hm, hmore⟩ := List.forall_mem_cons.mp h
    have hrest := ih hmore
    have hitem := hm.lineItem?_eq symbols
    rw [List.flatMap_cons, Framing.wrap, List.append_assoc, List.singleton_append,
      itemsOfLineStream_line symbols hm.oneLine, hitem, hrest]
    rfl

theorem itemsOfFrameStream_wrap (h : ∀ m ∈ messages, Portable m) :
    itemsOfFrameStream symbols (messages.flatMap Framing.framed.wrap) =
      (messages.map (Event.ofFrame symbols), none) := by
  induction messages with
  | nil => simp [itemsOfFrameStream]
  | cons m messages ih =>
    obtain ⟨hm, hmore⟩ := List.forall_mem_cons.mp h
    have hrest := ih hmore
    have hlow := hm.nonempty
    have hhigh := hm.short
    have hheader := header?_wrap (Nat.lt_of_le_of_lt hhigh (by decide))
      (messages.flatMap Framing.framed.wrap)
    have hgood : ¬(m.length = 0 ∨ maxMessageBytes < m.length) := by omega
    have hthere : ¬(m ++ messages.flatMap Framing.framed.wrap).length < m.length := by
      rw [List.length_append]
      omega
    rw [List.flatMap_cons, FrameDecoder.itemsOfFrameStream_header hheader, if_neg hgood,
      if_neg hthere, List.drop_left, List.take_left, hrest, ← ofFrame_eq_frameItem]
    rfl

theorem decodeChunks_wrap (format : WireFormat) (h : ∀ m ∈ messages, Portable m)
    {chunks : List Bytes} (hchunks : chunks.flatten = messages.flatMap format.framing.wrap) :
    decodeChunks format chunks = (messages.map (Event.ofFrame format.symbols), none) := by
  rw [decodeChunks_eq_pending, hchunks]
  obtain ⟨framing, symbols⟩ := format
  cases framing with
  | line => exact Prod.ext (itemsOfLineStream_wrap h) rfl
  | framed => exact itemsOfFrameStream_wrap h

theorem readings_wrap (format : WireFormat) (h : ∀ m ∈ messages, Portable m)
    {chunks : List Bytes} (hne : ∀ chunk ∈ chunks, chunk ≠ [])
    (hchunks : chunks.flatten = messages.flatMap format.framing.wrap) :
    (StreamReader.new format).readingsToEnd (chunks.map .bytes) 1 =
      messages.map (fun m => (Event.ofBytes format.symbols m).mapError .decode) ++ [.ok none] := by
  have hread : (messages.map (Event.ofFrame format.symbols)).map Item.reading =
      messages.map fun m => (Event.ofBytes format.symbols m).mapError .decode := by
    rw [List.map_map]
    apply List.map_congr_left
    intro m hm
    exact (h m hm).reading_ofFrame format.symbols
  rw [StreamReader.readingsToEnd_chunks format hne, decodeChunks_wrap format h hchunks,
    Transcript.readings, hread]
  rfl

/-- Both framings take every such message, each message gives the reading that it gives alone, none of them
the reading of an end, and after the last one the stream ends cleanly. -/
theorem framings_read_alike (symbols : SymbolFields) (messages : List Bytes)
    (h : ∀ m ∈ messages, Portable m) :
    (∀ framing, ∀ m ∈ messages, frame framing m = .ok (framing.wrap m)) ∧
    (∀ m ∈ messages, Event.ofBytes symbols m ≠ .ok none) ∧
    (∀ (framing : Framing) (chunks : List Bytes), (∀ chunk ∈ chunks, chunk ≠ []) →
      chunks.flatten = messages.flatMap framing.wrap →
        (StreamReader.new ⟨framing, symbols⟩).readingsToEnd (chunks.map .bytes) 1 =
          messages.map (fun m => (Event.ofBytes symbols m).mapError .decode) ++ [.ok none]) ∧
    ∀ lineChunks frameChunks : List Bytes,
      (∀ chunk ∈ lineChunks, chunk ≠ []) → (∀ chunk ∈ frameChunks, chunk ≠ []) →
      lineChunks.flatten = messages.flatMap Framing.line.wrap →
      frameChunks.flatten = messages.flatMap Framing.framed.wrap →
        (StreamReader.new ⟨.line, symbols⟩).readingsToEnd (lineChunks.map .bytes) 1 =
          (StreamReader.new ⟨.framed, symbols⟩).readingsToEnd (frameChunks.map .bytes) 1 := by
  refine ⟨?_, ?_, ?_, ?_⟩
  · intro framing m hm
    exact frame_eq_wrap framing (h m hm).short
  · intro m hm
    exact (h m hm).ofBytes_ne symbols
  · intro framing chunks hne hchunks
    exact readings_wrap ⟨framing, symbols⟩ h hne hchunks
  · intro lineChunks frameChunks hne hne' hline hframed
    have hlines := readings_wrap ⟨.line, symbols⟩ h hne hline
    have hframes := readings_wrap ⟨.framed, symbols⟩ h hne' hframed
    exact hlines.trans hframes.symm

theorem ack_among_malformed_read :
    (∀ m ∈ [[0xff, 0xfe], utf8 "A,1,1001\r", utf8 "Q"], Portable m) ∧
      (StreamReader.new ⟨.framed, .omitted⟩).readingsToEnd
          [.bytes [0, 0, 0, 2, 0xff, 0xfe, 0, 0],
            .bytes ([0, 9] ++ utf8 "A,1,1001\r" ++ [0, 0, 0, 1] ++ utf8 "Q")] 1 =
        [.error (.decode .utf8), .ok (some (.ack ⟨1, 1001, none⟩)),
          .error (.decode (.unknownType "Q")), .ok none] := by
  have hm : ∀ m ∈ [[0xff, 0xfe], utf8 "A,1,1001\r", utf8 "Q"], Portable m := by
    intro m hm
    simp only [List.mem_cons, List.not_mem_nil, or_false] at hm
    rcases hm with rfl | rfl | rfl
    all_goals exact ⟨by decide, by decide, by decide, by decide⟩
  have hread := (framings_read_alike .omitted _ hm).2.2.1 .framed
    [[0, 0, 0, 2, 0xff, 0xfe, 0, 0], [0, 9] ++ utf8 "A,1,1001\r" ++ [0, 0, 0, 1] ++ utf8 "Q"]
    (by decide) (by decide)
  exact ⟨hm, hread⟩

end OrderEntry

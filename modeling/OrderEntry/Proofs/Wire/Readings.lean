import OrderEntry.Proofs.Wire.Arrivals

/-! All readings of a stream that ends after its pieces. Every item of the whole stream is read once and in
order, and after them the end is reported, following the fault if the stream ended inside a frame. -/

namespace OrderEntry

def endReadings : Option EndError → List Reading
  | none => [.ok none]
  | some e => [.error (.transport (.io e.message)), .ok none]

def Transcript.readings (t : Transcript) : List Reading := t.1.map Item.reading ++ endReadings t.2

theorem reading_ne_end (item : Item) : item.reading ≠ .ok none := by
  cases item <;> simp [Item.reading]

/-! Number of items -/

theorem length_decodeChunks_le (format : WireFormat) (chunks : List Bytes) :
    (decodeChunks format chunks).1.length ≤ 2 * chunks.flatten.length + 1 := by
  rw [decodeChunks_eq_pending, Decoder.pending_eq_finish]
  have hitems := (Decoder.new format).length_finish_le chunks.flatten
  have hweight := (Decoder.new format).weight_le chunks.flatten
  exact Nat.le_trans hitems hweight

namespace StreamReader

inductive WillRead (r : StreamReader) : List Arrival → Transcript → Prop
  | flowing (chunks : List Bytes) (after : List Arrival) (failed : r.failed = false)
      (ended : r.ended = false) (nonempty : ∀ chunk ∈ chunks, chunk ≠ []) :
      WillRead r (chunks.map .bytes ++ .bytes [] :: after)
        (r.decoder.pending (r.buffer ++ chunks.flatten))
  | ending (arrivals : List Arrival) (failed : r.failed = false) (ended : r.ended = true)
      (readable : r.readable = true) : WillRead r arrivals (r.decoder.pending r.buffer)

inductive Takes (reading : Reading) (r : StreamReader) (arrivals : List Arrival) : Transcript → Prop
  | item (item : Item) (t : Transcript) (first : reading = item.reading)
      (rest : r.WillRead arrivals t) : Takes reading r arrivals (t.after [item])
  | stop (first : reading = .ok none) : Takes reading r arrivals ([], none)
  | fault (e : EndError) (first : reading = .error (.transport (.io e.message)))
      (failed : r.failed = true) : Takes reading r arrivals ([], some e)

variable {r : StreamReader} {arrivals : List Arrival} {t : Transcript}

theorem WillRead.sound (h : r.WillRead arrivals t) : r.Sound := by
  cases h with
  | flowing _ _ hf he _ =>
    refine ⟨hf, ?_⟩
    intro h
    cases he.symm.trans h
  | ending _ hf _ hr => exact ⟨hf, fun _ => hr⟩

theorem WillRead.fromBuffer (h : r.WillRead arrivals t) :
    match r.fromBuffer with
    | (some reading, r') => Takes reading r' arrivals t
    | (none, r') => r'.WillRead arrivals t := by
  fun_cases StreamReader.fromBuffer r with
  | case1 hf => cases h.sound.failed.symm.trans hf
  | case2 => exact h
  | case3 hf hr he e d buffer hn =>
    cases h with
    | flowing _ _ _ hopen => cases hopen.symm.trans he
    | ending =>
      rw [Decoder.pending_of_nextAtEnd_error hn]
      exact Takes.fault e rfl rfl
  | case4 hf hr he d buffer hn =>
    cases h with
    | flowing _ _ _ hopen => cases hopen.symm.trans he
    | ending =>
      rw [Decoder.pending_of_nextAtEnd_none hn]
      exact Takes.stop rfl
  | case5 hf hr he item d buffer hn =>
    cases h with
    | flowing _ _ _ hopen => cases hopen.symm.trans he
    | ending _ hfailed _ hreadable =>
      rw [Decoder.pending_of_nextAtEnd hn]
      exact Takes.item item _ rfl (.ending arrivals hfailed he hreadable)
  | case6 hf hr he d buffer hn =>
    cases h with
    | flowing chunks after hfailed hopen hne =>
      rw [Decoder.pending_of_next hn]
      exact .flowing chunks after hfailed hopen hne
    | ending _ _ hended => exact absurd hended he
  | case7 hf hr he item d buffer hn =>
    cases h with
    | flowing chunks after hfailed hopen hne =>
      rw [Decoder.pending_of_next hn]
      exact Takes.item item _ rfl (.flowing chunks after hfailed hopen hne)
    | ending _ _ hended => exact absurd hended he

theorem WillRead.receive {a : Arrival} (h : r.WillRead (a :: arrivals) t) (hd : r.Drained) :
    match r.receive a with
    | (some reading, r') => Takes reading r' arrivals t
    | (none, r') => r'.WillRead arrivals t := by
  generalize ha : a :: arrivals = all at h
  cases h with
  | ending _ _ hended => cases hd.ended.symm.trans hended
  | flowing chunks after hfailed hopen hne =>
    cases chunks with
    | nil =>
      cases ha
      have hend : WillRead { r with ended := true, readable := true } arrivals
          (r.decoder.pending (r.buffer ++ [].flatten)) := by
        rw [List.flatten_nil, List.append_nil]
        exact .ending arrivals hfailed rfl rfl
      have hstep := hend.fromBuffer
      unfold StreamReader.receive
      rw [hopen]
      exact hstep
    | cons chunk chunks =>
      cases ha
      have hchunk : chunk ≠ [] := hne chunk List.mem_cons_self
      have hnext : WillRead
          { r with buffer := r.buffer ++ chunk, ended := false, readable := true }
          (chunks.map .bytes ++ .bytes [] :: after)
          (r.decoder.pending (r.buffer ++ (chunk :: chunks).flatten)) := by
        rw [List.flatten_cons, ← List.append_assoc]
        exact .flowing chunks after hfailed rfl fun c hc => hne c (List.mem_cons_of_mem _ hc)
      have hstep := hnext.fromBuffer
      cases chunk with
      | nil => exact absurd rfl hchunk
      | cons b bytes => exact hstep

theorem WillRead.readOn (h : r.WillRead arrivals t) (hd : r.Drained) :
    ∃ reading, (r.readOn arrivals).1 = some reading ∧
      Takes reading (r.readOn arrivals).2.1 (r.readOn arrivals).2.2 t := by
  fun_induction StreamReader.readOn r arrivals with
  | case1 r =>
    generalize hnil : ([] : List Arrival) = all at h
    cases h with
    | flowing => simp at hnil
    | ending _ _ hended => cases hd.ended.symm.trans hended
  | case2 r a arrivals reading r' hr =>
    have hstep := h.receive hd
    rw [hr] at hstep
    exact ⟨reading, rfl, hstep⟩
  | case3 r a arrivals r' hr ih =>
    have hstep := h.receive hd
    have hdrained := drained_of_receive hd a
    rw [hr] at hstep hdrained
    exact ih hstep (hdrained rfl)

theorem WillRead.next (h : r.WillRead arrivals t) :
    ∃ reading, (r.next arrivals).1 = some reading ∧
      Takes reading (r.next arrivals).2.1 (r.next arrivals).2.2 t := by
  have hstep := h.fromBuffer
  have hdrained := drained_of_fromBuffer h.sound
  unfold StreamReader.next
  rcases hr : r.fromBuffer with ⟨_ | reading, r'⟩
  · rw [hr] at hstep hdrained
    exact hstep.readOn (hdrained rfl)
  · rw [hr] at hstep
    exact ⟨reading, rfl, hstep⟩

theorem readings_of_failed (hf : r.failed = true) (arrivals : List Arrival) (fuel : Nat) :
    r.readings arrivals 1 (fuel + 1) = [.ok none] := by
  have hnext : r.next arrivals =
      (some (.ok none), { r with failed := false, readable := false }, arrivals) := by
    simp [StreamReader.next, StreamReader.fromBuffer, hf]
  simp [readings, hnext]

theorem readings_of_next {r' : StreamReader} {arrivals' : List Arrival} {reading : Reading}
    (h : r.next arrivals = (some reading, r', arrivals')) (hne : reading ≠ .ok none)
    (stops fuel : Nat) :
    r.readings arrivals (stops + 1) (fuel + 1) =
      reading :: r'.readings arrivals' (stops + 1) fuel := by
  rw [StreamReader.readings]
  split
  next hn => cases h.symm.trans hn
  next hn =>
    cases h.symm.trans hn
    exact absurd rfl hne
  next hn =>
    cases h.symm.trans hn
    rfl

theorem WillRead.readings (h : r.WillRead arrivals t) {fuel : Nat} (hfuel : t.1.length + 2 ≤ fuel) :
    r.readings arrivals 1 fuel = t.readings := by
  -- every reading costs one unit of fuel and takes one item from the transcript
  induction fuel generalizing r arrivals t with
  | zero => omega
  | succ fuel ih =>
    obtain ⟨reading, hfirst, htakes⟩ := h.next
    rcases hnext : r.next arrivals with ⟨first, r', arrivals'⟩
    rw [hnext] at hfirst htakes
    have hfirst' : first = some reading := hfirst
    subst hfirst'
    cases htakes with
    | item item t' hitem hrest =>
      subst hitem
      have hmore : r'.readings arrivals' 1 fuel = t'.readings := by
        apply ih hrest
        simp only [Transcript.after, List.singleton_append, List.length_cons] at hfuel
        omega
      rw [readings_of_next hnext (reading_ne_end item), hmore]
      rfl
    | stop hstop =>
      subst hstop
      simp [StreamReader.readings, hnext, Transcript.readings, endReadings]
    | fault e hfault hfailed =>
      subst hfault
      obtain ⟨fuel, rfl⟩ : ∃ n, fuel = n + 1 := ⟨fuel - 1, by omega⟩
      have hlast : r'.readings arrivals' 1 (fuel + 1) = [.ok none] :=
        readings_of_failed hfailed arrivals' fuel
      rw [readings_of_next hnext (by simp), hlast]
      rfl

theorem totalSize_chunks (chunks : List Bytes) :
    totalSize (chunks.map .bytes ++ [.bytes [], .bytes []]) = chunks.flatten.length := by
  unfold totalSize
  induction chunks with
  | nil => rfl
  | cons chunk chunks ih =>
    rw [List.map_cons, List.cons_append, List.foldr_cons, ih, List.flatten_cons,
      List.length_append]
    rfl

theorem readingsToEnd_chunks (format : WireFormat) {chunks : List Bytes}
    (hne : ∀ chunk ∈ chunks, chunk ≠ []) :
    (new format).readingsToEnd (chunks.map .bytes) 1 =
      (decodeChunks format chunks).readings := by
  have hwill : (new format).WillRead (chunks.map .bytes ++ [.bytes [], .bytes []])
      ((Decoder.new format).pending chunks.flatten) :=
    .flowing chunks [.bytes []] rfl rfl hne
  have hitems := length_decodeChunks_le format chunks
  have hsize := totalSize_chunks chunks
  rw [← decodeChunks_eq_pending] at hwill
  unfold readingsToEnd
  apply hwill.readings
  simp only [List.replicate, List.length_append, hsize, List.length_cons, List.length_nil]
  omega

end StreamReader
end OrderEntry

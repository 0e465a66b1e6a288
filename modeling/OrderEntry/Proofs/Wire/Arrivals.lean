import OrderEntry.Link
import OrderEntry.Proofs.Wire.Chunks

/-! What a link gives, read by read. Main statement: as long as every read has given an event, the events so
far are the first ones of those that a fresh decoder makes of all that has arrived, and the rest of
these is still in front of the reader. -/

namespace OrderEntry

/-- The pieces of a stream before its end or its first fault, and whether it ends there. -/
def streamPieces : List Arrival → List Bytes × Bool
  | [] => ([], false)
  | .bytes [] :: _ => ([], true)
  | .bytes (b :: bytes) :: arrivals =>
    let (chunks, ended) := streamPieces arrivals
    ((b :: bytes) :: chunks, ended)
  | .failed _ :: _ => ([], false)
  | .refused :: _ => ([], false)

def itemsOfStream (format : WireFormat) (arrivals : List Arrival) : List Item :=
  match streamPieces arrivals with
  | (chunks, true) => (decodeChunks format chunks).1
  | (chunks, false) => ((Decoder.new format).feed [] chunks).1

def itemsOfDatagrams (format : WireFormat) : List Arrival → List Item
  | [] => []
  | .bytes datagram :: arrivals => itemsOfDatagram format datagram ++ itemsOfDatagrams format arrivals
  | .refused :: arrivals => itemsOfDatagrams format arrivals
  | .failed _ :: _ => []

def itemsOfArrivals (transport : Transport) (format : WireFormat) (arrivals : List Arrival) :
    List Item :=
  match transport with
  | .tcp => itemsOfStream format arrivals
  | .udp => itemsOfDatagrams format arrivals

def leadingEvents : List Item → List Event
  | .ok e :: items => e :: leadingEvents items
  | _ => []

/-! Streams -/

def Decoder.itemsOfArrivals (d : Decoder) (buffer : Bytes) : List Arrival → List Item
  | [] => []
  | .bytes [] :: _ => (d.finish buffer).1
  | .bytes (b :: bytes) :: arrivals =>
    let (items, d, rest) := d.drain (buffer ++ b :: bytes)
    items ++ d.itemsOfArrivals rest arrivals
  | .failed _ :: _ => []
  | .refused :: _ => []

theorem Decoder.itemsOfArrivals_eq (d : Decoder) (buffer : Bytes) (arrivals : List Arrival) :
    d.itemsOfArrivals buffer arrivals =
      (d.feed buffer (streamPieces arrivals).1).1 ++
        if (streamPieces arrivals).2 then
          ((d.feed buffer (streamPieces arrivals).1).2.1.finish
            (d.feed buffer (streamPieces arrivals).1).2.2).1
        else [] := by
  fun_induction Decoder.itemsOfArrivals d buffer arrivals with
  | case1 => rfl
  | case2 => rfl
  | case3 d buffer b bytes arrivals items d' rest hd ih =>
    rw [ih, ← List.append_assoc]
    simp only [streamPieces, feed, hd]
  | case4 => rfl
  | case5 => rfl

theorem itemsOfStream_eq (format : WireFormat) (arrivals : List Arrival) :
    itemsOfStream format arrivals = (Decoder.new format).itemsOfArrivals [] arrivals := by
  rw [Decoder.itemsOfArrivals_eq]
  unfold itemsOfStream
  rcases streamPieces arrivals with ⟨chunks, _ | _⟩
  · exact (List.append_nil _).symm
  · rfl

theorem Decoder.drain_of_none {d d' : Decoder} {buffer rest : Bytes}
    (h : d.next buffer = (none, d', rest)) : d.drain buffer = ([], d', rest) := by
  rw [drain]
  split
  next hn =>
    cases h.symm.trans hn
    rfl
  next hn => cases h.symm.trans hn

theorem Decoder.drain_of_item {d d' : Decoder} {buffer rest : Bytes} {item : Item}
    (h : d.next buffer = (some item, d', rest)) :
    d.drain buffer = (item :: (d'.drain rest).1, (d'.drain rest).2) := by
  rw [drain]
  split
  next hn => cases h.symm.trans hn
  next hn =>
    cases h.symm.trans hn
    rfl

theorem Decoder.finish_of_item {d d' : Decoder} {buffer rest : Bytes} {item : Item}
    (h : d.nextAtEnd buffer = (.ok (some item), d', rest)) :
    (d.finish buffer).1 = item :: (d'.finish rest).1 := by
  have hp := pending_of_nextAtEnd h
  rw [pending_eq_finish, pending_eq_finish] at hp
  exact congrArg Prod.fst hp

/-! One read -/

def Passes (reading : Option Reading) (sound : Prop) (before after : List Item) : Prop :=
  match reading with
  | none => sound ∧ before = after
  | some (.ok (some e)) => sound ∧ before = .ok e :: after
  | some _ => True

theorem passes_item (item : Item) {sound : Prop} {before after : List Item} (hs : sound)
    (hb : before = item :: after) : Passes (some item.reading) sound before after := by
  cases item with
  | ok e => exact ⟨hs, hb⟩
  | error e => trivial

namespace StreamReader

structure Sound (r : StreamReader) : Prop where
  failed : r.failed = false
  ended : r.ended = true → r.readable = true

structure Drained (r : StreamReader) : Prop where
  failed : r.failed = false
  ended : r.ended = false
  readable : r.readable = false

theorem Drained.sound {r : StreamReader} (h : r.Drained) : r.Sound :=
  ⟨h.failed, fun he => by rw [h.ended] at he; cases he⟩

def ahead (r : StreamReader) (arrivals : List Arrival) : List Item :=
  if r.ended then (r.decoder.finish r.buffer).1
  else if r.readable then
    (r.decoder.drain r.buffer).1 ++
      (r.decoder.drain r.buffer).2.1.itemsOfArrivals (r.decoder.drain r.buffer).2.2 arrivals
  else r.decoder.itemsOfArrivals r.buffer arrivals

variable {r r' : StreamReader} {reading : Option Reading}

theorem Drained.ahead (h : r.Drained) (arrivals : List Arrival) :
    r.ahead arrivals = r.decoder.itemsOfArrivals r.buffer arrivals := by
  unfold StreamReader.ahead
  rw [h.ended, h.readable]
  rfl

theorem ahead_atEnd (he : r.ended = true) (arrivals : List Arrival) :
    r.ahead arrivals = (r.decoder.finish r.buffer).1 := if_pos he

theorem ahead_readable (he : r.ended = false) (hr : r.readable = true) (arrivals : List Arrival) :
    r.ahead arrivals = (r.decoder.drain r.buffer).1 ++
      (r.decoder.drain r.buffer).2.1.itemsOfArrivals (r.decoder.drain r.buffer).2.2 arrivals := by
  unfold ahead
  rw [he, hr]
  rfl

theorem passes_fromBuffer (hr : r.Sound) (arrivals : List Arrival) :
    Passes r.fromBuffer.1 r.fromBuffer.2.Sound (r.ahead arrivals)
      (r.fromBuffer.2.ahead arrivals) := by
  fun_cases fromBuffer r with
  | case1 hf => cases hr.failed.symm.trans hf
  | case2 => exact ⟨hr, rfl⟩
  | case3 => trivial
  | case4 => trivial
  | case5 _ _ he item d buffer hn =>
    have ha := ahead_atEnd (r := { r with decoder := d, buffer }) he arrivals
    refine passes_item item ⟨hr.failed, hr.ended⟩ ?_
    rw [ahead_atEnd he, Decoder.finish_of_item hn]
    exact congrArg _ ha.symm
  | case6 _ hb he d buffer hn =>
    rw [Bool.not_eq_true, Bool.not_eq_false'] at hb
    rw [Bool.not_eq_true] at he
    have hd : Drained { r with decoder := d, buffer, readable := false } := ⟨hr.failed, he, rfl⟩
    refine ⟨hd.sound, ?_⟩
    rw [ahead_readable he hb, Decoder.drain_of_none hn, hd.ahead]
    rfl
  | case7 _ hb he item d buffer hn =>
    rw [Bool.not_eq_true, Bool.not_eq_false'] at hb
    rw [Bool.not_eq_true] at he
    have ha := ahead_readable (r := { r with decoder := d, buffer }) he hb arrivals
    refine passes_item item ⟨hr.failed, hr.ended⟩ ?_
    rw [ahead_readable he hb, Decoder.drain_of_item hn]
    exact congrArg _ ha.symm

theorem drained_of_fromBuffer (hr : r.Sound) :
    r.fromBuffer.1 = none → r.fromBuffer.2.Drained := by
  fun_cases fromBuffer r with
  | case1 | case3 | case4 | case5 | case7 => exact nofun
  | case2 _ hb =>
    intro _
    rw [Bool.not_eq_true'] at hb
    refine ⟨hr.failed, ?_, hb⟩
    cases he : r.ended with
    | false => rfl
    | true => cases hb.symm.trans (hr.ended he)
  | case6 _ _ he =>
    intro _
    exact ⟨hr.failed, Bool.not_eq_true _ ▸ he, rfl⟩

theorem passes_receive (hr : r.Drained) (a : Arrival) (arrivals : List Arrival) :
    Passes (r.receive a).1 (r.receive a).2.Sound (r.ahead (a :: arrivals))
      ((r.receive a).2.ahead arrivals) := by
  rw [hr.ahead]
  fun_cases receive r a with
  | case1 | case2 => trivial
  | case3 he => cases hr.ended.symm.trans he
  | case4 he =>
    -- the end of the stream lets the decoder finish what the buffer holds
    have hs : Sound { r with ended := true, readable := true } := ⟨hr.failed, fun _ => rfl⟩
    exact passes_fromBuffer hs arrivals
  | case5 chunk hc =>
    have hs : Sound { r with buffer := r.buffer ++ chunk, ended := false, readable := true } :=
      ⟨hr.failed, nofun⟩
    have hp := passes_fromBuffer hs arrivals
    rw [ahead_readable rfl rfl] at hp
    cases chunk with
    | nil => exact absurd rfl hc
    | cons b bytes => exact hp

theorem drained_of_receive (hr : r.Drained) (a : Arrival) :
    (r.receive a).1 = none → (r.receive a).2.Drained := by
  fun_cases receive r a with
  | case1 | case2 | case3 => exact nofun
  | case4 =>
    have hs : Sound { r with ended := true, readable := true } := ⟨hr.failed, fun _ => rfl⟩
    exact drained_of_fromBuffer hs
  | case5 chunk =>
    have hs : Sound { r with buffer := r.buffer ++ chunk, ended := false, readable := true } :=
      ⟨hr.failed, nofun⟩
    exact drained_of_fromBuffer hs

theorem passes_readOn (hr : r.Drained) (arrivals more : List Arrival) :
    Passes (r.readOn arrivals).1 (r.readOn arrivals).2.1.Sound (r.ahead (arrivals ++ more))
      ((r.readOn arrivals).2.1.ahead ((r.readOn arrivals).2.2 ++ more)) := by
  fun_induction readOn r arrivals with
  | case1 r => exact ⟨hr.sound, rfl⟩
  | case2 r a arrivals reading r' h =>
    have hp := passes_receive hr a (arrivals ++ more)
    rw [h] at hp
    exact hp
  | case3 r a arrivals r' h ih =>
    have hp := passes_receive hr a (arrivals ++ more)
    have hd := drained_of_receive hr a
    rw [h] at hp hd
    rw [List.cons_append, hp.2]
    exact ih (hd rfl)

theorem passes_next (hr : r.Sound) (arrivals more : List Arrival) :
    Passes (r.next arrivals).1 (r.next arrivals).2.1.Sound (r.ahead (arrivals ++ more))
      ((r.next arrivals).2.1.ahead ((r.next arrivals).2.2 ++ more)) := by
  have hp := passes_fromBuffer hr (arrivals ++ more)
  have hd := drained_of_fromBuffer hr
  unfold next
  rcases h : r.fromBuffer with ⟨_ | reading, r'⟩
  · rw [h] at hp hd
    rw [hp.2]
    exact passes_readOn (hd rfl) arrivals more
  · rw [h] at hp
    exact hp

end StreamReader

namespace LinkReader

def Sound : LinkReader → Prop
  | stream reader => reader.Sound
  | datagrams .. => True

def ahead (r : LinkReader) (arrivals : List Arrival) : List Item :=
  match r with
  | stream reader => reader.ahead arrivals
  | datagrams format pending => pending ++ itemsOfDatagrams format arrivals

theorem sound_new (transport : Transport) (format : WireFormat) : (new transport format).Sound := by
  cases transport with
  | tcp => exact ⟨rfl, nofun⟩
  | udp => trivial

theorem ahead_new (transport : Transport) (format : WireFormat) (arrivals : List Arrival) :
    (new transport format).ahead arrivals = itemsOfArrivals transport format arrivals := by
  cases transport with
  | tcp => exact (itemsOfStream_eq format arrivals).symm
  | udp => rfl

theorem passes_nextDatagram (format : WireFormat) (pending : List Item)
    (arrivals more : List Arrival) :
    Passes (nextDatagram format pending arrivals).1 True
      (pending ++ itemsOfDatagrams format (arrivals ++ more))
      ((nextDatagram format pending arrivals).2.1 ++
        itemsOfDatagrams format ((nextDatagram format pending arrivals).2.2 ++ more)) := by
  fun_induction nextDatagram format pending arrivals with
  | case1 item pending arrivals => exact passes_item item trivial rfl
  | case2 => exact ⟨trivial, rfl⟩
  | case3 arrivals ih => exact ih
  | case4 => trivial
  | case5 datagram arrivals ih => exact ih

theorem passes_next {r : LinkReader} (hr : r.Sound) (arrivals more : List Arrival) :
    Passes (r.next arrivals).1 (r.next arrivals).2.1.Sound (r.ahead (arrivals ++ more))
      ((r.next arrivals).2.1.ahead ((r.next arrivals).2.2 ++ more)) := by
  cases r with
  | stream reader =>
    -- a reader at the end of its stream does not look at the arrivals
    have hsame : ∀ arrivals', reader.ended = true →
        reader.ahead (arrivals' ++ more) = reader.ahead (arrivals ++ more) := by
      intro arrivals' he
      rw [StreamReader.ahead_atEnd he, StreamReader.ahead_atEnd he]
    unfold next
    dsimp only [ahead]
    split
    next he =>
      rw [Bool.and_eq_true] at he
      rw [← hsame [.bytes []] he.1]
      exact StreamReader.passes_next hr [.bytes []] more
    next => exact StreamReader.passes_next hr arrivals more
  | datagrams format pending => exact passes_nextDatagram format pending arrivals more

end LinkReader
end OrderEntry

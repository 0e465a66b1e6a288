import Mathlib.Algebra.Group.Nat.Defs
import OrderEntry.Wire.Decoder

/-! A stream of frames read as a whole, one frame after another: a header announces the length of what
follows it, and an impossible length is an item of its own. What the decoder still has to skip is a
part of the stream that is left, so each of its steps takes from the whole reading what it puts out. -/

namespace OrderEntry

/-- The items of a stream and, unless it ended where a frame ends, the fault of its end. -/
abbrev Transcript := List Item × Option EndError

def Transcript.after (t : Transcript) (items : List Item) : Transcript := (items ++ t.1, t.2)

theorem Transcript.after_nil (t : Transcript) : t.after [] = t := rfl

theorem Transcript.after_after (t : Transcript) (items items' : List Item) :
    (t.after items').after items = t.after (items ++ items') :=
  Prod.ext (List.append_assoc ..).symm rfl

def frameItem (symbols : SymbolFields) (payload : Bytes) : Item :=
  match ofUtf8? payload with
  | none => .error .utf8
  | some text =>
    match Event.ofPayload symbols text with
    | .ok (some event) => .ok event
    | .ok none => .error .emptyMessage
    | .error e => .error e

def itemsOfFrameStream (symbols : SymbolFields) (bytes : Bytes) : Transcript :=
  match bytes with
  | [] => ([], none)
  | a :: b :: c :: d :: body =>
    let declared := a.toNat * 2 ^ 24 + b.toNat * 2 ^ 16 + c.toNat * 2 ^ 8 + d.toNat
    if declared = 0 ∨ maxMessageBytes < declared then
      if body.length < declared then ([.error (.frameLength declared)], some .insideFrame)
      else (itemsOfFrameStream symbols (body.drop declared)).after [.error (.frameLength declared)]
    else if body.length < declared then ([], some .insideFrame)
    else
      (itemsOfFrameStream symbols (body.drop declared)).after
        [frameItem symbols (body.take declared)]
  | _ => ([], some .insideFrame)
termination_by bytes.length
decreasing_by all_goals
  simp only [List.length_drop, List.length_cons]
  omega

theorem ofFrame_eq_frameItem (symbols : SymbolFields) (payload : Bytes) :
    Event.ofFrame symbols payload = frameItem symbols payload := by
  unfold Event.ofFrame Event.ofBytes frameItem
  cases ofUtf8? payload with
  | none => rfl
  | some text => rcases Event.ofPayload symbols text with e | _ | event <;> rfl

theorem ofBigEndian_four (a b c d : UInt8) :
    ofBigEndian [a, b, c, d] =
      a.toNat * 2 ^ 24 + b.toNat * 2 ^ 16 + c.toNat * 2 ^ 8 + d.toNat := by
  simp only [ofBigEndian, List.foldl_cons, List.foldl_nil]
  omega

namespace FrameDecoder

theorem header?_append {buffer body : Bytes} {declared : Nat}
    (h : header? buffer = some (declared, body)) (more : Bytes) :
    header? (buffer ++ more) = some (declared, body ++ more) := by
  match buffer, h with
  | _ :: _ :: _ :: _ :: _, h =>
    cases h
    rfl

theorem header?_eq_none_iff {buffer : Bytes} : header? buffer = none ↔ buffer.length < 4 := by
  match buffer with
  | [] | [_] | [_, _] | [_, _, _] | _ :: _ :: _ :: _ :: _ => simp [header?]

def pending (symbols : SymbolFields) (skip : Nat) (bytes : Bytes) : Transcript :=
  if bytes.length < skip then ([], some .insideFrame)
  else itemsOfFrameStream symbols (bytes.drop skip)

theorem pending_zero (symbols : SymbolFields) (bytes : Bytes) :
    pending symbols 0 bytes = itemsOfFrameStream symbols bytes := rfl

theorem pending_discard (symbols : SymbolFields) (skip : Nat) (buffer more : Bytes) :
    pending symbols (discard skip buffer).1 ((discard skip buffer).2 ++ more) =
      pending symbols skip (buffer ++ more) := by
  simp only [discard, pending, List.length_take, List.length_append, List.length_drop]
  by_cases h : skip ≤ buffer.length
  · have hs : skip - min skip buffer.length = 0 := by omega
    rw [hs, if_neg (by omega), if_neg (by omega), List.drop_zero, List.drop_append_of_le_length h]
  · have hs : skip - min skip buffer.length = skip - buffer.length := by omega
    have hd : buffer.drop skip = [] := List.drop_eq_nil_of_le (by omega)
    rw [hs, hd, List.nil_append, List.drop_append, hd, List.nil_append]
    split
    · rw [if_pos (by omega)]
    · rw [if_neg (by omega)]

theorem nothing_left_of_discard {skip k : Nat} {buffer rest : Bytes}
    (h : discard skip buffer = (k + 1, rest)) : rest = [] := by
  obtain ⟨hk, rfl⟩ := Prod.mk.inj h
  rw [List.length_take] at hk
  exact List.drop_eq_nil_of_le (by omega)

inductive Next (symbols : SymbolFields) (skip : Nat) (buffer : Bytes) :
    Option Item → Nat → Bytes → Prop
  | skipping {left : Nat} (hd : discard skip buffer = (left + 1, [])) :
      Next symbols skip buffer none (left + 1) []
  | noHeader {rest : Bytes} (hd : discard skip buffer = (0, rest)) (hh : header? rest = none) :
      Next symbols skip buffer none 0 rest
  | rejected {rest body after : Bytes} {declared left : Nat} (hd : discard skip buffer = (0, rest))
      (hh : header? rest = some (declared, body)) (hbad : declared = 0 ∨ maxMessageBytes < declared)
      (hs : discard declared body = (left, after)) :
      Next symbols skip buffer (some (.error (.frameLength declared))) left after
  | unfinished {rest body : Bytes} {declared : Nat} (hd : discard skip buffer = (0, rest))
      (hh : header? rest = some (declared, body))
      (hgood : ¬(declared = 0 ∨ maxMessageBytes < declared)) (hl : body.length < declared) :
      Next symbols skip buffer none 0 rest
  | frame {rest body : Bytes} {declared : Nat} (hd : discard skip buffer = (0, rest))
      (hh : header? rest = some (declared, body))
      (hgood : ¬(declared = 0 ∨ maxMessageBytes < declared)) (hl : declared ≤ body.length) :
      Next symbols skip buffer (some (Event.ofFrame symbols (body.take declared))) 0
        (body.drop declared)

theorem next_kind {symbols : SymbolFields} {skip skip' : Nat} {buffer rest : Bytes}
    {item : Option Item} (h : next symbols skip buffer = (item, skip', rest)) :
    Next symbols skip buffer item skip' rest := by
  revert h
  fun_cases next symbols skip buffer with
  | case1 left rest hd =>
    rintro ⟨⟩
    obtain rfl := nothing_left_of_discard hd
    exact .skipping hd
  | case2 rest hd hh =>
    rintro ⟨⟩
    exact .noHeader hd hh
  | case3 rest hd declared body hh hbad =>
    rintro ⟨⟩
    exact .rejected hd hh hbad rfl
  | case4 rest hd declared body hh hgood payload hl =>
    rintro ⟨⟩
    refine .unfinished hd hh hgood ?_
    rw [List.length_take] at hl
    omega
  | case5 rest hd declared body hh hgood payload hl =>
    rintro ⟨⟩
    refine .frame hd hh hgood ?_
    rw [List.length_take] at hl
    omega

theorem itemsOfFrameStream_header {symbols : SymbolFields} {bytes body : Bytes} {declared : Nat}
    (h : header? bytes = some (declared, body)) :
    itemsOfFrameStream symbols bytes =
      if declared = 0 ∨ maxMessageBytes < declared then
        (pending symbols declared body).after [.error (.frameLength declared)]
      else if body.length < declared then ([], some .insideFrame)
      else
        (itemsOfFrameStream symbols (body.drop declared)).after
          [frameItem symbols (body.take declared)] := by
  match bytes, h with
  | a :: b :: c :: d :: _, h =>
    cases h
    rw [itemsOfFrameStream]
    simp only [← ofBigEndian_four, pending]
    split
    · split <;> rfl
    · rfl

theorem itemsOfFrameStream_no_header {symbols : SymbolFields} {bytes : Bytes}
    (h : header? bytes = none) :
    itemsOfFrameStream symbols bytes = ([], if bytes = [] then none else some .insideFrame) := by
  match bytes, h with
  | [], _ => rw [itemsOfFrameStream, if_pos rfl]
  | [_], _ => simp [itemsOfFrameStream]
  | [_, _], _ => simp [itemsOfFrameStream]
  | [_, _, _], _ => simp [itemsOfFrameStream]

theorem pending_of_next {symbols : SymbolFields} {skip skip' : Nat} {buffer rest : Bytes}
    {item : Option Item} (h : next symbols skip buffer = (item, skip', rest)) (more : Bytes) :
    pending symbols skip (buffer ++ more) = (pending symbols skip' (rest ++ more)).after item.toList := by
  rw [← pending_discard]
  cases next_kind h with
  | skipping hd | noHeader hd hh | unfinished hd hh hgood hl =>
    rw [hd]
    rfl
  | @rejected _ body _ declared _ hd hh hbad hs =>
    have hp := pending_discard symbols declared body more
    rw [hs] at hp
    rw [hd, pending_zero, itemsOfFrameStream_header (header?_append hh more), if_pos hbad, ← hp]
    rfl
  | frame hd hh hgood hl =>
    rw [hd, pending_zero, itemsOfFrameStream_header (header?_append hh more), if_neg hgood,
      if_neg (by rw [List.length_append]; omega), List.drop_append_of_le_length hl,
      List.take_append_of_le_length hl, ofFrame_eq_frameItem]
    rfl

theorem pending_of_next_none {symbols : SymbolFields} {skip skip' : Nat} {buffer rest : Bytes}
    (h : next symbols skip buffer = (none, skip', rest)) :
    pending symbols skip' rest = ([], if skip' = 0 ∧ rest = [] then none else some .insideFrame) := by
  cases next_kind h with
  | skipping hd => rw [pending, if_pos (by rw [List.length_nil]; omega), if_neg (by omega)]
  | noHeader hd hh =>
    rw [pending_zero, itemsOfFrameStream_no_header hh]
    simp only [true_and]
  | unfinished hd hh hgood hl =>
    have hne : rest ≠ [] := by
      rintro rfl
      cases hh
    rw [pending_zero, itemsOfFrameStream_header hh, if_neg hgood, if_pos hl, if_neg fun h => hne h.2]

end FrameDecoder
end OrderEntry

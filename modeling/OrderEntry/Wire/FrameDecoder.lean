import OrderEntry.Wire.LineDecoder

/-! Events cut out of a byte stream by their length headers. A frame of an impossible length is
reported once, and as many bytes as it declared are skipped as they arrive. -/

namespace OrderEntry

/-- A frame always carries a message, so a blank one is a fault. -/
def Event.ofFrame (symbols : SymbolFields) (payload : Bytes) : Item :=
  match Event.ofBytes symbols payload with
  | .ok (some event) => .ok event
  | .ok none => .error .emptyMessage
  | .error e => .error e

namespace FrameDecoder

def header? : Bytes → Option (Nat × Bytes)
  | a :: b :: c :: d :: body => some (ofBigEndian [a, b, c, d], body)
  | _ => none

def discard (skip : Nat) (buffer : Bytes) : Nat × Bytes :=
  (skip - (buffer.take skip).length, buffer.drop skip)

/-- The next item, the bytes still to be skipped and the bytes left. A frame is taken whole. -/
def next (symbols : SymbolFields) (skip : Nat) (buffer : Bytes) : Option Item × Nat × Bytes :=
  match discard skip buffer with
  | (skip + 1, rest) => (none, skip + 1, rest)
  | (0, rest) =>
    match header? rest with
    | none => (none, 0, rest)
    | some (declared, body) =>
      if declared = 0 ∨ maxMessageBytes < declared then
        (some (.error (.frameLength declared)), discard declared body)
      else
        let payload := body.take declared
        if payload.length < declared then (none, 0, rest)
        else (some (Event.ofFrame symbols payload), 0, body.drop declared)

theorem length_of_header? {buffer body : Bytes} {declared : Nat}
    (h : header? buffer = some (declared, body)) : buffer.length = body.length + 4 := by
  match buffer, h with
  | _ :: _ :: _ :: _ :: _, h => cases h; rfl

theorem length_lt_of_next {symbols : SymbolFields} {skip skip' : Nat} {buffer rest : Bytes}
    {item : Item} (h : next symbols skip buffer = (some item, skip', rest)) :
    rest.length < buffer.length := by
  simp only [next] at h
  split at h
  · cases h
  next left hd =>
    have hl : left.length ≤ buffer.length := by
      rw [← (Prod.mk.inj hd).2, List.length_drop]
      exact Nat.sub_le ..
    split at h
    · cases h
    next declared body hh =>
      have hb := length_of_header? hh
      split at h
      · cases h
        rw [List.length_drop]
        omega
      · split at h
        · cases h
        · cases h
          rw [List.length_drop]
          omega

end FrameDecoder
end OrderEntry

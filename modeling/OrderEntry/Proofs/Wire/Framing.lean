import Mathlib.Algebra.Group.Nat.Defs
import OrderEntry.Wire.FrameDecoder

/-! Streams of whole messages. Written one after another, payloads that keep to the rules of their
framing are cut apart again at the newlines or by the lengths, and nothing is lost or merged. -/

namespace OrderEntry

def Framing.wrap : Framing → Bytes → Bytes
  | line, payload => payload ++ [newline]
  | framed, payload => bigEndian payload.length ++ payload

/-- The pieces between the newlines of a stream that ends with one. -/
def linesOf? (bytes : Bytes) : Option (List Bytes) :=
  let pieces := bytes.splitOn newline
  if pieces.getLast? = some [] then some pieces.dropLast else none

/-- The pieces that the length headers announce, if they fill the stream. -/
def framesOf? (bytes : Bytes) : Option (List Bytes) :=
  if bytes = [] then some []
  else
    match h : FrameDecoder.header? bytes with
    | none => none
    | some (declared, body) =>
      if body.length < declared then none
      else
        have := FrameDecoder.length_of_header? h
        (framesOf? (body.drop declared)).map (body.take declared :: ·)
termination_by bytes.length
decreasing_by
  simp only [List.length_drop]
  omega

def payloadsOf? : Framing → Bytes → Option (List Bytes)
  | .line => linesOf?
  | .framed => framesOf?

theorem frame_eq_wrap (framing : Framing) {payload : Bytes} (h : payload.length ≤ maxMessageBytes) :
    frame framing payload = .ok (framing.wrap payload) := by
  cases framing with
  | line => rfl
  | framed => exact if_pos h

theorem wrap_ne_nil (framing : Framing) (payload : Bytes) : framing.wrap payload ≠ [] := by
  cases framing with
  | line => simp [Framing.wrap]
  | framed => simp [Framing.wrap, bigEndian]

/-! Headers -/

theorem ofBigEndian_bigEndian {n : Nat} (h : n < 2 ^ 32) : ofBigEndian (bigEndian n) = n := by
  have hbyte : ∀ k : Nat, (UInt8.ofNat (k % 0x100)).toNat = k % 0x100 := by
    intro k
    rw [UInt8.toNat_ofNat']
    exact Nat.mod_mod _ _
  simp only [bigEndian, ofBigEndian, List.map_cons, List.map_nil, List.foldl_cons, List.foldl_nil,
    hbyte]
  omega

theorem header?_bigEndian {n : Nat} (h : n < 2 ^ 32) (body : Bytes) :
    FrameDecoder.header? (bigEndian n ++ body) = some (n, body) := by
  have hn := ofBigEndian_bigEndian h
  have hh : FrameDecoder.header? (bigEndian n ++ body) = some (ofBigEndian (bigEndian n), body) := rfl
  rw [hh, hn]

theorem header?_wrap {payload : Bytes} (h : payload.length < 2 ^ 32) (rest : Bytes) :
    FrameDecoder.header? (Framing.framed.wrap payload ++ rest) =
      some (payload.length, payload ++ rest) := by
  rw [Framing.wrap, List.append_assoc]
  exact header?_bigEndian h (payload ++ rest)

/-! Streams cut apart -/

variable {payloads : List Bytes}

theorem splitOn_flatMap_wrap (h : ∀ p ∈ payloads, newline ∉ p) :
    (payloads.flatMap Framing.line.wrap).splitOn newline = payloads ++ [[]] := by
  induction payloads with
  | nil => rfl
  | cons p payloads ih =>
    have hp : newline ∉ p := h p List.mem_cons_self
    have hrest := ih fun q hq => h q (List.mem_cons_of_mem _ hq)
    rw [List.flatMap_cons, Framing.wrap, List.append_assoc, List.singleton_append,
      List.splitOn_append_cons_self_of_not_mem hp, hrest, List.cons_append]

theorem linesOf?_flatMap_wrap (h : ∀ p ∈ payloads, newline ∉ p) :
    linesOf? (payloads.flatMap Framing.line.wrap) = some payloads := by
  have hs := splitOn_flatMap_wrap h
  simp [linesOf?, hs]

theorem framesOf?_wrap {p : Bytes} (h : p.length < 2 ^ 32) (rest : Bytes) :
    framesOf? (Framing.framed.wrap p ++ rest) = (framesOf? rest).map (p :: ·) := by
  have hh := header?_wrap h rest
  have hne : Framing.framed.wrap p ++ rest ≠ [] := by simp [wrap_ne_nil]
  have hlen : ¬(p ++ rest).length < p.length := by
    rw [List.length_append]
    omega
  rw [framesOf?, if_neg hne]
  split
  next hnone => cases hnone.symm.trans hh
  next declared body hsome =>
    cases hsome.symm.trans hh
    rw [if_neg hlen, List.drop_left, List.take_left]

theorem framesOf?_flatMap_wrap (h : ∀ p ∈ payloads, p.length < 2 ^ 32) :
    framesOf? (payloads.flatMap Framing.framed.wrap) = some payloads := by
  induction payloads with
  | nil => simp [framesOf?]
  | cons p payloads ih =>
    have hp := h p List.mem_cons_self
    have hrest := ih fun q hq => h q (List.mem_cons_of_mem _ hq)
    rw [List.flatMap_cons, framesOf?_wrap hp, hrest]
    rfl

theorem payloadsOf?_flatMap_wrap (framing : Framing) (hline : ∀ p ∈ payloads, newline ∉ p)
    (hlen : ∀ p ∈ payloads, p.length ≤ maxMessageBytes) :
    payloadsOf? framing (payloads.flatMap framing.wrap) = some payloads := by
  cases framing with
  | line => exact linesOf?_flatMap_wrap hline
  | framed =>
    apply framesOf?_flatMap_wrap
    intro p hp
    exact Nat.lt_of_le_of_lt (hlen p hp) (by decide)

end OrderEntry

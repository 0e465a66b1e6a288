import OrderEntry.Wire.Frame
import OrderEntry.Wire.Payload.Parser

/-! Events cut out of a byte stream at its newlines. A line longer than `maxMessageBytes` is reported
once and then dropped up to its newline, as its bytes arrive. -/

namespace OrderEntry

abbrev Item := Except DecodeError Event

def Event.ofBytes (symbols : SymbolFields) (bytes : Bytes) : Except DecodeError (Option Event) :=
  match ofUtf8? bytes with
  | some line => Event.ofPayload symbols line
  | none => .error .utf8

def carriageReturn : UInt8 := 13

def dropReturn (line : Bytes) : Bytes :=
  if line.getLast? = some carriageReturn then line.dropLast else line

def splitLine? (bytes : Bytes) : Option (Bytes × Bytes) :=
  match bytes.dropWhile (· != newline) with
  | _ :: rest => some (bytes.takeWhile (· != newline), rest)
  | [] => none

theorem length_of_splitLine? {bytes line rest : Bytes} (h : splitLine? bytes = some (line, rest)) :
    line.length + rest.length + 1 = bytes.length := by
  simp only [splitLine?] at h
  split at h
  next b c hd =>
    obtain ⟨rfl, rfl⟩ := Prod.mk.inj (Option.some.inj h)
    rw [← congrArg List.length (List.takeWhile_append_dropWhile (p := (· != newline)) (l := bytes)),
      hd, List.length_append, List.length_cons]
    omega
  next => cases h

inductive Cut
  | line (bytes rest : Bytes)
  | tooLong
  | incomplete

/-- The first line of the buffer. At the end of the stream its last bytes are a line too, unless
there are none or just a carriage return. -/
def cutLine (atEnd : Bool) (buffer : Bytes) : Cut :=
  match splitLine? buffer with
  | some (line, rest) => if line.length ≤ maxMessageBytes then .line line rest else .tooLong
  | none =>
    if maxMessageBytes < buffer.length then .tooLong
    else if atEnd && !buffer.isEmpty && buffer != [carriageReturn] then .line buffer []
    else .incomplete

theorem length_lt_of_cutLine {atEnd : Bool} {buffer line rest : Bytes}
    (h : cutLine atEnd buffer = .line line rest) : rest.length < buffer.length := by
  simp only [cutLine] at h
  split at h
  next a b hs =>
    split at h
    · cases h
      have := length_of_splitLine? hs
      omega
    · cases h
  next =>
    split at h
    · cases h
    · split at h
      next hc =>
        cases h
        simp only [Bool.and_eq_true, Bool.not_eq_true', List.isEmpty_eq_false_iff] at hc
        exact List.length_pos_iff.mpr hc.1.2
      next => cases h

namespace LineDecoder

/-- What is left to read while an over-long line is being dropped, and whether it still is. -/
def resume (discarding : Bool) (buffer : Bytes) : Bool × Bytes :=
  if discarding then
    match splitLine? buffer with
    | some (_, rest) => (false, rest)
    | none => (true, [])
  else (false, buffer)

/-- The next item, skipping blank lines, whether its line is now being dropped, and the bytes left. -/
def nextLine (symbols : SymbolFields) (atEnd : Bool) (buffer : Bytes) : Option Item × Bool × Bytes :=
  match h : cutLine atEnd buffer with
  | .incomplete => (none, false, buffer)
  | .tooLong => (some (.error (.lineTooLong maxMessageBytes)), true, buffer)
  | .line line rest =>
    match Event.ofBytes symbols (dropReturn line) with
    | .ok (some event) => (some (.ok event), false, rest)
    | .ok none =>
      have := length_lt_of_cutLine h
      nextLine symbols atEnd rest
    | .error e => (some (.error e), false, rest)
termination_by buffer.length

theorem nextLine_item {symbols : SymbolFields} {atEnd discarding : Bool} {buffer rest : Bytes}
    {item : Item} (h : nextLine symbols atEnd buffer = (some item, discarding, rest)) :
    if discarding then rest.length ≤ buffer.length else rest.length < buffer.length := by
  fun_induction nextLine symbols atEnd buffer with
  | case1 => cases h
  | case2 => cases h; exact Nat.le_refl _
  | case3 _ _ _ hc => cases h; exact length_lt_of_cutLine hc
  | case4 _ _ _ hc _ lt ih =>
    have hl := ih h
    cases discarding <;> simp only [if_true, if_false, Bool.false_eq_true] at hl ⊢ <;> omega
  | case5 _ _ _ hc => cases h; exact length_lt_of_cutLine hc

theorem resume_length {discarding : Bool} {buffer rest : Bytes}
    (h : resume discarding buffer = (false, rest)) :
    if discarding then rest.length < buffer.length else rest.length ≤ buffer.length := by
  cases discarding with
  | false => cases h; exact Nat.le_refl _
  | true =>
    simp only [resume, if_true] at h
    split at h
    next hs =>
      cases h
      have := length_of_splitLine? hs
      simp only [if_true]
      omega
    next => cases h

def next (symbols : SymbolFields) (atEnd discarding : Bool) (buffer : Bytes) :
    Option Item × Bool × Bytes :=
  match resume discarding buffer with
  | (true, rest) => (none, true, rest)
  | (false, rest) => nextLine symbols atEnd rest

def weight (discarding : Bool) (buffer : Bytes) : Nat :=
  2 * buffer.length + if discarding then 0 else 1

theorem weight_lt_of_next {symbols : SymbolFields} {atEnd discarding discarding' : Bool}
    {buffer rest : Bytes} {item : Item}
    (h : next symbols atEnd discarding buffer = (some item, discarding', rest)) :
    weight discarding' rest < weight discarding buffer := by
  simp only [next] at h
  split at h
  · cases h
  next hr =>
    have hl := resume_length hr
    have hi := nextLine_item h
    cases discarding <;> cases discarding' <;>
      simp only [weight, if_true, if_false, Bool.false_eq_true] at hl hi ⊢ <;> omega

end LineDecoder
end OrderEntry

import Mathlib.Data.List.TakeWhile
import OrderEntry.Wire.LineDecoder

/-! A stream of lines read as a whole. Its bytes are cut at the newlines, and every line gives the item
that it would give alone. The decoder, which sees only a part of the bytes at a time, gives item for item
the same: each of its steps takes from the whole reading what it puts out. -/

namespace OrderEntry

def lineItem? (symbols : SymbolFields) (line : Bytes) : Option Item :=
  if maxMessageBytes < line.length then some (.error (.lineTooLong maxMessageBytes))
  else
    match ofUtf8? (dropReturn line) with
    | none => some (.error .utf8)
    | some text =>
      match Event.ofPayload symbols text with
      | .ok event => event.map .ok
      | .error e => some (.error e)

/-- The items of lines, of which the last one has no newline. -/
def itemsOfLines (symbols : SymbolFields) : List Bytes → List Item
  | [] => []
  | [rest] => if rest = [] ∨ rest = [carriageReturn] then [] else (lineItem? symbols rest).toList
  | line :: lines => (lineItem? symbols line).toList ++ itemsOfLines symbols lines

def itemsOfLineStream (symbols : SymbolFields) (bytes : Bytes) : List Item :=
  itemsOfLines symbols (bytes.splitOn newline)

def itemsAfterLine (symbols : SymbolFields) (bytes : Bytes) : List Item :=
  itemsOfLines symbols (bytes.splitOn newline).tail

/-! The first line of a stream -/

theorem splitLine?_eq_some {bytes line rest : Bytes} (h : splitLine? bytes = some (line, rest)) :
    bytes = line ++ newline :: rest ∧ newline ∉ line := by
  unfold splitLine? at h
  split at h
  next b tail hd =>
    obtain ⟨rfl, rfl⟩ := Prod.mk.inj (Option.some.inj h)
    have hb : b = newline := by
      have hn := List.head_dropWhile_not (· != newline) (hd ▸ List.cons_ne_nil b tail)
      simpa only [hd, List.head_cons, bne_eq_false_iff_eq] using hn
    constructor
    · conv => lhs; rw [← List.takeWhile_append_dropWhile (p := (· != newline)) (l := bytes), hd, hb]
    · intro hm
      simpa using List.mem_takeWhile_imp hm
  · cases h

theorem splitLine?_eq_none {bytes : Bytes} (h : splitLine? bytes = none) : newline ∉ bytes := by
  unfold splitLine? at h
  split at h
  · cases h
  next hd =>
    intro hm
    simpa using List.dropWhile_eq_nil_iff.mp hd newline hm

theorem splitOn_append_of_not_mem {bytes : Bytes} (h : newline ∉ bytes) (more : Bytes) :
    (bytes ++ more).splitOn newline = (more.splitOn newline).modifyHead (bytes ++ ·) := by
  induction bytes with
  | nil =>
    rw [List.nil_append]
    cases more.splitOn newline <;> rfl
  | cons b bytes ih =>
    have hb : (b == newline) = false := beq_false_of_ne fun e => h (e ▸ List.mem_cons_self)
    rw [List.cons_append, List.splitOn_cons_eq_if_modifyHead, hb,
      ih fun hm => h (List.mem_cons_of_mem _ hm)]
    cases more.splitOn newline <;> rfl

theorem itemsOfLines_cons {symbols : SymbolFields} {line : Bytes} {lines : List Bytes}
    (h : lines ≠ []) :
    itemsOfLines symbols (line :: lines) =
      (lineItem? symbols line).toList ++ itemsOfLines symbols lines := by
  cases lines with
  | nil => exact absurd rfl h
  | cons _ _ => rfl

theorem itemsOfLineStream_line (symbols : SymbolFields) {line : Bytes} (h : newline ∉ line)
    (rest : Bytes) :
    itemsOfLineStream symbols (line ++ newline :: rest) =
      (lineItem? symbols line).toList ++ itemsOfLineStream symbols rest := by
  unfold itemsOfLineStream
  rw [List.splitOn_append_cons_self_of_not_mem h]
  exact itemsOfLines_cons (List.splitOn_ne_nil newline rest)

theorem itemsAfterLine_line (symbols : SymbolFields) {line : Bytes} (h : newline ∉ line)
    (rest : Bytes) :
    itemsAfterLine symbols (line ++ newline :: rest) = itemsOfLineStream symbols rest := by
  unfold itemsAfterLine
  rw [List.splitOn_append_cons_self_of_not_mem h]
  rfl

theorem itemsAfterLine_of_not_mem (symbols : SymbolFields) {bytes : Bytes} (h : newline ∉ bytes)
    (more : Bytes) : itemsAfterLine symbols (bytes ++ more) = itemsAfterLine symbols more := by
  unfold itemsAfterLine
  rw [splitOn_append_of_not_mem h]
  cases more.splitOn newline <;> rfl

theorem itemsOfLineStream_unended (symbols : SymbolFields) {bytes : Bytes} (h : newline ∉ bytes) :
    itemsOfLineStream symbols bytes =
      if bytes = [] ∨ bytes = [carriageReturn] then [] else (lineItem? symbols bytes).toList := by
  unfold itemsOfLineStream
  rw [List.splitOn_eq_singleton h]
  rfl

theorem lineItem?_tooLong {symbols : SymbolFields} {line : Bytes}
    (h : maxMessageBytes < line.length) :
    lineItem? symbols line = some (.error (.lineTooLong maxMessageBytes)) := if_pos h

theorem itemsOfLineStream_tooLong (symbols : SymbolFields) {start : Bytes} (h : newline ∉ start)
    (hl : maxMessageBytes < start.length) (more : Bytes) :
    itemsOfLineStream symbols (start ++ more) =
      .error (.lineTooLong maxMessageBytes) :: itemsAfterLine symbols (start ++ more) := by
  unfold itemsOfLineStream itemsAfterLine
  rw [splitOn_append_of_not_mem h]
  rcases hs : more.splitOn newline with _ | ⟨line, lines⟩
  · exact absurd hs (List.splitOn_ne_nil newline more)
  have hlong : maxMessageBytes < (start ++ line).length := by
    rw [List.length_append]
    omega
  cases lines with
  | nil =>
    have hne : ¬(start ++ line = [] ∨ start ++ line = [carriageReturn]) := by
      rintro (e | e) <;> rw [e] at hlong <;> simp [maxMessageBytes] at hlong
    simp only [List.modifyHead_cons, List.tail_cons, itemsOfLines, if_neg hne,
      lineItem?_tooLong hlong, Option.toList_some]
  | cons _ _ =>
    simp only [List.modifyHead_cons, List.tail_cons, itemsOfLines, lineItem?_tooLong hlong,
      Option.toList_some, List.singleton_append]

/-! One step of the decoder -/

theorem lineItem?_eq_ofBytes (symbols : SymbolFields) {line : Bytes}
    (h : line.length ≤ maxMessageBytes) :
    lineItem? symbols line =
      match Event.ofBytes symbols (dropReturn line) with
      | .ok event => event.map .ok
      | .error e => some (.error e) := by
  unfold lineItem? Event.ofBytes
  rw [if_neg (Nat.not_lt.mpr h)]
  cases ofUtf8? (dropReturn line) <;> rfl

theorem length_le_of_cutLine {atEnd : Bool} {buffer line rest : Bytes}
    (h : cutLine atEnd buffer = .line line rest) : line.length ≤ maxMessageBytes := by
  unfold cutLine at h
  split at h
  · split at h
    next hle =>
      cases h
      exact hle
    · cases h
  · split at h
    · cases h
    next hle =>
      split at h
      · cases h
        exact Nat.not_lt.mp hle
      · cases h

theorem itemsOfLineStream_of_cutLine (symbols : SymbolFields) {atEnd : Bool}
    {buffer line rest more : Bytes} (h : cutLine atEnd buffer = .line line rest)
    (hm : atEnd = true → more = []) :
    itemsOfLineStream symbols (buffer ++ more) =
      (lineItem? symbols line).toList ++ itemsOfLineStream symbols (rest ++ more) := by
  unfold cutLine at h
  split at h
  next l r hs =>
    obtain ⟨rfl, hn⟩ := splitLine?_eq_some hs
    split at h
    · cases h
      rw [List.append_assoc, List.cons_append]
      exact itemsOfLineStream_line symbols hn _
    · cases h
  next hs =>
    split at h
    · cases h
    · split at h
      next hc =>
        cases h
        simp only [Bool.and_eq_true, Bool.not_eq_true', List.isEmpty_eq_false_iff, bne_iff_ne] at hc
        have hl : ¬(buffer = [] ∨ buffer = [carriageReturn]) := not_or.mpr ⟨hc.1.2, hc.2⟩
        rw [hm hc.1.1, List.append_nil, List.append_nil,
          itemsOfLineStream_unended symbols (splitLine?_eq_none hs), if_neg hl]
        exact (List.append_nil _).symm
      · cases h

theorem itemsOfLineStream_of_tooLong (symbols : SymbolFields) {atEnd : Bool} {buffer : Bytes}
    (h : cutLine atEnd buffer = .tooLong) (more : Bytes) :
    itemsOfLineStream symbols (buffer ++ more) =
      .error (.lineTooLong maxMessageBytes) :: itemsAfterLine symbols (buffer ++ more) := by
  unfold cutLine at h
  split at h
  next line rest hs =>
    obtain ⟨rfl, hn⟩ := splitLine?_eq_some hs
    split at h
    · cases h
    next hle =>
      rw [List.append_assoc]
      exact itemsOfLineStream_tooLong symbols hn (Nat.not_le.mp hle) _
  next hs =>
    split at h
    next hl => exact itemsOfLineStream_tooLong symbols (splitLine?_eq_none hs) hl more
    · split at h <;> cases h

theorem itemsOfLineStream_of_incomplete (symbols : SymbolFields) {buffer : Bytes}
    (h : cutLine true buffer = .incomplete) : itemsOfLineStream symbols buffer = [] := by
  unfold cutLine at h
  split at h
  · split at h <;> cases h
  next hs =>
    split at h
    · cases h
    · split at h
      · cases h
      next hc =>
        simp only [Bool.true_and, Bool.and_eq_true, Bool.not_eq_true', List.isEmpty_eq_false_iff,
          bne_iff_ne] at hc
        rw [itemsOfLineStream_unended symbols (splitLine?_eq_none hs), if_pos]
        by_contra hn
        exact hc (not_or.mp hn)

namespace LineDecoder

def pending (symbols : SymbolFields) (discarding : Bool) (bytes : Bytes) : List Item :=
  if discarding then itemsAfterLine symbols bytes else itemsOfLineStream symbols bytes

theorem pending_resume (symbols : SymbolFields) (discarding : Bool) (buffer more : Bytes) :
    pending symbols (resume discarding buffer).1 ((resume discarding buffer).2 ++ more) =
      pending symbols discarding (buffer ++ more) := by
  cases discarding with
  | false => rfl
  | true =>
    rcases hs : splitLine? buffer with _ | ⟨line, rest⟩
    · simp only [resume, hs, if_true, pending, List.nil_append]
      exact (itemsAfterLine_of_not_mem symbols (splitLine?_eq_none hs) more).symm
    · obtain ⟨rfl, hn⟩ := splitLine?_eq_some hs
      simp only [resume, hs, if_true, pending, List.append_assoc, List.cons_append,
        Bool.false_eq_true, if_false]
      exact (itemsAfterLine_line symbols hn _).symm

theorem pending_of_nextLine {symbols : SymbolFields} {atEnd discarding : Bool}
    {buffer rest more : Bytes} {item : Option Item}
    (h : nextLine symbols atEnd buffer = (item, discarding, rest))
    (hm : atEnd = true → more = []) :
    itemsOfLineStream symbols (buffer ++ more) =
      item.toList ++ pending symbols discarding (rest ++ more) := by
  fun_induction nextLine symbols atEnd buffer with
  | case1 buffer hc =>
    cases h
    rfl
  | case2 buffer hc =>
    cases h
    exact itemsOfLineStream_of_tooLong symbols hc more
  | case3 buffer line rest' hc event he =>
    cases h
    rw [itemsOfLineStream_of_cutLine symbols hc hm,
      lineItem?_eq_ofBytes symbols (length_le_of_cutLine hc), he]
    rfl
  | case4 buffer line rest' hc he _ ih =>
    rw [itemsOfLineStream_of_cutLine symbols hc hm,
      lineItem?_eq_ofBytes symbols (length_le_of_cutLine hc), he, ← ih h]
    rfl
  | case5 buffer line rest' hc e he =>
    cases h
    rw [itemsOfLineStream_of_cutLine symbols hc hm,
      lineItem?_eq_ofBytes symbols (length_le_of_cutLine hc), he]
    rfl

theorem pending_of_next {symbols : SymbolFields} {atEnd discarding discarding' : Bool}
    {buffer rest : Bytes} {item : Option Item}
    (h : next symbols atEnd discarding buffer = (item, discarding', rest)) (more : Bytes)
    (hm : atEnd = true → more = []) :
    pending symbols discarding (buffer ++ more) =
      item.toList ++ pending symbols discarding' (rest ++ more) := by
  have hp := pending_resume symbols discarding buffer more
  unfold next at h
  split at h
  next r hr =>
    cases h
    rw [← hp, hr]
    rfl
  next r hr =>
    rw [← hp, hr]
    exact pending_of_nextLine h hm

theorem pending_of_nextLine_none {symbols : SymbolFields} {discarding : Bool} {buffer rest : Bytes}
    (h : nextLine symbols true buffer = (none, discarding, rest)) :
    pending symbols discarding rest = [] := by
  fun_induction nextLine symbols true buffer with
  | case1 buffer hc =>
    cases h
    exact itemsOfLineStream_of_incomplete symbols hc
  | case2 => cases h
  | case3 => cases h
  | case4 _ _ _ _ _ _ ih => exact ih h
  | case5 => cases h

theorem pending_of_next_none {symbols : SymbolFields} {discarding discarding' : Bool}
    {buffer rest : Bytes} (h : next symbols true discarding buffer = (none, discarding', rest)) :
    pending symbols discarding' rest = [] := by
  unfold next resume at h
  cases discarding with
  | false => exact pending_of_nextLine_none h
  | true =>
    rcases hs : splitLine? buffer with _ | ⟨line, tail⟩
    · simp only [hs, if_true] at h
      cases h
      rfl
    · simp only [hs, if_true] at h
      exact pending_of_nextLine_none h

end LineDecoder
end OrderEntry

import OrderEntry.Proofs.Text.Json
import OrderEntry.Proofs.Text.Utf8
import OrderEntry.Recording

/-! What a recording adds to its file: one line for every event, in order. A line is read back as the
record that was written, so no two records share one, and it ends at its only newline, whatever is in the
symbols. -/

namespace OrderEntry

open Json (ReadAs ReadMembers Plain)

/-! ### One record -/

def Side.value : Side → Json
  | buy => .text "Buy"
  | sell => .text "Sell"

def wordValue (w : UInt32) : Json := .number w.toNat

def symbolValue (symbol : Option String) : Json := symbol.elim .null .text

namespace Event

def memberValues : Event → List (String × Json)
  | ack a => [("user_id", wordValue a.userId), ("order_id", wordValue a.orderId),
      ("symbol", symbolValue a.symbol)]
  | trade t => [("buy_user_id", wordValue t.buyUserId), ("buy_order_id", wordValue t.buyOrderId),
      ("sell_user_id", wordValue t.sellUserId), ("sell_order_id", wordValue t.sellOrderId),
      ("price", wordValue t.price), ("qty", wordValue t.qty), ("symbol", symbolValue t.symbol)]
  | bookUpdate b => [("symbol", .text b.symbol), ("side", b.side.value),
      ("price", wordValue b.price), ("qty", wordValue b.qty)]
  | cancelAck a => [("user_id", wordValue a.userId), ("order_id", wordValue a.orderId),
      ("symbol", symbolValue a.symbol)]

def value (e : Event) : Json := .object [(e.variant, .object e.memberValues)]

end Event

theorem reads_word (depth : Nat) (w : UInt32) : ReadAs (depth + 1) (wordJson w) (wordValue w) :=
  Json.reads_number depth w.toNat

theorem reads_side (depth : Nat) (s : Side) : ReadAs (depth + 1) s.json s.value := by
  cases s <;> exact Json.reads_text depth _

theorem readMembers_event (depth : Nat) (e : Event) :
    ReadMembers (depth + 1) e.members e.memberValues := by
  have hword := reads_word depth
  have hsymbol := Json.reads_optionalText depth
  have htext := Json.reads_text depth
  have hside := reads_side depth
  cases e with
  | ack a =>
    exact .cons ⟨rfl, hword _⟩ (.cons ⟨rfl, hword _⟩ (.cons ⟨rfl, hsymbol _⟩ .nil))
  | trade t =>
    exact .cons ⟨rfl, hword _⟩ (.cons ⟨rfl, hword _⟩ (.cons ⟨rfl, hword _⟩ (.cons ⟨rfl, hword _⟩
      (.cons ⟨rfl, hword _⟩ (.cons ⟨rfl, hword _⟩ (.cons ⟨rfl, hsymbol _⟩ .nil))))))
  | bookUpdate b =>
    exact .cons ⟨rfl, htext _⟩ (.cons ⟨rfl, hside _⟩ (.cons ⟨rfl, hword _⟩
      (.cons ⟨rfl, hword _⟩ .nil)))
  | cancelAck a =>
    exact .cons ⟨rfl, hword _⟩ (.cons ⟨rfl, hword _⟩ (.cons ⟨rfl, hsymbol _⟩ .nil))

theorem reads_event (depth : Nat) (e : Event) : ReadAs (depth + 3) e.json e.value :=
  Json.reads_object (.cons ⟨rfl, Json.reads_object (readMembers_event depth e)⟩ .nil)

theorem plain_event (e : Event) : Plain e.json := by
  have hmembers : ∀ m ∈ e.members, Plain m.2 := by
    cases e with
    | ack a | cancelAck a =>
      simp [Event.members, wordJson, Json.plain_jsonNumber, Json.plain_jsonOptionalText]
    | trade t => simp [Event.members, wordJson, Json.plain_jsonNumber, Json.plain_jsonOptionalText]
    | bookUpdate b =>
      cases hside : b.side <;>
        simp [Event.members, wordJson, Side.json, hside, Json.plain_jsonNumber, Json.plain_jsonText]
  have hobject := Json.plain_jsonObject hmembers
  unfold Event.json
  apply Json.plain_jsonObject
  simpa using hobject

theorem wordValue_inj {w w' : UInt32} : wordValue w = wordValue w' ↔ w = w' := by
  unfold wordValue
  rw [Json.number.injEq, Int.ofNat_inj, UInt32.toNat_inj]

theorem symbolValue_inj {s s' : Option String} : symbolValue s = symbolValue s' ↔ s = s' := by
  cases s <;> cases s' <;> simp [symbolValue]

theorem Side.value_inj {s s' : Side} : s.value = s'.value ↔ s = s' := by
  cases s <;> cases s' <;> simp [value]

theorem Event.memberValues_inj {e e' : Event} (hvariant : e.variant = e'.variant)
    (h : e.memberValues = e'.memberValues) : e = e' := by
  cases e with
  | ack a =>
    cases e' with
    | ack a' =>
      obtain ⟨user, order, symbol⟩ := a
      obtain ⟨user', order', symbol'⟩ := a'
      simpa [memberValues, wordValue_inj, symbolValue_inj] using h
    | trade | bookUpdate | cancelAck => simp [variant] at hvariant
  | trade t =>
    cases e' with
    | trade t' =>
      obtain ⟨buyUser, buyOrder, sellUser, sellOrder, price, qty, symbol⟩ := t
      obtain ⟨buyUser', buyOrder', sellUser', sellOrder', price', qty', symbol'⟩ := t'
      simpa [memberValues, wordValue_inj, symbolValue_inj] using h
    | ack | bookUpdate | cancelAck => simp [variant] at hvariant
  | bookUpdate b =>
    cases e' with
    | bookUpdate b' =>
      obtain ⟨symbol, side, price, qty⟩ := b
      obtain ⟨symbol', side', price', qty'⟩ := b'
      simpa [memberValues, wordValue_inj, Side.value_inj] using h
    | ack | trade | cancelAck => simp [variant] at hvariant
  | cancelAck a =>
    cases e' with
    | cancelAck a' =>
      obtain ⟨user, order, symbol⟩ := a
      obtain ⟨user', order', symbol'⟩ := a'
      simpa [memberValues, wordValue_inj, symbolValue_inj] using h
    | ack | trade | bookUpdate => simp [variant] at hvariant

theorem Event.value_inj {e e' : Event} (h : e.value = e'.value) : e = e' := by
  have hmember : e.variant = e'.variant ∧ e.memberValues = e'.memberValues := by
    simpa [value] using h
  exact memberValues_inj hmember.1 hmember.2

namespace Record

theorem parse_json (r : Record) : Json.parse (String.ofList r.json) =
    some (.object [("ts_ns", .number r.time), ("kind", .text r.event.kind.name),
      ("event", r.event.value)]) := by
  have hreads : ∀ n, ReadAs (4 + n) r.json (.object [("ts_ns", .number r.time),
      ("kind", .text r.event.kind.name), ("event", r.event.value)]) := by
    intro n
    rw [Nat.add_comm]
    exact Json.reads_object (.cons ⟨rfl, Json.reads_number _ _⟩ (.cons ⟨rfl, Json.reads_text _ _⟩
      (.cons ⟨rfl, reads_event _ _⟩ .nil)))
  have hlength : 3 + 2 ≤ r.json.length :=
    Json.length_jsonObject [("ts_ns", _), ("kind", _), ("event", _)]
  exact Json.parse_of_reads hreads (Nat.le_of_succ_le hlength)

theorem plain_json (r : Record) : Plain r.json := by
  have hevent := plain_event r.event
  apply Json.plain_jsonObject
  simp [Json.plain_jsonNumber, Json.plain_jsonText, hevent]

theorem line_inj {r r' : Record} : r.line = r'.line ↔ r = r' := by
  refine ⟨fun h => ?_, fun h => h ▸ rfl⟩
  have hjson : r.json = r'.json := List.append_inj_left' (String.ofList_injective h) rfl
  have hparse := r.parse_json
  rw [hjson, r'.parse_json] at hparse
  obtain ⟨time, event⟩ := r
  obtain ⟨time', event'⟩ := r'
  simp only [Option.some.injEq, Json.object.injEq, List.cons.injEq, Prod.mk.injEq,
    Json.number.injEq] at hparse
  obtain ⟨⟨_, htime⟩, _, ⟨_, hevent⟩, _⟩ := hparse
  rw [htime, Event.value_inj hevent]

theorem newline_not_mem_json (r : Record) : newline ∉ utf8 (String.ofList r.json) := by
  have hplain : '\n' ∉ r.json := fun h => absurd (r.plain_json _ h) (by decide)
  rw [← List.count_eq_zero, count_newline_utf8, String.toList_ofList]
  exact List.count_eq_zero.mpr hplain

theorem count_newline_line (r : Record) : (utf8 r.line).count newline = 1 := by
  have hjson := List.count_eq_zero.mpr r.newline_not_mem_json
  have hend : (utf8 "\n").count newline = 1 := count_newline_utf8 "\n"
  unfold line
  rw [String.ofList_append, utf8_append, List.count_append, hjson]
  exact hend

end Record

/-! ### The file -/

def RecordingInput.record? : RecordingInput → Option Record
  | record r => some r
  | tick => none

namespace Recording

def lines : List Record → String
  | [] => ""
  | r :: records => r.line ++ lines records

theorem lines_append (records more : List Record) :
    lines (records ++ more) = lines records ++ lines more := by
  induction records with
  | nil => exact (String.empty_append).symm
  | cons r records ih => rw [List.cons_append, lines, ih, lines, String.append_assoc]

theorem count_newline_lines (records : List Record) :
    (utf8 (lines records)).count newline = records.length := by
  induction records with
  | nil => rfl
  | cons r records ih =>
    rw [lines, utf8_append, List.count_append, r.count_newline_line, ih, List.length_cons,
      Nat.add_comm]

/-- The file holds the lines of the records in `filed`, behind what it held before. Those in `waiting` came
since the last time that lines were written out. -/
structure Keeps (before : String) (filed waiting : List Record) (f : Recording) : Prop where
  written : f.written = before ++ lines filed
  collected : f.collected = lines waiting
  sinceFlush : f.sinceFlush = waiting.length
  few : waiting.length < flushEvery

variable {before : String} {filed waiting : List Record} {f : Recording}

theorem keeps_start (before : String) : Keeps before [] [] { written := before } where
  written := String.append_empty.symm
  collected := rfl
  sinceFlush := rfl
  few := by decide

theorem Keeps.flushed (hw : f.written = before ++ lines filed) (hc : f.collected = lines waiting) :
    Keeps before (filed ++ waiting) [] f.flush where
  written := by
    unfold flush
    rw [hw, hc, lines_append, String.append_assoc]
  collected := rfl
  sinceFlush := rfl
  few := by decide

theorem Keeps.step (h : Keeps before filed waiting f) (i : RecordingInput) :
    ∃ filed' waiting', Keeps before filed' waiting' (f.step i) ∧
      filed' ++ waiting' = filed ++ waiting ++ i.record?.toList := by
  cases i with
  | tick => exact ⟨_, _, Keeps.flushed h.written h.collected, rfl⟩
  | record r =>
    have hcollected : f.collected ++ r.line = lines (waiting ++ [r]) := by
      rw [lines_append, h.collected, lines, lines, String.append_empty]
    have hcount : f.sinceFlush + 1 = (waiting ++ [r]).length := by
      rw [h.sinceFlush, List.length_append, List.length_singleton]
    have hall : filed ++ (waiting ++ [r]) = filed ++ waiting ++ [r] := by
      rw [List.append_assoc]
    unfold Recording.step
    dsimp only
    split
    next => exact ⟨_, _, Keeps.flushed h.written hcollected, by rw [List.append_nil, hall]; rfl⟩
    next hfew =>
      exact ⟨filed, waiting ++ [r], ⟨h.written, hcollected, hcount, by rw [← hcount]; omega⟩, hall⟩

theorem Keeps.foldl_step (h : Keeps before filed waiting f) (inputs : List RecordingInput) :
    ∃ filed' waiting', Keeps before filed' waiting' (inputs.foldl Recording.step f) ∧
      filed' ++ waiting' = filed ++ waiting ++ inputs.filterMap RecordingInput.record? := by
  induction inputs generalizing filed waiting f with
  | nil => exact ⟨filed, waiting, h, (List.append_nil _).symm⟩
  | cons i inputs ih =>
    obtain ⟨filed₁, waiting₁, hstep, hfirst⟩ := h.step i
    obtain ⟨filed₂, waiting₂, hrun, hrest⟩ := ih hstep
    refine ⟨filed₂, waiting₂, hrun, ?_⟩
    rw [hrest, hfirst, List.append_assoc]
    cases i <;> rfl

theorem run_eq (before : String) (inputs : List RecordingInput) :
    run before inputs = before ++ lines (inputs.filterMap RecordingInput.record?) := by
  obtain ⟨filed, waiting, hkeeps, hall⟩ := (keeps_start before).foldl_step inputs
  have hflushed := Keeps.flushed hkeeps.written hkeeps.collected
  unfold run
  rw [hflushed.written, hall]
  rfl

theorem runs_eq (existing : Option String) (recordings : List (List RecordingInput)) :
    (runs existing recordings).getD "" =
      existing.getD "" ++ lines (recordings.flatten.filterMap RecordingInput.record?) := by
  induction recordings generalizing existing with
  | nil => exact String.append_empty.symm
  | cons inputs recordings ih =>
    have hrest := ih (some (run (existing.getD "") inputs))
    have hfirst := run_eq (existing.getD "") inputs
    rw [List.flatten_cons, List.filterMap_append, lines_append, ← String.append_assoc, ← hfirst]
    exact hrest

/-- After any number of recordings to one file it holds what it held before and one line for every event
recorded, in order. While a recording goes on, fewer than a thousand of its lines are still to be written
out. Each line is a JSON object with the time, the kind and the event and one newline, its last byte; two
records have different lines. -/
theorem recorded_line_by_line (existing : Option String) (recordings : List (List RecordingInput)) :
    let records := recordings.flatten.filterMap RecordingInput.record?
    let before := existing.getD ""
    let after := (runs existing recordings).getD ""
    after = before ++ lines records ∧
    (utf8 after).count newline = (utf8 before).count newline + records.length ∧
    (∀ inputs : List RecordingInput, ∃ filed waiting : List Record,
      inputs.filterMap RecordingInput.record? = filed ++ waiting ∧ waiting.length < flushEvery ∧
        (inputs.foldl Recording.step { written := after }).written = after ++ lines filed) ∧
    (∀ r : Record, ∃ json : String, r.line = json ++ "\n" ∧ newline ∉ utf8 json ∧
      Json.parse json = some (.object [("ts_ns", .number r.time),
        ("kind", .text r.event.kind.name), ("event", r.event.value)])) ∧
    ∀ r r' : Record, r.line = r'.line ↔ r = r' := by
  intro records before after
  have hafter : after = before ++ lines records := runs_eq existing recordings
  refine ⟨hafter, ?_, fun inputs => ?_, fun r => ?_, fun r r' => Record.line_inj⟩
  · rw [hafter, utf8_append, List.count_append, count_newline_lines]
  · obtain ⟨filed, waiting, hkeeps, hall⟩ := (keeps_start after).foldl_step inputs
    exact ⟨filed, waiting, hall.symm, hkeeps.few, hkeeps.written⟩
  · exact ⟨String.ofList r.json, String.ofList_append, r.newline_not_mem_json, r.parse_json⟩

end Recording
end OrderEntry

import OrderEntry.Proofs.Wire.Payload.Commands
import OrderEntry.Proofs.Wire.Payload.Events

/-! Canonical lines. A message that was read from any line is written as one line of many that mean the same:
without padding, with the shortest numbers, a dash for a level without interest and one tag for each
kind. Main statement: that line is read as the same message again, so lines mean the same exactly when
they are written again alike. -/

namespace OrderEntry

variable {α : Type} {read : String → Except DecodeError (Option α)} {write : α → String}

theorem eq_iff_write_eq
    (h : ∀ (line : String) (a : α), read line = .ok (some a) → read (write a) = .ok (some a))
    {line line' : String} {a a' : α} (ha : read line = .ok (some a))
    (ha' : read line' = .ok (some a')) : a = a' ↔ write a = write a' := by
  constructor
  · exact congrArg write
  · intro hw
    have hback := h line a ha
    have hback' := h line' a' ha'
    rw [hw, hback'] at hback
    exact (Option.some.inj (Except.ok.inj hback)).symm

theorem Event.reads_back_of_read {symbols : SymbolFields} {line : String} {e : Event}
    (h : ofPayload symbols line = .ok (some e)) :
    ofPayload symbols (e.payload symbols) = .ok (some e) := by
  have hexp : e.Expressible symbols := expressible_of_ofPayload h
  exact ofPayload_payload hexp

theorem Command.reads_back_of_read {symbols : SymbolFields} {line : String} {c : Command}
    (h : ofPayload symbols line = .ok (some c)) :
    ofPayload symbols (c.payload symbols) = .ok (some c) := by
  have hexp : c.Expressible symbols := expressible_of_ofPayload h
  exact ofPayload_payload hexp

/-- Whatever line a message was read from, written again it is read as the same message. Two lines that are
read mean the same exactly when they are written again as the same text. -/
theorem written_again_reads_back (symbols : SymbolFields) :
    (∀ (line : String) (e : Event), Event.ofPayload symbols line = .ok (some e) →
      Event.ofPayload symbols (e.payload symbols) = .ok (some e)) ∧
    (∀ (line : String) (c : Command), Command.ofPayload symbols line = .ok (some c) →
      Command.ofPayload symbols (c.payload symbols) = .ok (some c)) ∧
    (∀ (line line' : String) (e e' : Event), Event.ofPayload symbols line = .ok (some e) →
      Event.ofPayload symbols line' = .ok (some e') →
        (e = e' ↔ e.payload symbols = e'.payload symbols)) ∧
    ∀ (line line' : String) (c c' : Command), Command.ofPayload symbols line = .ok (some c) →
      Command.ofPayload symbols line' = .ok (some c') →
        (c = c' ↔ c.payload symbols = c'.payload symbols) := by
  have hevent : ∀ (line : String) (e : Event), Event.ofPayload symbols line = .ok (some e) →
      Event.ofPayload symbols (e.payload symbols) = .ok (some e) := fun _ _ =>
    Event.reads_back_of_read
  have hcommand : ∀ (line : String) (c : Command), Command.ofPayload symbols line = .ok (some c) →
      Command.ofPayload symbols (c.payload symbols) = .ok (some c) := fun _ _ =>
    Command.reads_back_of_read
  exact ⟨hevent, hcommand, fun _ _ _ _ => eq_iff_write_eq hevent,
    fun _ _ _ _ => eq_iff_write_eq hcommand⟩

/-- Padding, leading zeros, the tag of a cancel for its acknowledgement, a symbol beyond ASCII with a blank
inside, an empty symbol, and a zero for a level without interest. -/
theorem loose_lines_written_again :
    (Event.ofPayload .included "\t C ,é x , 007,0\r" = .ok (some (.cancelAck ⟨7, 0, some "é x"⟩)) ∧
      Event.ofPayload .included "X,é x,7,0" = .ok (some (.cancelAck ⟨7, 0, some "é x"⟩))) ∧
    (Event.ofPayload .omitted "B, ,S,0,05" = .ok (some (.bookUpdate ⟨"", .sell, 0, 5⟩)) ∧
      Event.ofPayload .omitted "B,,S,-,6" = .ok (some (.bookUpdate ⟨"", .sell, 0, 6⟩)) ∧
      (Event.bookUpdate ⟨"", .sell, 0, 5⟩).payload .omitted ≠
        (Event.bookUpdate ⟨"", .sell, 0, 6⟩).payload .omitted) ∧
    Command.ofPayload .omitted "N,01,, 2,3,B,4" = .ok (some (.newOrder ⟨1, "", 2, 3, .buy, 4⟩)) ∧
      Command.ofPayload .omitted "N,1,,2,3,B,4" = .ok (some (.newOrder ⟨1, "", 2, 3, .buy, 4⟩)) := by
  have hack : Event.ofPayload .included "\t C ,é x , 007,0\r" =
      .ok (some (.cancelAck ⟨7, 0, some "é x"⟩)) := by decide
  have hzero : Event.ofPayload .omitted "B, ,S,0,05" =
      .ok (some (.bookUpdate ⟨"", .sell, 0, 5⟩)) := by decide
  have hdash : Event.ofPayload .omitted "B,,S,-,6" =
      .ok (some (.bookUpdate ⟨"", .sell, 0, 6⟩)) := by decide
  have horder : Command.ofPayload .omitted "N,01,, 2,3,B,4" =
      .ok (some (.newOrder ⟨1, "", 2, 3, .buy, 4⟩)) := by decide
  have hack' : (Event.cancelAck ⟨7, 0, some "é x"⟩).payload .included = "X,é x,7,0" := by decide
  have horder' : (Command.newOrder ⟨1, "", 2, 3, .buy, 4⟩).payload .omitted = "N,1,,2,3,B,4" := by
    decide
  have hread := (written_again_reads_back .included).1 _ _ hack
  have hread' := (written_again_reads_back .omitted).2.1 _ _ horder
  have hiff := (written_again_reads_back .omitted).2.2.1 _ _ _ _ hzero hdash
  rw [hack'] at hread
  rw [horder'] at hread'
  have hne : Event.bookUpdate ⟨"", .sell, 0, 5⟩ ≠ Event.bookUpdate ⟨"", .sell, 0, 6⟩ := by decide
  exact ⟨⟨hack, hread⟩, ⟨hzero, hdash, fun hw => hne (hiff.mpr hw)⟩, horder, hread'⟩

end OrderEntry

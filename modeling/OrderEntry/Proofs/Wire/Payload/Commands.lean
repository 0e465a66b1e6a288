import OrderEntry.Proofs.Wire.Payload.Fields

/-! Commands written and read. A command survives the wire exactly when the format can express it, and
whatever passes the checks before sending can be expressed, up to the symbol of a cancel in a format
without a symbol column. -/

namespace OrderEntry

variable {symbols : SymbolFields}

theorem readNewOrder_fields (o : NewOrder) :
    readNewOrder [wordField o.userId, o.symbol.toList, wordField o.price, wordField o.qty,
      [o.side.letter], wordField o.orderId] = .ok o := by
  simp only [readNewOrder, bind, Except.bind, readWord_wordField, readSide_letter,
    String.ofList_toList]
  rfl

theorem fits_of_readNewOrder {fields : List Field} {o : NewOrder}
    (hfit : ∀ f ∈ fields, FitsField f) (h : readNewOrder fields = .ok o) :
    FitsField o.symbol.toList := by
  unfold readNewOrder at h
  split at h
  next user symbol price qty side order =>
    obtain ⟨user, _, h⟩ := bind_eq_ok.mp h
    obtain ⟨price, _, h⟩ := bind_eq_ok.mp h
    obtain ⟨qty, _, h⟩ := bind_eq_ok.mp h
    obtain ⟨side, _, h⟩ := bind_eq_ok.mp h
    obtain ⟨order, _, h⟩ := bind_eq_ok.mp h
    cases h
    rw [String.toList_ofList]
    exact hfit symbol (by simp)
  next => cases h

/-! Checked symbols -/

theorem checkSymbol_eq_ok_iff {s : String} :
    checkSymbol s = .ok () ↔
      s ≠ "" ∧ s.utf8ByteSize ≤ maxSymbolBytes ∧ ∀ c ∈ s.toList, isSymbolChar c = true := by
  unfold checkSymbol
  by_cases hempty : s = ""
  · simp [hempty]
  · by_cases hsize : maxSymbolBytes < s.utf8ByteSize
    · have hle : ¬s.utf8ByteSize ≤ maxSymbolBytes := Nat.not_le.mpr hsize
      simp [hempty, hsize, hle]
    · have hle : s.utf8ByteSize ≤ maxSymbolBytes := Nat.not_lt.mp hsize
      simp [hempty, hsize, hle]

theorem visible_of_checkSymbol {s : String} (h : checkSymbol s = .ok ()) : Visible s.toList := by
  obtain ⟨hne, _, hall⟩ := checkSymbol_eq_ok_iff.mp h
  refine ⟨?_, hall⟩
  intro hnil
  exact hne (String.toList_eq_nil_iff.mp hnil)

theorem checkSymbol_of_check {o : NewOrder} (h : o.check = .ok ()) : checkSymbol o.symbol = .ok () := by
  unfold NewOrder.check at h
  split at h
  · cases h
  · exact h

namespace Command

/-- Numbers and sides can always be written; symbols can not. -/
def Expressible (symbols : SymbolFields) : Command → Prop
  | newOrder o => FitsField o.symbol.toList
  | cancel c => symbols.Carries c.symbol
  | flush => True

theorem ofPayload_payload {c : Command} (h : c.Expressible symbols) :
    ofPayload symbols (c.payload symbols) = .ok (some c) := by
  cases c with
  | newOrder o =>
    have hfit : ∀ f ∈ fields symbols (newOrder o), FitsField f := by
      have hword := fun w => (visible_wordField w).fits
      have hletter := (visible_letter o.side).fits
      have htag : FitsField ['N'] := by decide
      have hsymbol : FitsField o.symbol.toList := h
      simp [fields, hsymbol, hletter, hword, htag]
    have hline := readLine_joinFields (ofFields symbols) hfit rfl rfl (List.cons_ne_nil _ _)
      (visible_wordField o.orderId).1
    refine hline.trans ?_
    simp [fields, ofFields, readNewOrder_fields, Functor.map, Except.map]
  | cancel c =>
    have hof : ∀ fields, ofFields symbols (['C'] :: fields) =
        (fun ref => cancel ⟨ref.1, ref.2.1, ref.2.2⟩) <$>
          readOrderRef "cancel" symbols fields := fun _ => rfl
    exact readLine_orderRef (by decide) "cancel" _ hof h c.userId c.orderId
  | flush =>
    have hfit : ∀ f ∈ ([['F']] : List Field), FitsField f := by decide
    exact readLine_joinFields (ofFields symbols) hfit rfl rfl (List.cons_ne_nil _ _)
      (List.cons_ne_nil _ _)

theorem expressible_of_ofFields {fields : List Field} {c : Command}
    (hfit : ∀ f ∈ fields, FitsField f) (h : ofFields symbols fields = .ok c) :
    c.Expressible symbols := by
  cases fields with
  | nil => cases h
  | cons tag fields =>
    have hfit' : ∀ f ∈ fields, FitsField f := fun f hf => hfit f (List.mem_cons_of_mem _ hf)
    rw [ofFields] at h
    split at h
    · obtain ⟨o, ho, rfl⟩ := map_eq_ok.mp h
      exact fits_of_readNewOrder hfit' ho
    · split at h
      · obtain ⟨⟨user, order, symbol⟩, href, he⟩ := bind_eq_ok.mp h
        cases he
        exact carries_of_readOrderRef hfit' href
      · split at h
        · split at h
          · cases h
            trivial
          · cases h
        · cases h

theorem expressible_of_ofPayload {line : String} {c : Command}
    (h : ofPayload symbols line = .ok (some c)) : c.Expressible symbols := by
  obtain ⟨fields, hfit, hread⟩ := fields_of_readLine h
  exact expressible_of_ofFields hfit hread

theorem ofPayload_payload_iff {c : Command} :
    ofPayload symbols (c.payload symbols) = .ok (some c) ↔ c.Expressible symbols :=
  ⟨expressible_of_ofPayload, ofPayload_payload⟩

/-- What the receiver sees of a command: a cancel loses its symbol where no column takes it. -/
def sent (symbols : SymbolFields) : Command → Command
  | cancel c =>
    match symbols with
    | .omitted => cancel { c with symbol := none }
    | .included => cancel c
  | c => c

theorem payload_sent (c : Command) : (c.sent symbols).payload symbols = c.payload symbols := by
  cases c with
  | cancel c => cases symbols <;> rfl
  | newOrder | flush => rfl

theorem expressible_sent {c : Command} (h : c.check symbols = .ok ()) :
    (c.sent symbols).Expressible symbols := by
  cases c with
  | newOrder o =>
    have hs : checkSymbol o.symbol = .ok () := checkSymbol_of_check h
    exact (visible_of_checkSymbol hs).fits
  | cancel c =>
    obtain ⟨user, order, symbol⟩ := c
    cases symbols with
    | omitted => rfl
    | included =>
      cases symbol with
      | none => cases h
      | some s => exact ⟨s, rfl, (visible_of_checkSymbol h).fits⟩
  | flush => trivial

/-- Every checked command comes back as it is sent. Of those that were not checked, an order comes back
exactly when its symbol fits a field, and a cancel exactly when it has such a symbol. -/
theorem reads_back_iff_symbol_fits (symbols : SymbolFields) :
    (∀ c : Command, c.check symbols = .ok () →
      ofPayload symbols (c.payload symbols) = .ok (some (c.sent symbols))) ∧
    (∀ o : NewOrder,
      ofPayload symbols ((newOrder o).payload symbols) = .ok (some (newOrder o)) ↔
        FitsField o.symbol.toList) ∧
    (∀ (userId orderId : UInt32) (symbol : String),
      ofPayload .included ((cancel ⟨userId, orderId, some symbol⟩).payload .included) =
          .ok (some (cancel ⟨userId, orderId, some symbol⟩)) ↔
        FitsField symbol.toList) ∧
    ∀ userId orderId : UInt32,
      ofPayload .included ((cancel ⟨userId, orderId, none⟩).payload .included) ≠
        .ok (some (cancel ⟨userId, orderId, none⟩)) := by
  refine ⟨?_, ?_, ?_, ?_⟩
  · intro c hc
    rw [← payload_sent]
    exact ofPayload_payload (expressible_sent hc)
  · intro o
    exact ofPayload_payload_iff
  · intro userId orderId symbol
    rw [ofPayload_payload_iff]
    constructor
    · rintro ⟨s, hs, hfit⟩
      cases hs
      exact hfit
    · intro hfit
      exact ⟨symbol, rfl, hfit⟩
  · intro userId orderId h
    obtain ⟨s, hs, _⟩ := expressible_of_ofPayload h
    cases hs

theorem checked_cancel_reads_back_without_symbol :
    check .omitted (cancel ⟨7, 42, some "BRK.B"⟩) = .ok () ∧
      ofPayload .omitted ((cancel ⟨7, 42, some "BRK.B"⟩).payload .omitted) =
        .ok (some (cancel ⟨7, 42, none⟩)) := by
  have hc : check .omitted (cancel ⟨7, 42, some "BRK.B"⟩) = .ok () := by decide
  exact ⟨hc, (reads_back_iff_symbol_fits .omitted).1 _ hc⟩

end Command
end OrderEntry

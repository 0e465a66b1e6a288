import OrderEntry.Proofs.Wire.Payload.Fields

/-! Events written and read. An event survives the wire exactly when the format can express it: the
column of its symbol carries it, and the symbol of a book update fits its field. -/

namespace OrderEntry

variable {symbols : SymbolFields}

theorem readTrade_fields (t : Trade) (h : symbols.Carries t.symbol) :
    readTrade symbols (symbolColumn symbols t.symbol ++
      [wordField t.buyUserId, wordField t.buyOrderId, wordField t.sellUserId,
        wordField t.sellOrderId, wordField t.price, wordField t.qty]) = .ok t := by
  have hs := takeSymbol_symbolColumn "trade" h
    [wordField t.buyUserId, wordField t.buyOrderId, wordField t.sellUserId,
      wordField t.sellOrderId, wordField t.price, wordField t.qty]
  change takeSymbol "trade" 6 symbols _ = _ at hs
  unfold readTrade
  rw [hs]
  simp only [bind, Except.bind, readWord_wordField]
  rfl

theorem carries_of_readTrade {fields : List Field} {t : Trade} (hfit : ∀ f ∈ fields, FitsField f)
    (h : readTrade symbols fields = .ok t) : symbols.Carries t.symbol := by
  obtain ⟨⟨symbol, rest⟩, hs, hrest⟩ := bind_eq_ok.mp h
  have hc := carries_of_takeSymbol hfit hs
  split at hrest
  next heq =>
    cases heq
    obtain ⟨buyUser, _, hrest⟩ := bind_eq_ok.mp hrest
    obtain ⟨buyOrder, _, hrest⟩ := bind_eq_ok.mp hrest
    obtain ⟨sellUser, _, hrest⟩ := bind_eq_ok.mp hrest
    obtain ⟨sellOrder, _, hrest⟩ := bind_eq_ok.mp hrest
    obtain ⟨price, _, hrest⟩ := bind_eq_ok.mp hrest
    obtain ⟨qty, _, hrest⟩ := bind_eq_ok.mp hrest
    cases hrest
    exact hc
  next => cases hrest

theorem readBookUpdate_fields (b : BookUpdate) :
    readBookUpdate [b.symbol.toList, [b.side.letter], levelField b.price, levelField b.qty] =
      .ok b := by
  simp only [readBookUpdate, bind, Except.bind, readSide_letter, readLevel_levelField,
    String.ofList_toList]
  rfl

theorem fits_of_readBookUpdate {fields : List Field} {b : BookUpdate}
    (hfit : ∀ f ∈ fields, FitsField f) (h : readBookUpdate fields = .ok b) :
    FitsField b.symbol.toList := by
  unfold readBookUpdate at h
  split at h
  next symbol side price qty =>
    obtain ⟨side, _, h⟩ := bind_eq_ok.mp h
    obtain ⟨price, _, h⟩ := bind_eq_ok.mp h
    obtain ⟨qty, _, h⟩ := bind_eq_ok.mp h
    cases h
    rw [String.toList_ofList]
    exact hfit symbol List.mem_cons_self
  next => cases h

namespace Event

def Expressible (symbols : SymbolFields) : Event → Prop
  | ack a => symbols.Carries a.symbol
  | trade t => symbols.Carries t.symbol
  | bookUpdate b => FitsField b.symbol.toList
  | cancelAck a => symbols.Carries a.symbol

theorem ofPayload_bookUpdate {b : BookUpdate} (h : FitsField b.symbol.toList) :
    ofPayload symbols ((bookUpdate b).payload symbols) = .ok (some (bookUpdate b)) := by
  have hfit : ∀ f ∈ fields symbols (bookUpdate b), FitsField f := by
    have hletter := (visible_letter b.side).fits
    have hprice := (visible_levelField b.price).fits
    have hqty := (visible_levelField b.qty).fits
    have htag : FitsField ['B'] := by decide
    simp [fields, h, hletter, hprice, hqty, htag]
  have hline := readLine_joinFields (ofFields symbols) hfit rfl rfl (List.cons_ne_nil _ _)
    (visible_levelField b.qty).1
  have hread : ofFields symbols (fields symbols (bookUpdate b)) = .ok (bookUpdate b) := by
    simp [fields, ofFields, readBookUpdate_fields, Functor.map, Except.map]
  unfold ofPayload payload
  rw [hline, hread]
  rfl

theorem ofPayload_payload {e : Event} (h : e.Expressible symbols) :
    ofPayload symbols (e.payload symbols) = .ok (some e) := by
  cases e with
  | ack a =>
    have hof : ∀ fields, ofFields symbols (['A'] :: fields) =
        (fun ref => ack ⟨ref.1, ref.2.1, ref.2.2⟩) <$>
          readOrderRef "ack" symbols fields := fun _ => rfl
    exact readLine_orderRef (by decide) "ack" _ hof h a.userId a.orderId
  | trade t =>
    have hline := readLine_columns (ofFields symbols) (by decide : Visible ['T']) h t.buyUserId
      [t.buyOrderId, t.sellUserId, t.sellOrderId, t.price, t.qty]
    refine hline.trans ?_
    have hread := readTrade_fields t h
    simp [ofFields, hread, Functor.map, Except.map]
  | bookUpdate b => exact ofPayload_bookUpdate h
  | cancelAck a =>
    have hof : ∀ fields, ofFields symbols (['X'] :: fields) =
        (fun ref => cancelAck ⟨ref.1, ref.2.1, ref.2.2⟩) <$>
          readOrderRef "cancel_ack" symbols fields := fun _ => rfl
    exact readLine_orderRef (by decide) "cancel_ack" _ hof h a.userId a.orderId

theorem expressible_of_ofFields {fields : List Field} {e : Event}
    (hfit : ∀ f ∈ fields, FitsField f) (h : ofFields symbols fields = .ok e) :
    e.Expressible symbols := by
  cases fields with
  | nil => cases h
  | cons tag fields =>
    have hfit' : ∀ f ∈ fields, FitsField f := fun f hf => hfit f (List.mem_cons_of_mem _ hf)
    rw [ofFields] at h
    split at h
    · obtain ⟨⟨user, order, symbol⟩, href, he⟩ := bind_eq_ok.mp h
      cases he
      exact carries_of_readOrderRef hfit' href
    · split at h
      · obtain ⟨t, ht, rfl⟩ := map_eq_ok.mp h
        exact carries_of_readTrade hfit' ht
      · split at h
        · obtain ⟨b, hb, rfl⟩ := map_eq_ok.mp h
          exact fits_of_readBookUpdate hfit' hb
        · split at h
          · obtain ⟨⟨user, order, symbol⟩, href, he⟩ := bind_eq_ok.mp h
            cases he
            exact carries_of_readOrderRef hfit' href
          · cases h

theorem expressible_of_ofPayload {line : String} {e : Event}
    (h : ofPayload symbols line = .ok (some e)) : e.Expressible symbols := by
  obtain ⟨fields, hfit, hread⟩ := fields_of_readLine h
  exact expressible_of_ofFields hfit hread

/-- An event comes back exactly when the format can express it. Without a symbol column every message
that has one comes back without its symbol. -/
theorem reads_back_iff_expressible :
    (∀ (symbols : SymbolFields) (e : Event),
      ofPayload symbols (e.payload symbols) = .ok (some e) ↔ e.Expressible symbols) ∧
    (∀ a : Ack, ofPayload .omitted ((ack a).payload .omitted) =
      .ok (some (ack { a with symbol := none }))) ∧
    (∀ t : Trade, ofPayload .omitted ((trade t).payload .omitted) =
      .ok (some (trade { t with symbol := none }))) ∧
    ∀ a : CancelAck, ofPayload .omitted ((cancelAck a).payload .omitted) =
      .ok (some (cancelAck { a with symbol := none })) := by
  refine ⟨fun symbols e => ⟨expressible_of_ofPayload, ofPayload_payload⟩, ?_, ?_, ?_⟩
  -- the symbol is not written, so the payload is that of the message without it
  · intro a
    exact ofPayload_payload (e := ack { a with symbol := none }) rfl
  · intro t
    exact ofPayload_payload (e := trade { t with symbol := none }) rfl
  · intro a
    exact ofPayload_payload (e := cancelAck { a with symbol := none }) rfl

end Event
end OrderEntry

import OrderEntry.Proofs.Wire.Payload.Fields

/-! The grammar of received messages. A tag fixes the columns behind it and a column the texts that it
accepts. What a line is read as is decided by its trimmed fields: nothing when it is blank, or else the
first fault in the order of tag, number of fields, fields from left to right, or else the event whose
values the fields are. -/

namespace OrderEntry

/-! Columns -/

/-- Decimal text of a number below `2 ^ 32`, with any number of leading zeros. -/
def IsWord (f : Field) : Prop :=
  f ≠ [] ∧ (∀ c ∈ f, c.isDigit = true) ∧ Nat.ofDigitChars 10 f 0 < UInt32.size

instance (f : Field) : Decidable (IsWord f) := inferInstanceAs (Decidable (_ ∧ _))

inductive Content
  | symbol
  | word
  | level
  | side
  deriving DecidableEq, Repr

inductive Value
  | symbol (symbol : String)
  | word (word : UInt32)
  | side (side : Side)
  deriving DecidableEq, Repr

structure Column where
  name : String
  content : Content
  deriving DecidableEq, Repr

namespace Content

def Accepts : Content → Field → Prop
  | symbol, _ => True
  | word, f => IsWord f
  | level, f => f = ['-'] ∨ IsWord f
  | side, f => f = ['B'] ∨ f = ['S']

instance : (c : Content) → (f : Field) → Decidable (c.Accepts f)
  | symbol, _ => isTrue trivial
  | word, f => inferInstanceAs (Decidable (IsWord f))
  | level, f => inferInstanceAs (Decidable (f = ['-'] ∨ IsWord f))
  | side, f => inferInstanceAs (Decidable (f = ['B'] ∨ f = ['S']))

def wordOf (f : Field) : UInt32 := .ofNat (Nat.ofDigitChars 10 f 0)

def value : Content → Field → Value
  | symbol, f => .symbol (String.ofList f)
  | word, f => .word (wordOf f)
  | level, f => .word (if f = ['-'] then 0 else wordOf f)
  | side, f => .side (if f = ['B'] then .buy else .sell)

end Content

def Column.fault (kind : String) (column : Column) (f : Field) : DecodeError :=
  match column.content with
  | .side => .invalidSide kind (String.ofList f)
  | .symbol | .word | .level => .invalidNumber kind column.name (String.ofList f)

def badField? (columns : List Column) (fields : List Field) : Option (Column × Field) :=
  (columns.zip fields).find? fun (column, f) => !decide (column.content.Accepts f)

def valuesOf (columns : List Column) (fields : List Field) : List Value :=
  List.zipWith (fun column f => column.content.value f) columns fields

def wordColumns (names : List String) : List Column := names.map fun name => ⟨name, .word⟩

def SymbolFields.columns : SymbolFields → List Column
  | omitted => []
  | included => [⟨"symbol", .symbol⟩]

namespace EventKind

/-- A cancel is acknowledged under its own tag as well. -/
def ofTag? : Field → Option EventKind
  | ['A'] => some ack
  | ['T'] => some trade
  | ['B'] => some bookUpdate
  | ['X'] | ['C'] => some cancelAck
  | _ => none

def columns (symbols : SymbolFields) : EventKind → List Column
  | ack | cancelAck => symbols.columns ++ wordColumns ["user_id", "order_id"]
  | trade => symbols.columns ++ wordColumns
      ["buy_user_id", "buy_order_id", "sell_user_id", "sell_order_id", "price", "qty"]
  | bookUpdate => [⟨"symbol", .symbol⟩, ⟨"side", .side⟩, ⟨"price", .level⟩, ⟨"qty", .level⟩]

end EventKind

def symbolValues (symbol : Option String) : List Value := symbol.toList.map .symbol

namespace Event

def values : Event → List Value
  | ack a => symbolValues a.symbol ++ [.word a.userId, .word a.orderId]
  | trade t => symbolValues t.symbol ++ [.word t.buyUserId, .word t.buyOrderId, .word t.sellUserId,
      .word t.sellOrderId, .word t.price, .word t.qty]
  | bookUpdate b => [.symbol b.symbol, .side b.side, .word b.price, .word b.qty]
  | cancelAck a => symbolValues a.symbol ++ [.word a.userId, .word a.orderId]

theorem eq_of_values {e e' : Event} (hk : e.kind = e'.kind) (hv : e.values = e'.values) :
    e = e' := by
  cases e with
  | ack a =>
    cases e' with
    | ack a' =>
      obtain ⟨u, o, s⟩ := a
      obtain ⟨u', o', s'⟩ := a'
      cases s <;> cases s' <;> simp_all [values, symbolValues]
    | _ => cases hk
  | trade t =>
    cases e' with
    | trade t' =>
      obtain ⟨_, _, _, _, _, _, s⟩ := t
      obtain ⟨_, _, _, _, _, _, s'⟩ := t'
      cases s <;> cases s' <;> simp_all [values, symbolValues]
    | _ => cases hk
  | bookUpdate b =>
    cases e' with
    | bookUpdate b' =>
      obtain ⟨_, _, _, _⟩ := b
      obtain ⟨_, _, _, _⟩ := b'
      simp_all [values]
    | _ => cases hk
  | cancelAck a =>
    cases e' with
    | cancelAck a' =>
      obtain ⟨u, o, s⟩ := a
      obtain ⟨u', o', s'⟩ := a'
      cases s <;> cases s' <;> simp_all [values, symbolValues]
    | _ => cases hk

end Event

/-! Readers of columns -/

theorem readWord_eq (kind name : String) (f : Field) :
    readWord kind name f =
      if IsWord f then .ok (Content.wordOf f) else .error (Column.fault kind ⟨name, .word⟩ f) := by
  unfold readWord
  rw [Text.word?_eq]
  unfold Text.natural?
  by_cases hn : Text.isNumeral f = true
  · have hnum := hn
    simp only [Text.isNumeral, Bool.and_eq_true, Bool.not_eq_true', List.isEmpty_eq_false_iff,
      List.all_eq_true] at hnum
    rw [if_pos hn, Option.filter_some]
    by_cases hlt : Nat.ofDigitChars 10 f 0 < UInt32.size
    · have hw : IsWord f := ⟨hnum.1, hnum.2, hlt⟩
      rw [if_pos hw, if_pos (decide_eq_true hlt)]
      rfl
    · have hw : ¬IsWord f := fun h => hlt h.2.2
      rw [if_neg hw, decide_eq_false hlt]
      rfl
  · have hw : ¬IsWord f := by
      rintro ⟨hne, hdigits, _⟩
      apply hn
      simp only [Text.isNumeral, Bool.and_eq_true, Bool.not_eq_true', List.isEmpty_eq_false_iff,
        List.all_eq_true]
      exact ⟨hne, hdigits⟩
    rw [if_neg hn, if_neg hw]
    rfl

variable {α β : Type} {kind name : String} {columns : List Column} {f : Field} {fields : List Field}
  {before : List Value} {values : α → List Value} {r : Except DecodeError α}

/-- A reader gives the leftmost fault, or else a result with the values of the columns. Those of columns
further left are `before`. -/
def Reads (kind : String) (columns : List Column) (fields : List Field) (before : List Value)
    (values : α → List Value) (r : Except DecodeError α) : Prop :=
  match badField? columns fields with
  | some (column, f) => r = .error (column.fault kind f)
  | none => ∃ a, r = .ok a ∧ values a = before ++ valuesOf columns fields

namespace Reads

theorem done {a : α} (h : values a = before) : Reads kind [] [] before values (pure a) :=
  ⟨a, rfl, h.trans (List.append_nil _).symm⟩

theorem accepted (column : Column) (ha : column.content.Accepts f)
    (h : Reads kind columns fields (before ++ [column.content.value f]) values r) :
    Reads kind (column :: columns) (f :: fields) before values r := by
  unfold Reads badField? valuesOf at h ⊢
  rw [List.append_assoc] at h
  rwa [List.zip_cons_cons, List.find?_cons_of_neg (by simp [ha])]

theorem rejected (column : Column) (ha : ¬column.content.Accepts f) :
    Reads kind (column :: columns) (f :: fields) before values
      (.error (column.fault kind f) : Except DecodeError α) := by
  unfold Reads badField?
  rw [List.zip_cons_cons, List.find?_cons_of_pos (by simp [ha])]

theorem symbol (h : Reads kind columns fields (before ++ [.symbol (String.ofList f)]) values r) :
    Reads kind (⟨name, .symbol⟩ :: columns) (f :: fields) before values r :=
  accepted ⟨name, .symbol⟩ trivial h

theorem word {next : UInt32 → Except DecodeError α}
    (h : ∀ w, Reads kind columns fields (before ++ [.word w]) values (next w)) :
    Reads kind (⟨name, .word⟩ :: columns) (f :: fields) before values
      (readWord kind name f >>= next) := by
  rw [readWord_eq]
  split
  next ha => exact accepted ⟨name, .word⟩ ha (h _)
  next ha => exact rejected ⟨name, .word⟩ ha

theorem level {next : UInt32 → Except DecodeError α}
    (h : ∀ w, Reads kind columns fields (before ++ [.word w]) values (next w)) :
    Reads kind (⟨name, .level⟩ :: columns) (f :: fields) before values
      (readLevel kind name f >>= next) := by
  have hread : readLevel kind name f =
      if Content.level.Accepts f then .ok (if f = ['-'] then 0 else Content.wordOf f)
      else .error (Column.fault kind ⟨name, .level⟩ f) := by
    unfold readLevel
    rw [readWord_eq]
    by_cases hd : f = ['-']
    · have ha : Content.level.Accepts f := .inl hd
      rw [if_pos hd, if_pos hd, if_pos ha]
    · have hiff : Content.level.Accepts f ↔ IsWord f := or_iff_right hd
      simp only [hd, if_false, hiff]
      rfl
  rw [hread]
  split
  next ha => exact accepted ⟨name, .level⟩ ha (h _)
  next ha => exact rejected ⟨name, .level⟩ ha

theorem side {next : Side → Except DecodeError α}
    (h : ∀ s, Reads kind columns fields (before ++ [.side s]) values (next s)) :
    Reads kind (⟨name, .side⟩ :: columns) (f :: fields) before values
      (readSide kind f >>= next) := by
  by_cases ha : Content.side.Accepts f
  · refine accepted ⟨name, .side⟩ ha ?_
    rcases ha with rfl | rfl
    · exact h .buy
    · exact h .sell
  · have hread : readSide kind f = .error (.invalidSide kind (String.ofList f)) := by
      unfold readSide
      cases hs : Side.ofField? f with
      | none => rfl
      | some s =>
        have hf := Side.ofField?_eq_some_iff.mp hs
        cases s with
        | buy => exact absurd (.inl hf) ha
        | sell => exact absurd (.inr hf) ha
    rw [hread]
    exact rejected ⟨name, .side⟩ ha

end Reads

/-! Readers of messages -/

theorem takeSymbol_error {symbols : SymbolFields} {count : Nat}
    (h : fields.length ≠ symbols.columns.length + count) :
    takeSymbol kind count symbols fields =
      .error (.fieldCount kind (1 + symbols.columns.length + count) (1 + fields.length)) := by
  cases symbols with
  | omitted =>
    have hlen : fields.length ≠ count := by simpa [SymbolFields.columns] using h
    rw [takeSymbol, if_neg hlen]
    rfl
  | included =>
    cases fields with
    | nil => rfl
    | cons s fields =>
      have hlen : fields.length ≠ count := by simpa [SymbolFields.columns, Nat.add_comm] using h
      have hgot : 2 + fields.length = 1 + (s :: fields).length := by
        rw [List.length_cons]
        omega
      rw [takeSymbol, if_neg hlen, hgot]
      rfl

theorem length_of_takeSymbol {symbols : SymbolFields} {count : Nat} {symbol : Option String}
    {rest : List Field} (h : takeSymbol kind count symbols fields = .ok (symbol, rest)) :
    rest.length = count := by
  cases symbols with
  | omitted =>
    rw [takeSymbol] at h
    split at h
    · cases h
      assumption
    · cases h
  | included =>
    cases fields with
    | nil => cases h
    | cons s fields =>
      rw [takeSymbol] at h
      split at h
      · cases h
        assumption
      · cases h

def refValues (ref : UInt32 × UInt32 × Option String) : List Value :=
  symbolValues ref.2.2 ++ [.word ref.1, .word ref.2.1]

theorem reads_orderRef (kind : String) {symbols : SymbolFields}
    (h : fields.length = symbols.columns.length + 2) :
    Reads kind (symbols.columns ++ wordColumns ["user_id", "order_id"]) fields [] refValues
      (readOrderRef kind symbols fields) := by
  cases symbols with
  | omitted =>
    obtain ⟨user, order, rfl⟩ := List.length_eq_two.mp h
    have hread : readOrderRef kind .omitted [user, order] =
        readWord kind "user_id" user >>= fun u =>
          readWord kind "order_id" order >>= fun o => pure (u, o, none) := rfl
    rw [hread]
    exact .word fun u => .word fun o => .done rfl
  | included =>
    obtain ⟨s, user, order, rfl⟩ := List.length_eq_three.mp h
    have hread : readOrderRef kind .included [s, user, order] =
        readWord kind "user_id" user >>= fun u =>
          readWord kind "order_id" order >>= fun o => pure (u, o, some (String.ofList s)) := rfl
    rw [hread]
    exact .symbol (.word fun u => .word fun o => .done rfl)

theorem reads_trade {symbols : SymbolFields}
    (h : fields.length = (EventKind.trade.columns symbols).length) :
    Reads "trade" (EventKind.trade.columns symbols) fields [] (fun t => (Event.trade t).values)
      (readTrade symbols fields) := by
  cases symbols with
  | omitted =>
    match fields, h with
    | [buyUser, buyOrder, sellUser, sellOrder, price, qty], _ =>
      have hread : readTrade .omitted [buyUser, buyOrder, sellUser, sellOrder, price, qty] =
          readWord "trade" "buy_user_id" buyUser >>= fun bu =>
          readWord "trade" "buy_order_id" buyOrder >>= fun bo =>
          readWord "trade" "sell_user_id" sellUser >>= fun su =>
          readWord "trade" "sell_order_id" sellOrder >>= fun so =>
          readWord "trade" "price" price >>= fun p =>
          readWord "trade" "qty" qty >>= fun q => pure ⟨bu, bo, su, so, p, q, none⟩ := rfl
      rw [hread]
      exact .word fun bu => .word fun bo => .word fun su => .word fun so => .word fun p =>
        .word fun q => .done rfl
  | included =>
    match fields, h with
    | [s, buyUser, buyOrder, sellUser, sellOrder, price, qty], _ =>
      have hread : readTrade .included [s, buyUser, buyOrder, sellUser, sellOrder, price, qty] =
          readWord "trade" "buy_user_id" buyUser >>= fun bu =>
          readWord "trade" "buy_order_id" buyOrder >>= fun bo =>
          readWord "trade" "sell_user_id" sellUser >>= fun su =>
          readWord "trade" "sell_order_id" sellOrder >>= fun so =>
          readWord "trade" "price" price >>= fun p =>
          readWord "trade" "qty" qty >>= fun q =>
            pure ⟨bu, bo, su, so, p, q, some (String.ofList s)⟩ := rfl
      rw [hread]
      exact .symbol (.word fun bu => .word fun bo => .word fun su => .word fun so =>
        .word fun p => .word fun q => .done rfl)

theorem reads_bookUpdate {symbols : SymbolFields}
    (h : fields.length = (EventKind.bookUpdate.columns symbols).length) :
    Reads "book_update" (EventKind.bookUpdate.columns symbols) fields []
      (fun b => (Event.bookUpdate b).values) (readBookUpdate fields) := by
  match fields, h with
  | [s, side, price, qty], _ =>
    have hread : readBookUpdate [s, side, price, qty] =
        readSide "book_update" side >>= fun d =>
        readLevel "book_update" "price" price >>= fun p =>
        readLevel "book_update" "qty" qty >>= fun q => pure ⟨String.ofList s, d, p, q⟩ := rfl
    rw [hread]
    exact .symbol (.side fun d => .level fun p => .level fun q => .done rfl)

/-! Fields of one event -/

namespace EventKind

/-- Fields of a message, its tag included. -/
def fieldCount (symbols : SymbolFields) : EventKind → Nat
  | ack | cancelAck => 3 + symbols.columns.length
  | trade => 7 + symbols.columns.length
  | bookUpdate => 5

theorem length_columns (symbols : SymbolFields) (kind : EventKind) :
    1 + (kind.columns symbols).length = kind.fieldCount symbols := by
  cases symbols <;> cases kind <;> rfl

end EventKind

/-- What the fields of a line decide, the first of its rules that applies. -/
inductive Verdict (symbols : SymbolFields) :
    List Field → Except DecodeError (Option Event) → Prop
  | blank : Verdict symbols [[]] (.ok none)
  | unknownType {tag : Field} {fields : List Field} (hne : tag :: fields ≠ [[]])
      (ht : EventKind.ofTag? tag = none) :
      Verdict symbols (tag :: fields) (.error (.unknownType (String.ofList tag)))
  | fieldCount {tag : Field} {fields : List Field} {kind : EventKind}
      (ht : EventKind.ofTag? tag = some kind)
      (hlen : (tag :: fields).length ≠ kind.fieldCount symbols) :
      Verdict symbols (tag :: fields)
        (.error (.fieldCount kind.name (kind.fieldCount symbols) (tag :: fields).length))
  | badField {tag : Field} {fields : List Field} {kind : EventKind} {column : Column} {f : Field}
      (ht : EventKind.ofTag? tag = some kind)
      (hlen : (tag :: fields).length = kind.fieldCount symbols)
      (hbad : badField? (kind.columns symbols) fields = some (column, f)) :
      Verdict symbols (tag :: fields) (.error (column.fault kind.name f))
  | event {tag : Field} {fields : List Field} {e : Event}
      (ht : EventKind.ofTag? tag = some e.kind)
      (hlen : (tag :: fields).length = e.kind.fieldCount symbols)
      (hgood : badField? (e.kind.columns symbols) fields = none)
      (hvalues : e.values = valuesOf (e.kind.columns symbols) fields) :
      Verdict symbols (tag :: fields) (.ok (some e))

namespace Verdict

variable {symbols : SymbolFields} {tag : Field} {kind : EventKind}

theorem of_reads (read : List Field → Except DecodeError α) (event : α → Event)
    (ht : EventKind.ofTag? tag = some kind) (hkind : ∀ a, (event a).kind = kind)
    (herror : fields.length ≠ (kind.columns symbols).length →
      read fields = .error (.fieldCount kind.name (kind.fieldCount symbols) (1 + fields.length)))
    (hreads : fields.length = (kind.columns symbols).length →
      Reads kind.name (kind.columns symbols) fields [] (fun a => (event a).values) (read fields)) :
    Verdict symbols (tag :: fields) (some <$> event <$> read fields) := by
  have hcount := kind.length_columns symbols
  by_cases hlen : fields.length = (kind.columns symbols).length
  · have hlen' : (tag :: fields).length = kind.fieldCount symbols := by
      rw [List.length_cons]
      omega
    have hr := hreads hlen
    unfold Reads at hr
    split at hr
    next column f hbad =>
      rw [hr]
      exact .badField ht hlen' hbad
    next hgood =>
      obtain ⟨a, ha, hvalues⟩ := hr
      rw [ha]
      have hk := hkind a
      subst hk
      exact .event ht hlen' hgood hvalues
  · have hlen' : (tag :: fields).length ≠ kind.fieldCount symbols := by
      rw [List.length_cons]
      omega
    rw [herror hlen, Nat.add_comm]
    exact .fieldCount ht hlen'

theorem orderRef (ht : EventKind.ofTag? tag = some kind)
    (hcolumns : kind.columns symbols = symbols.columns ++ wordColumns ["user_id", "order_id"])
    (event : UInt32 × UInt32 × Option String → Event) (hkind : ∀ ref, (event ref).kind = kind)
    (hvalues : ∀ ref, (event ref).values = refValues ref) :
    Verdict symbols (tag :: fields)
      (some <$> event <$> readOrderRef kind.name symbols fields) := by
  have hlength : (kind.columns symbols).length = symbols.columns.length + 2 := by
    rw [hcolumns, List.length_append]
    rfl
  apply of_reads (readOrderRef kind.name symbols) event ht hkind
  · intro hlen
    have hcount : kind.fieldCount symbols = 1 + symbols.columns.length + 2 := by
      rw [← kind.length_columns symbols, hlength, Nat.add_assoc]
    rw [hlength] at hlen
    unfold readOrderRef
    rw [takeSymbol_error hlen, hcount]
    rfl
  · intro hlen
    rw [hlength] at hlen
    simp only [hcolumns, hvalues]
    exact reads_orderRef kind.name hlen

theorem ofFields (hne : tag :: fields ≠ [[]]) :
    Verdict symbols (tag :: fields) (some <$> Event.ofFields symbols (tag :: fields)) := by
  cases ht : EventKind.ofTag? tag with
  | none =>
    have hread : Event.ofFields symbols (tag :: fields) =
        .error (.unknownType (String.ofList tag)) := by
      have hother : tag ≠ ['A'] ∧ tag ≠ ['T'] ∧ tag ≠ ['B'] ∧ tag ≠ ['X'] ∧ tag ≠ ['C'] := by
        refine ⟨?_, ?_, ?_, ?_, ?_⟩ <;> (rintro rfl; cases ht)
      simp [Event.ofFields, hother]
    rw [hread]
    exact .unknownType hne ht
  | some kind =>
    have hknown := ht
    unfold EventKind.ofTag? at ht
    split at ht
    · cases ht
      exact orderRef hknown rfl (fun ref => .ack ⟨ref.1, ref.2.1, ref.2.2⟩) (fun _ => rfl)
        (fun _ => rfl)
    · cases ht
      refine of_reads _ .trade hknown (fun _ => rfl) (fun hlen => ?_) reads_trade
      have hlen' : fields.length ≠ symbols.columns.length + 6 := by
        rwa [EventKind.columns, List.length_append] at hlen
      unfold readTrade
      rw [takeSymbol_error hlen']
      cases symbols <;> rfl
    · cases ht
      refine of_reads _ .bookUpdate hknown (fun _ => rfl) (fun hlen => ?_) reads_bookUpdate
      unfold readBookUpdate
      split
      · exact absurd rfl hlen
      · rfl
    · cases ht
      exact orderRef hknown rfl (fun ref => .cancelAck ⟨ref.1, ref.2.1, ref.2.2⟩) (fun _ => rfl)
        (fun _ => rfl)
    · cases ht
      exact orderRef hknown rfl (fun ref => .cancelAck ⟨ref.1, ref.2.1, ref.2.2⟩) (fun _ => rfl)
        (fun _ => rfl)
    · cases ht

theorem ofPayload (line : String) :
    Verdict symbols (splitFields (Text.trim line.toList)) (Event.ofPayload symbols line) := by
  unfold Event.ofPayload readLine
  dsimp only
  split
  next he =>
    rw [List.isEmpty_iff.mp he]
    exact .blank
  next he =>
    have hne : splitFields (Text.trim line.toList) ≠ [[]] := by
      rw [Ne, splitFields_eq_nil_iff, Text.trim_trim, ← List.isEmpty_iff]
      exact he
    obtain ⟨tag, fields, hs⟩ :=
      List.exists_cons_of_ne_nil (splitFields_ne_nil (Text.trim line.toList))
    rw [hs] at hne ⊢
    exact ofFields hne

theorem unique {fields : List Field} {r r' : Except DecodeError (Option Event)}
    (h : Verdict symbols fields r) (h' : Verdict symbols fields r') : r = r' := by
  cases h with
  | blank =>
    cases h' with
    | blank => rfl
    | unknownType hne => exact absurd rfl hne
    | fieldCount ht => cases ht
    | badField ht => cases ht
    | event ht => cases ht
  | unknownType hne ht =>
    cases h' with
    | blank => exact absurd rfl hne
    | unknownType => rfl
    | fieldCount ht' => cases ht.symm.trans ht'
    | badField ht' => cases ht.symm.trans ht'
    | event ht' => cases ht.symm.trans ht'
  | fieldCount ht hlen =>
    cases h' with
    | blank => cases ht
    | unknownType _ ht' => cases ht.symm.trans ht'
    | fieldCount ht' =>
      cases ht.symm.trans ht'
      rfl
    | badField ht' hlen' =>
      cases ht.symm.trans ht'
      exact absurd hlen' hlen
    | event ht' hlen' =>
      cases ht.symm.trans ht'
      exact absurd hlen' hlen
  | badField ht hlen hbad =>
    cases h' with
    | blank => cases ht
    | unknownType _ ht' => cases ht.symm.trans ht'
    | fieldCount ht' hlen' =>
      cases ht.symm.trans ht'
      exact absurd hlen hlen'
    | badField ht' hlen' hbad' =>
      cases ht.symm.trans ht'
      cases hbad.symm.trans hbad'
      rfl
    | event ht' hlen' hgood =>
      cases ht.symm.trans ht'
      cases hbad.symm.trans hgood
  | event ht hlen hgood hvalues =>
    cases h' with
    | blank => cases ht
    | unknownType _ ht' => cases ht.symm.trans ht'
    | fieldCount ht' hlen' =>
      cases ht.symm.trans ht'
      exact absurd hlen hlen'
    | badField ht' hlen' hbad =>
      cases ht.symm.trans ht'
      cases hbad.symm.trans hgood
    | event ht' hlen' hgood' hvalues' =>
      have hkind := Option.some.inj (ht.symm.trans ht')
      rw [hkind] at hvalues
      rw [Event.eq_of_values hkind (hvalues.trans hvalues'.symm)]

end Verdict

namespace Event

/-- A line is decided by its trimmed fields alone. Padding has no meaning, and no field that a rule names
is ever missing. -/
theorem decoded_iff_verdict :
    (∀ (symbols : SymbolFields) (line : String) (r : Except DecodeError (Option Event)),
      ofPayload symbols line = r ↔ Verdict symbols (splitFields (Text.trim line.toList)) r) ∧
    (∀ (symbols : SymbolFields) (line : String),
      ofPayload symbols line = .ok none ↔ Text.trim line.toList = []) ∧
    (∀ (symbols : SymbolFields) (line line' : String),
      splitFields (Text.trim line.toList) = splitFields (Text.trim line'.toList) →
        ofPayload symbols line = ofPayload symbols line') ∧
    (∀ (symbols : SymbolFields) (line line' : String),
      Text.trim line.toList = Text.trim line'.toList →
        ofPayload symbols line = ofPayload symbols line') ∧
    (∀ (symbols : SymbolFields) (fields fields' : List Field),
      fields.map Text.trim = fields'.map Text.trim →
        ofPayload symbols (String.ofList (joinFields fields)) =
          ofPayload symbols (String.ofList (joinFields fields'))) ∧
    (∀ line : List Char, splitFields line ≠ []) ∧
    ∀ (symbols : SymbolFields) (kind : String) (count : Nat) (fields rest : List Field)
      (symbol : Option String),
      takeSymbol kind count symbols fields = .ok (symbol, rest) → rest.length = count := by
  have hiff : ∀ (symbols : SymbolFields) (line : String) (r : Except DecodeError (Option Event)),
      ofPayload symbols line = r ↔ Verdict symbols (splitFields (Text.trim line.toList)) r := by
    intro symbols line r
    constructor
    · rintro rfl
      exact .ofPayload line
    · exact (Verdict.ofPayload line).unique
  have hfields : ∀ (symbols : SymbolFields) (line line' : String),
      splitFields (Text.trim line.toList) = splitFields (Text.trim line'.toList) →
        ofPayload symbols line = ofPayload symbols line' := by
    intro symbols line line' h
    rw [hiff, h]
    exact .ofPayload line'
  refine ⟨hiff, ?_, hfields, ?_, ?_, splitFields_ne_nil, ?_⟩
  · intro symbols line
    rw [hiff, ← Text.trim_trim, ← splitFields_eq_nil_iff, Text.trim_trim]
    constructor
    · intro h
      generalize splitFields (Text.trim line.toList) = fields at h
      cases h
      rfl
    · intro h
      rw [h]
      exact .blank
  · intro symbols line line' h
    exact hfields symbols line line' (congrArg splitFields h)
  · intro symbols fields fields' h
    apply hfields
    rw [String.toList_ofList, String.toList_ofList, splitFields_trim, splitFields_trim]
    exact splitFields_joinFields_congr h
  · intro symbols kind count fields rest symbol h
    exact length_of_takeSymbol h

example : ofPayload .omitted " T,1 ,+2,x,4,5,6" =
    .error (.invalidNumber "trade" "buy_order_id" "+2") := by decide

end Event

end OrderEntry

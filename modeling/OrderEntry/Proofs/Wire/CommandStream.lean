import OrderEntry.Proofs.Text.Utf8
import OrderEntry.Proofs.Wire.Framing
import OrderEntry.Proofs.Wire.Payload.Commands

/-! Streams of checked commands. A checked command is one line of at most 64 visible characters, so it
is always framed, and a stream of such commands can be read in one way only. -/

namespace OrderEntry

namespace Command

variable {symbols : SymbolFields} {c : Command}

/-! What the checks say about a payload -/

theorem visible_fields (h : c.check symbols = .ok ()) : ∀ f ∈ c.fields symbols, Visible f := by
  have hword := visible_wordField
  cases c with
  | newOrder o =>
    have hsymbol := visible_of_checkSymbol (checkSymbol_of_check h)
    have hletter := visible_letter o.side
    have htag : Visible ['N'] := by decide
    simp [fields, hsymbol, hletter, htag, hword]
  | cancel c =>
    have htag : Visible ['C'] := by decide
    have hcolumn : ∀ f ∈ symbolColumn symbols c.symbol, Visible f := by
      obtain ⟨user, order, symbol⟩ := c
      cases symbols with
      | omitted => simp [symbolColumn]
      | included =>
        cases symbol with
        | none => cases h
        | some s =>
          have hsymbol := visible_of_checkSymbol h
          simp [symbolColumn, hsymbol]
    intro f hf
    simp only [fields, List.cons_append, List.mem_cons, List.mem_append, List.not_mem_nil,
      or_false] at hf
    rcases hf with rfl | hf | rfl | rfl
    · exact htag
    · exact hcolumn f hf
    · exact hword c.userId
    · exact hword c.orderId
  | flush =>
    have htag : Visible ['F'] := by decide
    simp [fields, htag]

theorem visible_or_comma (h : c.check symbols = .ok ()) {char : Char}
    (hc : char ∈ joinFields (c.fields symbols)) : isSymbolChar char = true ∨ char = ',' := by
  rcases mem_joinFields hc with hcomma | ⟨f, hf, hc⟩
  · exact Or.inr hcomma
  · exact Or.inl ((visible_fields h f hf).2 char hc)

theorem length_symbol_le {s : String} (h : checkSymbol s = .ok ()) :
    s.toList.length ≤ maxSymbolBytes := by
  obtain ⟨_, hsize, hall⟩ := checkSymbol_eq_ok_iff.mp h
  have hascii : ∀ c ∈ s.toList, c.toNat < 128 := by
    intro c hc
    have hrange := isSymbolChar_iff.mp (hall c hc)
    omega
  have hbytes := utf8_ofList_of_ascii hascii
  rw [String.ofList_toList] at hbytes
  have hlen : (utf8 s).length = s.toList.length := by rw [hbytes, List.length_map]
  rw [← hlen]
  exact hsize

theorem payload_bytes (h : c.check symbols = .ok ()) :
    utf8 (c.payload symbols) = (joinFields (c.fields symbols)).map Char.toUInt8 := by
  apply utf8_ofList_of_ascii
  intro char hchar
  rcases visible_or_comma h hchar with hv | rfl
  · have hrange := isSymbolChar_iff.mp hv
    omega
  · decide

theorem newline_not_mem_payload (h : c.check symbols = .ok ()) :
    newline ∉ utf8 (c.payload symbols) := by
  rw [payload_bytes h]
  intro hmem
  obtain ⟨char, hchar, heq⟩ := List.mem_map.mp hmem
  rcases visible_or_comma h hchar with hv | rfl
  · have hrange := isSymbolChar_iff.mp hv
    have hbyte : char.toNat % 256 = 10 := congrArg UInt8.toNat heq
    omega
  · exact absurd heq (by decide)

theorem length_payload (h : c.check symbols = .ok ()) :
    1 ≤ (utf8 (c.payload symbols)).length ∧ (utf8 (c.payload symbols)).length ≤ 64 := by
  rw [payload_bytes h, List.length_map]
  have hword := length_wordField_le
  cases c with
  | newOrder o =>
    have hsymbol := length_symbol_le (checkSymbol_of_check h)
    have huser := hword o.userId
    have hprice := hword o.price
    have hqty := hword o.qty
    have horder := hword o.orderId
    -- six commas, two letters, four words of ten digits and the symbol make 64
    simp only [fields, length_joinFields_cons_cons, length_joinFields_singleton,
      List.length_singleton, maxSymbolBytes] at hsymbol ⊢
    omega
  | cancel c =>
    obtain ⟨user, order, symbol⟩ := c
    have huser := hword user
    have horder := hword order
    cases symbols with
    | omitted =>
      simp only [fields, symbolColumn, List.cons_append, List.nil_append,
        length_joinFields_cons_cons, length_joinFields_singleton, List.length_singleton]
      omega
    | included =>
      cases symbol with
      | none => cases h
      | some s =>
        have hsymbol := length_symbol_le h
        simp only [fields, symbolColumn, Option.getD_some, List.cons_append, List.nil_append,
          length_joinFields_cons_cons, length_joinFields_singleton, List.length_singleton,
          maxSymbolBytes] at hsymbol ⊢
        omega
  | flush => simp [fields, length_joinFields_singleton]

/-! Streams -/

theorem encode_eq_wrap (format : WireFormat) (h : c.check format.symbols = .ok ()) :
    c.frame format = .ok (format.framing.wrap (utf8 (c.payload format.symbols))) ∧
      c.encode format = format.framing.wrap (utf8 (c.payload format.symbols)) := by
  have hlen := (length_payload h).2
  have hframe : c.frame format = .ok (format.framing.wrap (utf8 (c.payload format.symbols))) :=
    frame_eq_wrap format.framing (Nat.le_trans hlen (by decide))
  refine ⟨hframe, ?_⟩
  unfold encode
  rw [hframe]

def ofBytes (symbols : SymbolFields) (bytes : Bytes) : Except DecodeError (Option Command) :=
  match ofUtf8? bytes with
  | some line => ofPayload symbols line
  | none => .error .utf8

theorem ofBytes_payload (h : c.check symbols = .ok ()) :
    ofBytes symbols (utf8 (c.payload symbols)) = .ok (some (c.sent symbols)) := by
  unfold ofBytes
  rw [ofUtf8?_utf8, ← payload_sent]
  exact ofPayload_payload (expressible_sent h)

def ofStream? (format : WireFormat) (bytes : Bytes) :
    Option (List (Except DecodeError (Option Command))) :=
  (payloadsOf? format.framing bytes).map (·.map (ofBytes format.symbols))

variable {cs cs' : List Command}

theorem payloadsOf?_encode (format : WireFormat) (h : ∀ c ∈ cs, c.check format.symbols = .ok ()) :
    payloadsOf? format.framing (cs.flatMap (·.encode format)) =
      some (cs.map fun c => utf8 (c.payload format.symbols)) := by
  have hwrap : cs.flatMap (·.encode format) =
      (cs.map fun c => utf8 (c.payload format.symbols)).flatMap format.framing.wrap := by
    rw [List.flatMap_map]
    apply List.flatMap_congr
    intro c hc
    exact (encode_eq_wrap format (h c hc)).2
  rw [hwrap]
  apply payloadsOf?_flatMap_wrap
  · intro p hp
    obtain ⟨c, hc, rfl⟩ := List.mem_map.mp hp
    exact newline_not_mem_payload (h c hc)
  · intro p hp
    obtain ⟨c, hc, rfl⟩ := List.mem_map.mp hp
    have hlen := (length_payload (h c hc)).2
    exact Nat.le_trans hlen (by decide)

theorem ofStream?_encode (format : WireFormat) (h : ∀ c ∈ cs, c.check format.symbols = .ok ()) :
    ofStream? format (cs.flatMap (·.encode format)) =
      some (cs.map fun c => .ok (some (c.sent format.symbols))) := by
  unfold ofStream?
  rw [payloadsOf?_encode format h, Option.map_some, List.map_map]
  congr 1
  apply List.map_congr_left
  intro c hc
  exact ofBytes_payload (h c hc)

theorem sent_eq_of_stream_eq (format : WireFormat) (h : ∀ c ∈ cs, c.check format.symbols = .ok ())
    (h' : ∀ c ∈ cs', c.check format.symbols = .ok ())
    (heq : cs.flatMap (·.encode format) = cs'.flatMap (·.encode format)) :
    cs.map (·.sent format.symbols) = cs'.map (·.sent format.symbols) := by
  have hread := ofStream?_encode format h
  rw [heq, ofStream?_encode format h', Option.some.injEq] at hread
  have hinj : Function.Injective fun c : Command =>
      (.ok (some c) : Except DecodeError (Option Command)) := by
    intro c d hcd
    exact Option.some.inj (Except.ok.inj hcd)
  apply (List.map_injective_iff.mpr hinj)
  rw [List.map_map, List.map_map]
  exact hread.symm

/-- Every checked command is framed, and their stream is cut into one payload a command, each of which is
read as the command that was sent. -/
theorem stream_uniquely_decodable (format : WireFormat) (cs : List Command)
    (h : ∀ c ∈ cs, c.check format.symbols = .ok ()) :
    (∀ c ∈ cs, 1 ≤ (utf8 (c.payload format.symbols)).length ∧
      (utf8 (c.payload format.symbols)).length ≤ 64 ∧
      c.frame format = .ok (c.encode format) ∧ c.encode format ≠ []) ∧
    payloadsOf? format.framing (cs.flatMap (·.encode format)) =
      some (cs.map fun c => utf8 (c.payload format.symbols)) ∧
    ofStream? format (cs.flatMap (·.encode format)) =
      some (cs.map fun c => .ok (some (c.sent format.symbols))) ∧
    ∀ cs' : List Command, (∀ c ∈ cs', c.check format.symbols = .ok ()) →
      cs.flatMap (·.encode format) = cs'.flatMap (·.encode format) →
        cs.map (·.sent format.symbols) = cs'.map (·.sent format.symbols) := by
  refine ⟨?_, payloadsOf?_encode format h, ofStream?_encode format h, ?_⟩
  · intro c hc
    obtain ⟨hlow, hhigh⟩ := length_payload (h c hc)
    obtain ⟨hframe, hencode⟩ := encode_eq_wrap format (h c hc)
    rw [hencode]
    exact ⟨hlow, hhigh, hframe, wrap_ne_nil _ _⟩
  · intro cs' h' heq
    exact sent_eq_of_stream_eq format h h' heq

theorem cancel_among_orders_decodable :
    (∀ c ∈ [newOrder ⟨4294967295, "ABCDEFGHIJKLMNOP", 4294967295, 4294967295, .sell, 4294967295⟩,
        cancel ⟨7, 42, some "IBM"⟩, flush], c.check .omitted = .ok ()) ∧
      ofStream? ⟨.framed, .omitted⟩
          ([newOrder ⟨4294967295, "ABCDEFGHIJKLMNOP", 4294967295, 4294967295, .sell, 4294967295⟩,
            cancel ⟨7, 42, some "IBM"⟩, flush].flatMap (·.encode ⟨.framed, .omitted⟩)) =
        some [.ok (some (newOrder
            ⟨4294967295, "ABCDEFGHIJKLMNOP", 4294967295, 4294967295, .sell, 4294967295⟩)),
          .ok (some (cancel ⟨7, 42, none⟩)), .ok (some flush)] := by
  have hc : ∀ c ∈
      [newOrder ⟨4294967295, "ABCDEFGHIJKLMNOP", 4294967295, 4294967295, .sell, 4294967295⟩,
        cancel ⟨7, 42, some "IBM"⟩, flush], c.check .omitted = .ok () := by decide
  exact ⟨hc, (stream_uniquely_decodable ⟨.framed, .omitted⟩ _ hc).2.2.1⟩

end Command
end OrderEntry

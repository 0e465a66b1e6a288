import OrderEntry.Proofs.Text.Trim
import OrderEntry.Validation
import OrderEntry.Wire.Payload.Parser

/-! Fields of a payload. A text comes through a field unchanged exactly when it fits: it has no comma and
is its own trim. Joined and split again, fitting fields are the same fields, and whatever is split off
a line fits. -/

namespace OrderEntry

/-- No comma would split it and no end of it would be trimmed. -/
def FitsField (f : Field) : Prop := ',' ∉ f ∧ Text.trim f = f

instance (f : Field) : Decidable (FitsField f) := inferInstanceAs (Decidable (_ ∧ _))

def Visible (f : Field) : Prop := f ≠ [] ∧ ∀ c ∈ f, isSymbolChar c = true

instance (f : Field) : Decidable (Visible f) :=
  decidable_of_iff (f ≠ [] ∧ f.all isSymbolChar = true) (by simp [Visible])

/-! Results -/

variable {α β : Type}

theorem bind_eq_ok {x : Except DecodeError α} {f : α → Except DecodeError β} {b : β} :
    x >>= f = .ok b ↔ ∃ a, x = .ok a ∧ f a = .ok b := by
  cases x <;> simp [bind, Except.bind]

theorem map_eq_ok {x : Except DecodeError α} {f : α → β} {b : β} :
    f <$> x = .ok b ↔ ∃ a, x = .ok a ∧ f a = b := by
  cases x <;> simp [Functor.map, Except.map]

/-! Visible characters -/

theorem isSymbolChar_iff {c : Char} :
    isSymbolChar c = true ↔ (0x21 ≤ c.toNat ∧ c.toNat ≤ 0x7e) ∧ c ≠ ',' := by
  simp [isSymbolChar]

theorem not_blank_of_isSymbolChar {c : Char} (h : isSymbolChar c = true) :
    Text.isBlank c = false := by
  obtain ⟨⟨hlow, hhigh⟩, _⟩ := isSymbolChar_iff.mp h
  simp only [Text.isBlank, Bool.or_eq_false_iff, Bool.and_eq_false_iff, decide_eq_false_iff_not,
    beq_eq_false_iff_ne]
  omega

theorem isSymbolChar_of_isDigit {c : Char} (h : c.isDigit = true) : isSymbolChar c = true := by
  simp only [Char.isDigit, Bool.and_eq_true, decide_eq_true_eq, UInt32.le_iff_toNat_le, ge_iff_le] at h
  have hrange : 48 ≤ c.toNat ∧ c.toNat ≤ 57 := h
  have hcomma : c ≠ ',' := by
    rintro rfl
    exact absurd hrange.1 (by decide)
  rw [isSymbolChar_iff]
  exact ⟨by omega, hcomma⟩

theorem Visible.fits {f : Field} (h : Visible f) : FitsField f := by
  constructor
  · intro hc
    exact (isSymbolChar_iff.mp (h.2 _ hc)).2 rfl
  · exact Text.trim_eq_self_of_forall fun c hc => not_blank_of_isSymbolChar (h.2 c hc)

theorem visible_wordField (w : UInt32) : Visible (wordField w) := by
  have hn := Text.isNumeral_digits w.toNat
  simp only [Text.isNumeral, Bool.and_eq_true, Bool.not_eq_true', List.isEmpty_eq_false_iff,
    List.all_eq_true] at hn
  exact ⟨hn.1, fun c hc => isSymbolChar_of_isDigit (hn.2 c hc)⟩

theorem visible_levelField (w : UInt32) : Visible (levelField w) := by
  unfold levelField
  split
  · decide
  · exact visible_wordField w

theorem visible_letter (s : Side) : Visible [s.letter] := by
  cases s <;> decide

theorem length_wordField_le (w : UInt32) : (wordField w).length ≤ 10 := by
  unfold wordField Text.digits
  rw [Nat.length_toDigits_le_iff (by decide) (by decide)]
  have := w.toNat_lt_size
  exact Nat.lt_trans this (by decide)

/-! Reading what was written -/

theorem readWord_wordField (kind name : String) (w : UInt32) :
    readWord kind name (wordField w) = .ok w := by
  unfold readWord wordField
  rw [Text.word?_digits]

theorem readLevel_levelField (kind name : String) (w : UInt32) :
    readLevel kind name (levelField w) = .ok w := by
  unfold readLevel levelField
  by_cases hw : w = 0
  · rw [if_pos hw, if_pos rfl, hw]
  · have hdash : wordField w ≠ ['-'] := by
      intro hd
      have hn := Text.isNumeral_digits w.toNat
      change Text.isNumeral (wordField w) = true at hn
      rw [hd] at hn
      exact absurd hn (by decide)
    rw [if_neg hw, if_neg hdash]
    exact readWord_wordField kind name w

theorem readSide_letter (kind : String) (s : Side) : readSide kind [s.letter] = .ok s := by
  unfold readSide
  rw [Side.ofField?_eq_some_iff.mpr rfl]

/-! Lines of fields -/

theorem splitFields_joinFields {fields : List Field} (hne : fields ≠ [])
    (h : ∀ f ∈ fields, FitsField f) : splitFields (joinFields fields) = fields := by
  unfold splitFields joinFields
  rw [List.splitOn_intercalate ',' (fun f hf => (h f hf).1) hne]
  have htrim : ∀ f ∈ fields, Text.trim f = id f := fun f hf => (h f hf).2
  rw [List.map_congr_left htrim, List.map_id]

theorem not_mem_of_mem_splitOn [BEq α] [LawfulBEq α] {a : α} {l piece : List α}
    (h : piece ∈ l.splitOn a) : a ∉ piece := by
  induction l generalizing piece with
  | nil =>
    rw [List.splitOn_nil, List.mem_singleton] at h
    rw [h]
    exact List.not_mem_nil
  | cons x l ih =>
    rw [List.splitOn_cons_eq_if_modifyHead] at h
    split at h
    next hx =>
      rcases List.mem_cons.mp h with rfl | h
      · exact List.not_mem_nil
      · exact ih h
    next hx =>
      obtain ⟨first, rest, hs⟩ := List.exists_cons_of_ne_nil (List.splitOn_ne_nil a l)
      rw [hs, List.modifyHead_cons] at h
      rcases List.mem_cons.mp h with rfl | h
      · have hfirst : a ∉ first := ih (by rw [hs]; exact List.mem_cons_self)
        intro hm
        rcases List.mem_cons.mp hm with rfl | hm
        · exact hx BEq.rfl
        · exact hfirst hm
      · exact ih (by rw [hs]; exact List.mem_cons_of_mem _ h)

theorem fits_of_mem_splitFields {line : List Char} {f : Field} (h : f ∈ splitFields line) :
    FitsField f := by
  obtain ⟨piece, hp, rfl⟩ := List.mem_map.mp h
  constructor
  · intro hc
    exact not_mem_of_mem_splitOn hp (Text.trim_subset piece hc)
  · exact Text.trim_trim piece

theorem head?_joinFields {f : Field} {fields : List Field} (h : fields.head? = some f)
    (hf : f ≠ []) : (joinFields fields).head? = f.head? := by
  obtain ⟨rest, rfl⟩ := List.head?_eq_some_iff.mp h
  unfold joinFields
  cases rest with
  | nil => rw [List.intercalate_singleton]
  | cons g rest =>
    rw [List.intercalate_cons_cons, List.append_assoc, List.head?_append_of_ne_nil _ hf]

theorem getLast?_joinFields {f : Field} {fields : List Field} (h : fields.getLast? = some f)
    (hf : f ≠ []) : (joinFields fields).getLast? = f.getLast? := by
  unfold joinFields
  induction fields with
  | nil => cases h
  | cons g fields ih =>
    cases fields with
    | nil =>
      rw [List.getLast?_singleton, Option.some.injEq] at h
      rw [List.intercalate_singleton, h]
    | cons g' fields =>
      have hrest := ih (by rwa [List.getLast?_cons_cons] at h)
      rw [List.intercalate_cons_cons, List.getLast?_append, hrest]
      rw [List.getLast?_eq_some_getLast hf, Option.some_or]

theorem mem_joinFields {fields : List Field} {c : Char} (h : c ∈ joinFields fields) :
    c = ',' ∨ ∃ f ∈ fields, c ∈ f := by
  unfold joinFields at h
  induction fields with
  | nil => simp at h
  | cons f fields ih =>
    cases fields with
    | nil =>
      rw [List.intercalate_singleton] at h
      exact Or.inr ⟨f, List.mem_cons_self, h⟩
    | cons g fields =>
      rw [List.intercalate_cons_cons, List.mem_append, List.mem_append, List.mem_singleton] at h
      rcases h with (hf | hc) | hrest
      · exact Or.inr ⟨f, List.mem_cons_self, hf⟩
      · exact Or.inl hc
      · rcases ih hrest with hc | ⟨f', hf', hc⟩
        · exact Or.inl hc
        · exact Or.inr ⟨f', List.mem_cons_of_mem _ hf', hc⟩

theorem length_joinFields_singleton (f : Field) : (joinFields [f]).length = f.length := by
  unfold joinFields
  rw [List.intercalate_singleton]

theorem length_joinFields_cons_cons (f g : Field) (fields : List Field) :
    (joinFields (f :: g :: fields)).length =
      f.length + 1 + (joinFields (g :: fields)).length := by
  unfold joinFields
  rw [List.intercalate_cons_cons, List.length_append, List.length_append, List.length_singleton]

theorem readLine_joinFields (ofFields : List Field → Except DecodeError α)
    {fields : List Field} (h : ∀ f ∈ fields, FitsField f)
    {first last : Field} (hfirst : fields.head? = some first) (hlast : fields.getLast? = some last)
    (hf : first ≠ []) (hl : last ≠ []) :
    readLine ofFields (String.ofList (joinFields fields)) = some <$> ofFields fields := by
  have hne : fields ≠ [] := List.ne_nil_of_mem (List.mem_of_head? hfirst)
  have hhead := head?_joinFields hfirst hf
  have htrim : Text.trim (joinFields fields) = joinFields fields := by
    have hfit := (h first (List.mem_of_head? hfirst)).2
    have hfit' := (h last (List.mem_of_getLast? hlast)).2
    rw [Text.trim_eq_self_iff] at hfit hfit' ⊢
    rw [hhead, getLast?_joinFields hlast hl]
    exact ⟨hfit.1, hfit'.2⟩
  have hsome : (joinFields fields).isEmpty = false := by
    rw [List.isEmpty_eq_false_iff]
    intro he
    rw [he] at hhead
    exact hf (List.head?_eq_none_iff.mp hhead.symm)
  unfold readLine
  dsimp only
  rw [String.toList_ofList, htrim, hsome, splitFields_joinFields hne h]
  rfl

theorem fields_of_readLine {ofFields : List Field → Except DecodeError α} {line : String}
    {a : α} (h : readLine ofFields line = .ok (some a)) :
    ∃ fields, (∀ f ∈ fields, FitsField f) ∧ ofFields fields = .ok a := by
  unfold readLine at h
  dsimp only at h
  split at h
  · cases h
  · refine ⟨splitFields (Text.trim line.toList), fun f => fits_of_mem_splitFields, ?_⟩
    obtain ⟨b, hb, hab⟩ := map_eq_ok.mp h
    cases hab
    exact hb

/-! Padding -/

theorem not_blank_comma : Text.isBlank ',' = false := by decide

theorem splitFields_comma (line rest : List Char) :
    splitFields (line ++ ',' :: rest) = splitFields line ++ splitFields rest := by
  have hsplit : (line ++ ',' :: rest).splitOn ',' = line.splitOn ',' ++ rest.splitOn ',' := by
    induction line with
    | nil =>
      rw [List.nil_append, List.splitOn_cons_eq_if_modifyHead, List.splitOn_nil]
      rfl
    | cons c line ih =>
      rw [List.cons_append, List.splitOn_cons_eq_if_modifyHead, List.splitOn_cons_eq_if_modifyHead, ih]
      obtain ⟨first, others, hs⟩ := List.exists_cons_of_ne_nil (List.splitOn_ne_nil ',' line)
      rw [hs]
      split <;> rfl
  unfold splitFields
  rw [hsplit, List.map_append]

theorem splitFields_cons_of_blank {c : Char} (h : Text.isBlank c = true) (line : List Char) :
    splitFields (c :: line) = splitFields line := by
  have hc : (c == ',') = false := by
    refine beq_false_of_ne ?_
    rintro rfl
    cases not_blank_comma.symm.trans h
  obtain ⟨first, others, hs⟩ := List.exists_cons_of_ne_nil (List.splitOn_ne_nil ',' line)
  unfold splitFields
  rw [List.splitOn_cons_eq_if_modifyHead, hc, hs]
  simp only [Bool.false_eq_true, if_false, List.modifyHead_cons, List.map_cons,
    Text.trim_cons_of_blank h]

theorem splitOn_concat {c : Char} (h : c ≠ ',') (line : List Char) :
    ∃ before last, line.splitOn ',' = before ++ [last] ∧
      (line ++ [c]).splitOn ',' = before ++ [last ++ [c]] := by
  induction line with
  | nil =>
    refine ⟨[], [], List.splitOn_nil .., List.splitOn_eq_singleton ?_⟩
    rw [List.nil_append, List.mem_singleton]
    exact h.symm
  | cons d line ih =>
    obtain ⟨before, last, hline, hconcat⟩ := ih
    rw [List.cons_append, List.splitOn_cons_eq_if_modifyHead, List.splitOn_cons_eq_if_modifyHead,
      hline, hconcat]
    split
    · exact ⟨[] :: before, last, rfl, rfl⟩
    · cases before with
      | nil => exact ⟨[], d :: last, rfl, rfl⟩
      | cons first before => exact ⟨(d :: first) :: before, last, rfl, rfl⟩

theorem splitFields_concat_of_blank {c : Char} (h : Text.isBlank c = true) (line : List Char) :
    splitFields (line ++ [c]) = splitFields line := by
  have hc : c ≠ ',' := by
    rintro rfl
    cases not_blank_comma.symm.trans h
  obtain ⟨before, last, hline, hconcat⟩ := splitOn_concat hc line
  unfold splitFields
  rw [hline, hconcat, List.map_append, List.map_append, List.map_singleton, List.map_singleton,
    Text.trim_concat_of_blank h]

theorem splitFields_trim (line : List Char) : splitFields (Text.trim line) = splitFields line := by
  have hend : ∀ line, splitFields (Text.trimEnd line) = splitFields line := by
    intro line
    change splitFields (line.rdropWhile Text.isBlank) = _
    induction line using List.reverseRecOn with
    | nil => rfl
    | append_singleton line c ih =>
      by_cases h : Text.isBlank c = true
      · rw [List.rdropWhile_concat_pos _ _ _ h, ih, splitFields_concat_of_blank h]
      · rw [List.rdropWhile_concat_neg _ _ _ h]
  have hstart : splitFields (Text.trimStart line) = splitFields line := by
    unfold Text.trimStart
    induction line with
    | nil => rfl
    | cons c line ih =>
      by_cases h : Text.isBlank c = true
      · rw [List.dropWhile_cons_of_pos h, ih, splitFields_cons_of_blank h]
      · rw [List.dropWhile_cons_of_neg h]
  unfold Text.trim
  rw [hend, hstart]

theorem splitFields_ne_nil (line : List Char) : splitFields line ≠ [] := by
  unfold splitFields
  rw [Ne, List.map_eq_nil_iff]
  exact List.splitOn_ne_nil ',' line

theorem splitFields_joinFields_flatMap {fields : List Field} (hne : fields ≠ []) :
    splitFields (joinFields fields) = fields.flatMap splitFields := by
  unfold joinFields
  induction fields with
  | nil => exact absurd rfl hne
  | cons f fields ih =>
    cases fields with
    | nil => rw [List.intercalate_singleton, List.flatMap_cons, List.flatMap_nil, List.append_nil]
    | cons g fields =>
      rw [List.intercalate_cons_cons, List.append_assoc, List.singleton_append, splitFields_comma,
        ih (List.cons_ne_nil g fields)]
      rfl

theorem splitFields_joinFields_congr {fields fields' : List Field}
    (h : fields.map Text.trim = fields'.map Text.trim) :
    splitFields (joinFields fields) = splitFields (joinFields fields') := by
  have hpadding : ∀ fields : List Field,
      fields.flatMap splitFields = (fields.map Text.trim).flatMap splitFields := by
    intro fields
    rw [List.flatMap_map]
    simp only [splitFields_trim]
  by_cases hne : fields = []
  · rw [hne, List.map_nil] at h
    rw [hne, List.map_eq_nil_iff.mp h.symm]
  · have hne' : fields' ≠ [] := by
      rintro rfl
      exact hne (List.map_eq_nil_iff.mp h)
    rw [splitFields_joinFields_flatMap hne, splitFields_joinFields_flatMap hne', hpadding, h,
      ← hpadding]

theorem splitFields_eq_nil_iff {line : List Char} :
    splitFields line = [[]] ↔ Text.trim line = [] := by
  constructor
  · intro h
    obtain ⟨piece, hpiece, htrim⟩ : ∃ piece, line.splitOn ',' = [piece] ∧ Text.trim piece = [] := by
      unfold splitFields at h
      rcases hs : line.splitOn ',' with _ | ⟨piece, _ | ⟨next, others⟩⟩
      · exact (List.splitOn_ne_nil _ _ hs).elim
      · rw [hs, List.map_singleton, List.singleton_inj] at h
        exact ⟨piece, rfl, h⟩
      · rw [hs, List.map_cons, List.map_cons] at h
        exact absurd (congrArg List.length h) (by simp)
    have hline : [','].intercalate (line.splitOn ',') = line := List.intercalate_splitOn ','
    rw [hpiece, List.intercalate_singleton] at hline
    rwa [← hline]
  · intro h
    rw [← splitFields_trim, h]
    rfl

/-! The symbol column -/

/-- A format without the column carries no symbol, and one with it carries every symbol that fits. -/
def SymbolFields.Carries : SymbolFields → Option String → Prop
  | omitted, symbol => symbol = none
  | included, symbol => ∃ s, symbol = some s ∧ FitsField s.toList

variable {symbols : SymbolFields} {symbol : Option String}

theorem fits_symbolColumn (h : symbols.Carries symbol) :
    ∀ f ∈ symbolColumn symbols symbol, FitsField f := by
  intro f hf
  cases symbols with
  | omitted => cases hf
  | included =>
    obtain ⟨s, rfl, hs⟩ := h
    rw [List.mem_singleton.mp hf]
    exact hs

theorem readLine_columns (ofFields : List Field → Except DecodeError α) {tag : Field}
    (htag : Visible tag) (h : symbols.Carries symbol) (word : UInt32) (words : List UInt32) :
    readLine ofFields
        (String.ofList
          (joinFields (tag :: symbolColumn symbols symbol ++ (word :: words).map wordField))) =
      some <$> ofFields (tag :: symbolColumn symbols symbol ++ (word :: words).map wordField) := by
  have hfit : ∀ f ∈ tag :: symbolColumn symbols symbol ++ (word :: words).map wordField,
      FitsField f := by
    intro f hf
    rcases List.mem_append.mp hf with hf | hf
    · rcases List.mem_cons.mp hf with rfl | hf
      · exact htag.fits
      · exact fits_symbolColumn h f hf
    · obtain ⟨w, _, rfl⟩ := List.mem_map.mp hf
      exact (visible_wordField w).fits
  have hlast : (tag :: symbolColumn symbols symbol ++ (word :: words).map wordField).getLast? =
      some (wordField ((word :: words).getLast (List.cons_ne_nil _ _))) := by
    rw [List.getLast?_append, List.getLast?_map, List.getLast?_eq_some_getLast]
    rfl
  exact readLine_joinFields ofFields hfit rfl hlast htag.1 (visible_wordField _).1

theorem takeSymbol_symbolColumn (kind : String) (h : symbols.Carries symbol) (rest : List Field) :
    takeSymbol kind rest.length symbols (symbolColumn symbols symbol ++ rest) =
      .ok (symbol, rest) := by
  cases symbols with
  | omitted =>
    have hs : symbol = none := h
    simp [symbolColumn, takeSymbol, hs]
  | included =>
    obtain ⟨s, hs, _⟩ := h
    simp [symbolColumn, takeSymbol, hs]

theorem carries_of_takeSymbol {kind : String} {count : Nat} {fields rest : List Field}
    (hfit : ∀ f ∈ fields, FitsField f)
    (h : takeSymbol kind count symbols fields = .ok (symbol, rest)) : symbols.Carries symbol := by
  cases symbols with
  | omitted =>
    rw [takeSymbol] at h
    split at h
    · cases h
      rfl
    · cases h
  | included =>
    cases fields with
    | nil => cases h
    | cons s fields =>
      rw [takeSymbol] at h
      split at h
      · cases h
        refine ⟨_, rfl, ?_⟩
        rw [String.toList_ofList]
        exact hfit s List.mem_cons_self
      · cases h

theorem readOrderRef_fields (kind : String) (h : symbols.Carries symbol) (user order : UInt32) :
    readOrderRef kind symbols (symbolColumn symbols symbol ++ [wordField user, wordField order]) =
      .ok (user, order, symbol) := by
  have hs := takeSymbol_symbolColumn kind h [wordField user, wordField order]
  change takeSymbol kind 2 symbols _ = _ at hs
  unfold readOrderRef
  rw [hs]
  simp only [bind, Except.bind, readWord_wordField]
  rfl

theorem readLine_orderRef {ofFields : List Field → Except DecodeError α} {tag : Field}
    (htag : Visible tag) (kind : String) (ofRef : UInt32 × UInt32 × Option String → α)
    (hof : ∀ fields, ofFields (tag :: fields) = ofRef <$> readOrderRef kind symbols fields)
    (h : symbols.Carries symbol) (user order : UInt32) :
    readLine ofFields
        (String.ofList
          (joinFields (tag :: symbolColumn symbols symbol ++ [wordField user, wordField order]))) =
      .ok (some (ofRef (user, order, symbol))) := by
  have hline := readLine_columns ofFields htag h user [order]
  have href := readOrderRef_fields kind h user order
  refine hline.trans ?_
  rw [List.cons_append, hof]
  change some <$> (ofRef <$> readOrderRef kind symbols
    (symbolColumn symbols symbol ++ [wordField user, wordField order])) = _
  rw [href]
  rfl

theorem carries_of_readOrderRef {kind : String} {fields : List Field} {user order : UInt32}
    (hfit : ∀ f ∈ fields, FitsField f)
    (h : readOrderRef kind symbols fields = .ok (user, order, symbol)) :
    symbols.Carries symbol := by
  obtain ⟨⟨symbol', rest⟩, hs, hrest⟩ := bind_eq_ok.mp h
  have hc := carries_of_takeSymbol hfit hs
  split at hrest
  next heq =>
    cases heq
    obtain ⟨u, _, hrest⟩ := bind_eq_ok.mp hrest
    obtain ⟨o, _, hrest⟩ := bind_eq_ok.mp hrest
    cases hrest
    exact hc
  next => cases hrest

end OrderEntry

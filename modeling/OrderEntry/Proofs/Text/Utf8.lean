import OrderEntry.Wire.LineDecoder

/-! Text as UTF-8. Reading undoes writing and accepts nothing else, ASCII is one byte a character, and
a carriage return at the end of a line is a character of its own. -/

namespace OrderEntry

theorem utf8_eq_flatMap (s : String) : utf8 s = s.toList.flatMap String.utf8EncodeChar := by
  unfold utf8
  rw [String.toUTF8_eq_toByteArray, ← String.utf8Encode_toList, List.utf8Encode]
  simp

theorem ofUtf8?_eq_some_iff {bytes : Bytes} {s : String} :
    ofUtf8? bytes = some s ↔ utf8 s = bytes := by
  unfold ofUtf8? utf8 String.fromUTF8?
  constructor
  · intro h
    split at h
    · cases h
      simp [String.fromUTF8]
    · cases h
  · rintro rfl
    have hb : (⟨s.toUTF8.data.toList.toArray⟩ : ByteArray) = s.toByteArray := by simp
    rw [dif_pos (hb ▸ s.isValidUTF8)]
    congr 1

theorem ofUtf8?_utf8 (s : String) : ofUtf8? (utf8 s) = some s := ofUtf8?_eq_some_iff.mpr rfl

theorem utf8_append (s t : String) : utf8 (s ++ t) = utf8 s ++ utf8 t := by
  simp only [utf8_eq_flatMap, String.toList_append, List.flatMap_append]

theorem utf8EncodeChar_of_ascii {c : Char} (h : c.toNat < 128) :
    String.utf8EncodeChar c = [c.toUInt8] := by
  apply String.utf8EncodeChar_eq_singleton
  rw [Char.utf8Size_eq_one_iff, UInt32.le_iff_toNat_le]
  exact Nat.le_of_lt_succ h

theorem utf8_ofList_of_ascii {l : List Char} (h : ∀ c ∈ l, c.toNat < 128) :
    utf8 (String.ofList l) = l.map Char.toUInt8 := by
  rw [utf8_eq_flatMap, String.toList_ofList]
  induction l with
  | nil => rfl
  | cons c l ih =>
    have hc := utf8EncodeChar_of_ascii (h c List.mem_cons_self)
    have hl := ih fun d hd => h d (List.mem_cons_of_mem _ hd)
    rw [List.flatMap_cons, hc, hl, List.map_cons, List.singleton_append]

theorem utf8_return : utf8 "\r" = [carriageReturn] := by
  rw [utf8_eq_flatMap]
  rfl

theorem eq_nil_of_utf8EncodeChar {c : Char} {start : Bytes}
    (h : String.utf8EncodeChar c = start ++ [carriageReturn]) : start = [] := by
  have hlen : start.length < (String.utf8EncodeChar c).length := by
    rw [h, List.length_append]
    exact Nat.lt_succ_self _
  have hget : (String.utf8EncodeChar c)[start.length] = carriageReturn := by simp [h]
  have hfirst : UInt8.IsUTF8FirstByte (String.utf8EncodeChar c)[start.length] := by
    rw [hget]
    decide
  exact List.length_eq_zero_iff.mp (UInt8.isUTF8FirstByte_getElem_utf8EncodeChar.mp hfirst)

theorem count_newline_utf8EncodeChar (c : Char) :
    (String.utf8EncodeChar c).count newline = if c = '\n' then 1 else 0 := by
  by_cases hascii : c.toNat < 128
  · have hnat : c.toUInt8.toNat = c.toNat := by
      rw [Char.toUInt8, UInt32.toNat_toUInt8]
      exact Nat.mod_eq_of_lt (by unfold Char.toNat at hascii; omega)
    have hbyte : c.toUInt8 = newline ↔ c = '\n' := by
      rw [← UInt8.toNat_inj, ← Char.toNat_inj, hnat]
      rfl
    rw [utf8EncodeChar_of_ascii hascii, List.count_singleton]
    simp [hbyte]
  · have hne : c ≠ '\n' := by
      rintro rfl
      exact hascii (by decide)
    have hlong : 127 < c.val.toNat := by
      unfold Char.toNat at hascii
      omega
    rw [if_neg hne, List.count_eq_zero]
    unfold String.utf8EncodeChar newline
    dsimp only
    rw [if_neg (Nat.not_le.mpr hlong)]
    split
    · simp [← UInt8.toNat_inj]
      omega
    split
    · simp [← UInt8.toNat_inj]
      omega
    · simp [← UInt8.toNat_inj]
      omega

theorem count_newline_utf8 (s : String) : (utf8 s).count newline = s.toList.count '\n' := by
  rw [utf8_eq_flatMap]
  induction s.toList with
  | nil => rfl
  | cons c chars ih =>
    rw [List.flatMap_cons, List.count_append, ih, count_newline_utf8EncodeChar, List.count_cons]
    simp [Nat.add_comm]

theorem ofUtf8?_concat_return (bytes : Bytes) :
    ofUtf8? (bytes ++ [carriageReturn]) = (ofUtf8? bytes).map (· ++ "\r") := by
  cases h : ofUtf8? bytes with
  | some s =>
    rw [ofUtf8?_eq_some_iff] at h
    rw [Option.map_some, ofUtf8?_eq_some_iff, utf8_append, utf8_return, h]
  | none =>
    rw [Option.map_none, Option.eq_none_iff_forall_ne_some]
    intro s hs
    rw [ofUtf8?_eq_some_iff, utf8_eq_flatMap] at hs
    rcases List.eq_nil_or_concat s.toList with hnil | ⟨front, last, hlast⟩
    · simp [hnil] at hs
    · obtain ⟨start, b, hchar⟩ : ∃ start b, String.utf8EncodeChar last = start ++ [b] :=
        ⟨_, _, (List.dropLast_concat_getLast String.utf8EncodeChar_ne_nil).symm⟩
      rw [hlast, List.concat_eq_append, List.flatMap_append, List.flatMap_singleton, hchar,
        ← List.append_assoc] at hs
      -- the last character gives the last byte, so the others give all before it
      obtain ⟨hbefore, hreturn⟩ := List.append_inj' hs rfl
      rw [hreturn] at hchar
      have hstart := eq_nil_of_utf8EncodeChar hchar
      rw [hstart, List.append_nil] at hbefore
      have hfront : ofUtf8? bytes = some (String.ofList front) := by
        rw [ofUtf8?_eq_some_iff, utf8_eq_flatMap, String.toList_ofList, hbefore]
      rw [h] at hfront
      cases hfront

end OrderEntry

import Mathlib.Data.List.DropRight
import OrderEntry.Text.Blank

/-! Trimmed text. A text is its own trim when it does not begin or end with a blank. A trim is its own
trim, and a blank at either end of a text makes no difference to it. -/

namespace OrderEntry.Text

variable {s : List Char}

theorem trimStart_eq_self_iff : trimStart s = s ↔ ∀ c ∈ s.head?, isBlank c = false := by
  cases s with
  | nil => simp [trimStart]
  | cons a s =>
    unfold trimStart
    rw [List.dropWhile_eq_self_iff]
    simp

theorem trimEnd_eq_self_iff : trimEnd s = s ↔ ∀ c ∈ s.getLast?, isBlank c = false := by
  have h : trimEnd s = s.rdropWhile isBlank := rfl
  rw [h, List.rdropWhile_eq_self_iff]
  constructor
  · intro hl c hc
    have hne : s ≠ [] := List.ne_nil_of_mem (List.mem_of_getLast? hc)
    rw [List.getLast?_eq_some_getLast hne, Option.mem_some_iff] at hc
    rw [← hc]
    simpa using hl hne
  · intro hl hne
    have hb := hl _ (List.getLast?_eq_some_getLast hne)
    simpa using hb

theorem isPrefix_trimEnd (s : List Char) : trimEnd s <+: s := List.rdropWhile_prefix isBlank s

theorem isSuffix_trimStart (s : List Char) : trimStart s <:+ s := List.dropWhile_suffix isBlank

theorem trim_eq_self_iff :
    trim s = s ↔ (∀ c ∈ s.head?, isBlank c = false) ∧ ∀ c ∈ s.getLast?, isBlank c = false := by
  rw [← trimStart_eq_self_iff, ← trimEnd_eq_self_iff]
  constructor
  · intro h
    -- both cuts only shorten, so neither of them cuts anything off
    have he : (trim s).length ≤ (trimStart s).length := (isPrefix_trimEnd _).length_le
    have hs : trimStart s = s := by
      apply (isSuffix_trimStart s).eq_of_length_le
      rwa [h] at he
    have ht : trimEnd s = s := by
      unfold trim at h
      rwa [hs] at h
    exact ⟨hs, ht⟩
  · rintro ⟨hs, ht⟩
    unfold trim
    rw [hs, ht]

theorem trim_eq_self_of_forall (h : ∀ c ∈ s, isBlank c = false) : trim s = s :=
  trim_eq_self_iff.mpr
    ⟨fun c hc => h c (List.mem_of_head? hc), fun c hc => h c (List.mem_of_getLast? hc)⟩

theorem trim_subset (s : List Char) : trim s ⊆ s := by
  intro c hc
  exact (isSuffix_trimStart s).subset ((isPrefix_trimEnd _).subset hc)

theorem trim_trim (s : List Char) : trim (trim s) = trim s := by
  have hend : trimEnd (trim s) = trim s := List.rdropWhile_idempotent isBlank (trimStart s)
  have hstart : ∀ c ∈ (trimStart s).head?, isBlank c = false := by
    apply trimStart_eq_self_iff.mp
    exact List.dropWhile_idempotent isBlank s
  apply trim_eq_self_iff.mpr
  refine ⟨?_, trimEnd_eq_self_iff.mp hend⟩
  intro c hc
  apply hstart
  -- what is cut off at the end leaves the first character where it is
  obtain ⟨cut, hcut⟩ : trim s <+: trimStart s := isPrefix_trimEnd (trimStart s)
  rw [← hcut, List.head?_append, Option.mem_def.mp hc]
  rfl

theorem trim_concat_of_blank {c : Char} (h : isBlank c = true) (s : List Char) :
    trim (s ++ [c]) = trim s := by
  unfold trim trimStart
  rw [List.dropWhile_append]
  split
  next he =>
    rw [List.isEmpty_iff] at he
    rw [he, List.dropWhile_cons_of_pos h]
    rfl
  next => exact List.rdropWhile_concat_pos isBlank _ c h

theorem trim_cons_of_blank {c : Char} (h : isBlank c = true) (s : List Char) :
    trim (c :: s) = trim s := by
  unfold trim trimStart
  rw [List.dropWhile_cons_of_pos h]

theorem trim_eq_nil_iff : trim s = [] ↔ ∀ c ∈ s, isBlank c = true := by
  constructor
  · intro h
    have hend : ∀ c ∈ trimStart s, isBlank c = true := List.rdropWhile_eq_nil_iff.mp h
    -- what is left of the start would begin with a character that is not blank
    have hstart : trimStart s = [] := by
      by_contra hne
      have hhead := List.head_dropWhile_not isBlank hne
      have hblank := hend _ (List.head_mem hne)
      exact Bool.false_ne_true (hhead.symm.trans hblank)
    exact List.dropWhile_eq_nil_iff.mp hstart
  · intro h
    have hstart : trimStart s = [] := List.dropWhile_eq_nil_iff.mpr h
    unfold trim
    rw [hstart]
    rfl

end OrderEntry.Text

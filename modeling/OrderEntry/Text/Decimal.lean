/-! Unsigned decimal text. A number is one or more ASCII digits, any number of leading zeros
included; nothing else is read. -/

namespace OrderEntry.Text

def isNumeral (s : List Char) : Bool := !s.isEmpty && s.all Char.isDigit

def natural? (s : List Char) : Option Nat :=
  if isNumeral s then some (Nat.ofDigitChars 10 s 0) else none

def appendDigit? (limit n : Nat) (c : Char) : Option Nat :=
  let n := 10 * n + (c.toNat - '0'.toNat)
  if n < limit then some n else none

def naturalBelow? (limit : Nat) (s : List Char) : Option Nat :=
  if isNumeral s then s.foldlM (appendDigit? limit) 0 else none

def word? (s : List Char) : Option UInt32 := (naturalBelow? UInt32.size s).map .ofNat

def digits (n : Nat) : List Char := Nat.toDigits 10 n

theorem isNumeral_digits (n : Nat) : isNumeral (digits n) = true := by
  simp only [isNumeral, digits, Bool.and_eq_true, Bool.not_eq_true', List.isEmpty_eq_false_iff,
    List.all_eq_true]
  exact ⟨Nat.toDigits_ne_nil, fun c hc => Nat.isDigit_of_mem_toDigits (by decide) (by decide) hc⟩

theorem natural?_digits (n : Nat) : natural? (digits n) = some n := by
  rw [natural?, isNumeral_digits, if_pos rfl, digits, Nat.ofDigitChars_ten_toDigits]

theorem le_ofDigitChars (s : List Char) (n : Nat) : n ≤ Nat.ofDigitChars 10 s n := by
  induction s generalizing n with
  | nil => simp
  | cons c s ih =>
    rw [Nat.ofDigitChars_cons]
    exact Nat.le_trans (by omega) (ih _)

theorem foldlM_appendDigit? {limit n : Nat} (s : List Char) (h : n < limit) :
    s.foldlM (appendDigit? limit) n = (some (Nat.ofDigitChars 10 s n)).filter (· < limit) := by
  induction s generalizing n with
  | nil => simp [Option.filter, h]
  | cons c s ih =>
    rw [List.foldlM_cons, Nat.ofDigitChars_cons, appendDigit?]
    split
    · next hn => exact ih hn
    · next hn =>
      have hle := Nat.le_trans (Nat.not_lt.1 hn) (le_ofDigitChars s _)
      exact (if_neg ((not_congr decide_eq_true_iff).2 (Nat.not_lt.2 hle))).symm

theorem naturalBelow?_eq {limit : Nat} (h : 0 < limit) (s : List Char) :
    naturalBelow? limit s = (natural? s).filter (· < limit) := by
  unfold naturalBelow? natural?
  split
  · exact foldlM_appendDigit? s h
  · rfl

theorem word?_eq (s : List Char) :
    word? s = ((natural? s).filter (· < UInt32.size)).map .ofNat := by
  rw [word?, naturalBelow?_eq (by decide)]

theorem word?_digits (w : UInt32) : word? (digits w.toNat) = some w := by
  simp [word?_eq, natural?_digits, Option.filter, w.toNat_lt_size]

end OrderEntry.Text

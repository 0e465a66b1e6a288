import Mathlib.Data.List.Forall2
import OrderEntry.Text.Json

/-! Compact JSON text read back. The reader knows texts with every escape, whole numbers, null and objects,
and takes no blanks between them. What the writer puts out for a value is read as that value, whatever
follows, and has no control characters in it. -/

namespace OrderEntry

inductive Json
  | null
  | number (value : Int)
  | text (value : String)
  | object (members : List (String × Json))

namespace Json

open Text (digits natural? jsonEscape jsonText jsonNumber jsonOptionalText jsonObject)

/-! ### Reader -/

def hexValue? (c : Char) : Option Nat := (List.range 16).find? fun d => Nat.digitChar d = c.toLower

/-- Half of a pair of codes is no character. -/
def ofCode? (n : Nat) : Option Char := if n.isValidChar then some (Char.ofNat n) else none

def ofHex? (a b c d : Char) : Option Char := do
  ofCode? (4096 * (← hexValue? a) + 256 * (← hexValue? b) + 16 * (← hexValue? c) + (← hexValue? d))

def ofLetter? : Char → Option Char
  | '"' => some '"'
  | '\\' => some '\\'
  | '/' => some '/'
  | 'b' => some '\x08'
  | 'f' => some '\x0c'
  | 'n' => some '\n'
  | 'r' => some '\r'
  | 't' => some '\t'
  | _ => none

def readChars : List Char → Option (List Char × List Char)
  | [] => none
  | '"' :: rest => some ([], rest)
  | '\\' :: 'u' :: a :: b :: c :: d :: rest => do
    let char ← ofHex? a b c d
    let (chars, rest) ← readChars rest
    return (char :: chars, rest)
  | '\\' :: letter :: rest => do
    let char ← ofLetter? letter
    let (chars, rest) ← readChars rest
    return (char :: chars, rest)
  | c :: rest => do
    if c = '\\' ∨ c.toNat < 0x20 then none
    let (chars, rest) ← readChars rest
    return (c :: chars, rest)

def readText : List Char → Option (String × List Char)
  | '"' :: rest => (readChars rest).map fun (chars, rest) => (String.ofList chars, rest)
  | _ => none

def readNatural (cs : List Char) : Option (Nat × List Char) := do
  let numeral := cs.takeWhile Char.isDigit
  let n ← natural? numeral
  if digits n = numeral then some (n, cs.dropWhile Char.isDigit) else none

def readNumber : List Char → Option (Int × List Char)
  | '-' :: cs => (readNatural cs).map fun (n, rest) => (-n, rest)
  | cs => (readNatural cs).map fun (n, rest) => (n, rest)

/-- The members up to the closing brace. Each takes a character at least, so the number of characters is
fuel enough. -/
def readMembers (readValue : List Char → Option (Json × List Char)) :
    (fuel : Nat) → List Char → Option (List (String × Json) × List Char)
  | 0, _ => none
  | fuel + 1, cs =>
    match readText cs with
    | some (name, ':' :: rest) =>
      match readValue rest with
      | some (value, ',' :: rest) =>
        (readMembers readValue fuel rest).map fun (members, rest) => ((name, value) :: members, rest)
      | some (value, '\x7d' :: rest) => some ([(name, value)], rest)
      | _ => none
    | _ => none

/-- A value with no more than so many objects in each other. -/
def readValue : (depth : Nat) → List Char → Option (Json × List Char)
  | 0, _ => none
  | depth + 1, cs =>
    match cs with
    | 'n' :: 'u' :: 'l' :: 'l' :: rest => some (null, rest)
    | '"' :: _ => (readText cs).map fun (value, rest) => (text value, rest)
    | '\x7b' :: '\x7d' :: rest => some (object [], rest)
    | '\x7b' :: rest =>
      (readMembers (readValue depth) rest.length rest).map fun (members, rest) =>
        (object members, rest)
    | _ => (readNumber cs).map fun (value, rest) => (number value, rest)

def parse (s : String) : Option Json :=
  match readValue s.length s.toList with
  | some (value, []) => some value
  | _ => none

/-! ### Texts -/

theorem ofHex?_control : ∀ n < 0x20,
    ofHex? '0' '0' (Nat.digitChar (n / 16)) (Nat.digitChar (n % 16)) = some (Char.ofNat n) := by
  decide

theorem readChars_letter {letter char : Char} (h : ofLetter? letter = some char) (cs : List Char) :
    readChars ('\\' :: letter :: cs) =
      (readChars cs).map fun (chars, rest) => (char :: chars, rest) := by
  have hu : letter ≠ 'u' := by
    rintro rfl
    cases h
  rw [readChars]
  · rw [h]
    cases readChars cs <;> rfl
  · intro a b c d rest hc
    exact absurd hc hu

theorem readChars_hex {a b c d char : Char} (h : ofHex? a b c d = some char) (cs : List Char) :
    readChars ('\\' :: 'u' :: a :: b :: c :: d :: cs) =
      (readChars cs).map fun (chars, rest) => (char :: chars, rest) := by
  rw [readChars, h]
  cases readChars cs <;> rfl

theorem readChars_plain {c : Char} (hq : c ≠ '"') (hb : c ≠ '\\') (hc : 0x20 ≤ c.toNat)
    (cs : List Char) : readChars (c :: cs) =
      (readChars cs).map fun (chars, rest) => (c :: chars, rest) := by
  have hplain : ¬(c = '\\' ∨ c.toNat < 0x20) := by
    rintro (h | h)
    · exact hb h
    · omega
  rw [readChars]
  · rw [if_neg hplain]
    cases readChars cs <;> rfl
  · exact hq
  · intro a b c' d rest h
    exact absurd h hb
  · intro letter rest h
    exact absurd h hb

theorem jsonEscape_cases (c : Char) :
    (∃ letter, ofLetter? letter = some c ∧ 0x20 ≤ letter.toNat ∧ jsonEscape c = ['\\', letter]) ∨
      (c.toNat < 0x20 ∧ jsonEscape c = ['\\', 'u', '0', '0', Nat.digitChar (c.toNat / 16),
        Nat.digitChar (c.toNat % 16)]) ∨
      c ≠ '"' ∧ c ≠ '\\' ∧ 0x20 ≤ c.toNat ∧ jsonEscape c = [c] := by
  unfold jsonEscape
  iterate 7
    split
    next h =>
      subst h
      exact .inl ⟨_, rfl, by decide, rfl⟩
  split
  next h => exact .inr (.inl ⟨h, rfl⟩)
  next hq hb _ _ _ _ _ h => exact .inr (.inr ⟨hq, hb, Nat.le_of_not_lt h, rfl⟩)

theorem readChars_jsonEscape (c : Char) (cs : List Char) :
    readChars (jsonEscape c ++ cs) = (readChars cs).map fun (chars, rest) => (c :: chars, rest) := by
  rcases jsonEscape_cases c with ⟨letter, hletter, _, he⟩ | ⟨hc, he⟩ | ⟨hq, hb, hc, he⟩
  · rw [he]
    exact readChars_letter hletter cs
  · have hchar := ofHex?_control c.toNat hc
    rw [Char.ofNat_toNat] at hchar
    rw [he]
    exact readChars_hex hchar cs
  · rw [he]
    exact readChars_plain hq hb hc cs

theorem readChars_flatMap_jsonEscape (chars rest : List Char) :
    readChars (chars.flatMap jsonEscape ++ '"' :: rest) = some (chars, rest) := by
  induction chars with
  | nil => rfl
  | cons c chars ih =>
    rw [List.flatMap_cons, List.append_assoc, readChars_jsonEscape, ih]
    rfl

theorem readText_jsonText (s : String) (rest : List Char) :
    readText (jsonText s ++ rest) = some (s, rest) := by
  have hchars := readChars_flatMap_jsonEscape s.toList rest
  have htext : jsonText s ++ rest = '"' :: (s.toList.flatMap jsonEscape ++ '"' :: rest) := by
    simp only [jsonText, List.cons_append, List.append_assoc, List.nil_append]
  rw [htext, readText, hchars]
  simp

/-! ### Numbers -/

def Ends (rest : List Char) : Prop := ∀ c ∈ rest.head?, c.isDigit = false

theorem readNatural_digits (n : Nat) {rest : List Char} (h : Ends rest) :
    readNatural (digits n ++ rest) = some (n, rest) := by
  have hall : ∀ c ∈ digits n, c.isDigit = true := fun c hc =>
    Nat.isDigit_of_mem_toDigits (by decide) (by decide) hc
  have hstop : rest.takeWhile Char.isDigit = [] ∧ rest.dropWhile Char.isDigit = rest := by
    cases rest with
    | nil => exact ⟨rfl, rfl⟩
    | cons c rest =>
      have hc : c.isDigit = false := h c rfl
      simp [hc]
  have htake : (digits n ++ rest).takeWhile Char.isDigit = digits n := by
    rw [List.takeWhile_append_of_pos hall, hstop.1, List.append_nil]
  have hdrop : (digits n ++ rest).dropWhile Char.isDigit = rest := by
    rw [List.dropWhile_append_of_pos hall, hstop.2]
  simp [readNatural, htake, hdrop, Text.natural?_digits]

theorem exists_digits_eq_cons (n : Nat) : ∃ c cs, digits n = c :: cs ∧ c.isDigit = true := by
  obtain ⟨c, cs, hcs⟩ := List.exists_cons_of_ne_nil (@Nat.toDigits_ne_nil n 10)
  have hmem : c ∈ Nat.toDigits 10 n := by simp [hcs]
  exact ⟨c, cs, hcs, Nat.isDigit_of_mem_toDigits (by decide) (by decide) hmem⟩

theorem readNumber_jsonNumber (n : Int) {rest : List Char} (h : Ends rest) :
    readNumber (jsonNumber n ++ rest) = some (n, rest) := by
  have hnat := readNatural_digits n.natAbs h
  unfold jsonNumber
  split
  next hneg =>
    have habs : -(n.natAbs : Int) = n := by omega
    rw [List.append_assoc, List.singleton_append, readNumber, hnat, Option.map_some]
    exact congrArg (fun m => some (m, rest)) habs
  next hpos =>
    have habs : (n.natAbs : Int) = n := by omega
    obtain ⟨c, cs, hcs, hc⟩ := exists_digits_eq_cons n.natAbs
    rw [List.nil_append, readNumber, hnat, Option.map_some]
    · exact congrArg (fun m => some (m, rest)) habs
    · intro cs' hminus
      rw [hcs] at hminus
      have : c = '-' := (List.cons.inj hminus).1
      subst this
      cases hc

/-! ### Values -/

/-- The text is read as the value, whatever follows that cannot belong to a numeral. -/
def ReadAs (depth : Nat) (written : List Char) (value : Json) : Prop :=
  ∀ rest, Ends rest → readValue depth (written ++ rest) = some (value, rest)

theorem reads_text (depth : Nat) (s : String) : ReadAs (depth + 1) (jsonText s) (text s) := by
  intro rest _
  have htext := readText_jsonText s rest
  have hquote : jsonText s ++ rest = '"' :: (s.toList.flatMap jsonEscape ++ ['"'] ++ rest) := rfl
  rw [hquote] at htext ⊢
  rw [readValue, htext]
  rfl

theorem readValue_number (depth : Nat) {cs : List Char}
    (h : ∀ c ∈ cs.head?, c = '-' ∨ c.isDigit = true) :
    readValue (depth + 1) cs = (readNumber cs).map fun (value, rest) => (number value, rest) := by
  rw [readValue]
  · rintro rest rfl
    simpa using h 'n' rfl
  · rintro rest rfl
    simpa using h '"' rfl
  · rintro rest rfl
    simpa using h '\x7b' rfl
  · rintro rest rfl
    simpa using h '\x7b' rfl

theorem reads_number (depth : Nat) (n : Int) : ReadAs (depth + 1) (jsonNumber n) (number n) := by
  intro rest hrest
  have hhead : ∀ c ∈ (jsonNumber n ++ rest).head?, c = '-' ∨ c.isDigit = true := by
    obtain ⟨d, ds, hds, hd⟩ := exists_digits_eq_cons n.natAbs
    unfold jsonNumber
    rw [hds]
    split
    · simp
    · simp [hd]
  rw [readValue_number depth hhead, readNumber_jsonNumber n hrest]
  rfl

theorem reads_optionalText (depth : Nat) (s : Option String) :
    ReadAs (depth + 1) (jsonOptionalText s) (s.elim null text) := by
  cases s with
  | none => exact fun rest _ => rfl
  | some s => exact reads_text depth s

def ReadMembers (depth : Nat) : List (String × List Char) → List (String × Json) → Prop :=
  List.Forall₂ fun written read => written.1 = read.1 ∧ ReadAs depth written.2 read.2

def membersText (written : List (String × List Char)) : List Char :=
  [','].intercalate (written.map fun m => jsonText m.1 ++ ':' :: m.2)

theorem jsonObject_append (written : List (String × List Char)) (rest : List Char) :
    jsonObject written ++ rest = '\x7b' :: (membersText written ++ '\x7d' :: rest) := by
  have hobject : jsonObject written = '\x7b' :: (membersText written ++ ['\x7d']) := rfl
  rw [hobject, List.cons_append, List.append_assoc, List.singleton_append]

theorem membersText_singleton (m : String × List Char) :
    membersText [m] = jsonText m.1 ++ ':' :: m.2 := by
  simp [membersText]

theorem membersText_cons_cons (m next : String × List Char) (written : List (String × List Char)) :
    membersText (m :: next :: written) =
      jsonText m.1 ++ ':' :: (m.2 ++ ',' :: membersText (next :: written)) := by
  simp [membersText, List.intercalate_cons_cons]

theorem length_le_membersText (written : List (String × List Char)) :
    written.length ≤ (membersText written).length := by
  induction written with
  | nil => exact Nat.le_refl _
  | cons m written ih =>
    cases written with
    | nil =>
      simp only [membersText_singleton, List.length_append, List.length_cons, List.length_nil]
      omega
    | cons next written =>
      simp only [membersText_cons_cons, List.length_append, List.length_cons] at ih ⊢
      omega

theorem length_jsonObject (written : List (String × List Char)) :
    written.length + 2 ≤ (jsonObject written).length := by
  have hlength := length_le_membersText written
  have hobject := congrArg List.length (jsonObject_append written [])
  simp only [List.append_nil, List.length_append, List.length_cons, List.length_nil] at hobject
  omega

theorem readMembers_membersText {depth : Nat} {written : List (String × List Char)}
    {members : List (String × Json)} (h : ReadMembers depth written members) (hne : written ≠ [])
    {fuel : Nat} (hfuel : written.length ≤ fuel) (rest : List Char) :
    readMembers (readValue depth) fuel (membersText written ++ '\x7d' :: rest) =
      some (members, rest) := by
  induction h generalizing fuel with
  | nil => exact absurd rfl hne
  | @cons first member written members hfirst hmore ih =>
    obtain ⟨name, value⟩ := first
    obtain ⟨rfl, hvalue⟩ := hfirst
    obtain ⟨fuel, rfl⟩ : ∃ n, fuel = n + 1 := ⟨fuel - 1, by simp at hfuel; omega⟩
    have hname := fun after => readText_jsonText member.1 (':' :: after)
    cases hmore with
    | nil =>
      have hlast := hvalue ('\x7d' :: rest) (by simp [Ends])
      simp [membersText_singleton, readMembers, hname, hlast]
    | @cons next member' written members hnext hmore =>
      have hothers := ih (List.cons_ne_nil _ _) (Nat.le_of_succ_le_succ hfuel)
      have hcomma := fun after => hvalue (',' :: after) (by simp [Ends])
      simp [membersText_cons_cons, readMembers, hname, hcomma, hothers]

theorem reads_object {depth : Nat} {written : List (String × List Char)}
    {members : List (String × Json)} (h : ReadMembers depth written members) :
    ReadAs (depth + 1) (jsonObject written) (object members) := by
  intro rest _
  rw [jsonObject_append]
  cases h with
  | nil => rfl
  | @cons first member written members hfirst hmore =>
    have hall : ReadMembers depth (first :: written) (member :: members) := .cons hfirst hmore
    have hfuel : (first :: written).length ≤
        (membersText (first :: written) ++ '\x7d' :: rest).length :=
      Nat.le_trans (length_le_membersText _) (by simp)
    have hread := readMembers_membersText hall (List.cons_ne_nil _ _) hfuel rest
    -- the first name opens with a quote, so the object is not taken for an empty one
    have hquote : ∃ tail, membersText (first :: written) = '"' :: tail := by
      cases written <;> simp [membersText_singleton, membersText_cons_cons, jsonText]
    obtain ⟨tail, htail⟩ := hquote
    rw [htail, List.cons_append] at hread ⊢
    rw [readValue, hread]
    · rfl
    · intro after hclose
      simp at hclose

theorem parse_of_reads {depth : Nat} {written : List Char} {value : Json}
    (h : ∀ n, ReadAs (depth + n) written value) (hd : depth ≤ written.length) :
    parse (String.ofList written) = some value := by
  obtain ⟨n, hn⟩ := Nat.exists_eq_add_of_le hd
  have hread := h n [] (by simp [Ends])
  rw [List.append_nil, ← hn] at hread
  simp [parse, hread]

/-! ### Control characters -/

def Plain (written : List Char) : Prop := ∀ c ∈ written, 0x20 ≤ c.toNat

theorem Plain.append {before after : List Char} (hb : Plain before) (ha : Plain after) :
    Plain (before ++ after) := by
  intro c hc
  rcases List.mem_append.mp hc with h | h
  · exact hb c h
  · exact ha c h

theorem Plain.cons {c : Char} {written : List Char} (hc : 0x20 ≤ c.toNat) (h : Plain written) :
    Plain (c :: written) := by
  have hone : Plain [c] := by simpa [Plain] using hc
  exact hone.append h

theorem plain_jsonEscape (c : Char) : Plain (jsonEscape c) := by
  have hdigit : ∀ n < 16, 0x20 ≤ (Nat.digitChar n).toNat := by decide
  rcases jsonEscape_cases c with ⟨letter, _, hletter, he⟩ | ⟨hc, he⟩ | ⟨_, _, hc, he⟩
  · rw [he]
    exact .cons (by decide) (.cons hletter nofun)
  · have hhigh := hdigit (c.toNat / 16) (by omega)
    have hlow := hdigit (c.toNat % 16) (by omega)
    have hcode : Plain ['\\', 'u', '0', '0'] := by simp [Plain]
    rw [he]
    exact hcode.append (.cons hhigh (.cons hlow nofun))
  · rw [he]
    exact .cons hc nofun

theorem plain_jsonText (s : String) : Plain (jsonText s) := by
  have hchars : Plain (s.toList.flatMap jsonEscape) := by
    intro c hc
    obtain ⟨d, _, hd⟩ := List.mem_flatMap.mp hc
    exact plain_jsonEscape d c hd
  exact .cons (by decide) (hchars.append (.cons (by decide) nofun))

theorem plain_jsonNumber (n : Int) : Plain (jsonNumber n) := by
  have hdigits : Plain (digits n.natAbs) := by
    intro c hc
    have hdigit : c.isDigit = true := Nat.isDigit_of_mem_toDigits (by decide) (by decide) hc
    simp only [Char.isDigit, Bool.and_eq_true, decide_eq_true_eq] at hdigit
    exact Nat.le_trans (by decide) (UInt32.le_iff_toNat_le.mp hdigit.1)
  unfold jsonNumber
  split
  · exact .cons (by decide) hdigits
  · exact hdigits

theorem plain_jsonOptionalText (s : Option String) : Plain (jsonOptionalText s) := by
  cases s with
  | none => simp [Plain, jsonOptionalText]
  | some s => exact plain_jsonText s

theorem plain_membersText {written : List (String × List Char)} (h : ∀ m ∈ written, Plain m.2) :
    Plain (membersText written) := by
  induction written with
  | nil => exact nofun
  | cons m written ih =>
    have hm : Plain m.2 := h m List.mem_cons_self
    have hwritten := ih fun m' hm' => h m' (List.mem_cons_of_mem _ hm')
    cases written with
    | nil =>
      rw [membersText_singleton]
      exact (plain_jsonText m.1).append (.cons (by decide) hm)
    | cons next written =>
      rw [membersText_cons_cons]
      exact (plain_jsonText m.1).append
        (.cons (by decide) (hm.append (.cons (by decide) hwritten)))

theorem plain_jsonObject {written : List (String × List Char)} (h : ∀ m ∈ written, Plain m.2) :
    Plain (jsonObject written) :=
  .cons (by decide) ((plain_membersText h).append (.cons (by decide) nofun))

end Json
end OrderEntry

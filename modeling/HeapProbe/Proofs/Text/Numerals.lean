import HeapProbe.Text.Integer

/-! # Reading numerals back

A numeral is read back as the integer that it was written for, in base ten as well as in base
sixteen, so no two integers have the same numeral. Numerals are made of few characters, and what
stands between numerals in a text ends in others.
-/

namespace HeapProbe

def ofDecimal? (text : String) : Option Int :=
  let (negative, cs) := takeSign text.toList
  (digitValues? 10 cs).map fun digits => signed negative (ofDigitValues 10 digits)

def ofHex? (text : String) : Option Int :=
  match takeSign text.toList with
  | (negative, '0' :: 'x' :: cs) =>
    (digitValues? 16 cs).map fun digits => signed negative (ofDigitValues 16 digits)
  | _ => none

def isNumeralChar (c : Char) : Bool := c ∈ "-0123456789abcdefx".toList

section Digits

variable {base : Nat}

theorem ofDigitValues_concat (digits : List Nat) (digit : Nat) :
    ofDigitValues base (digits ++ [digit]) = ofDigitValues base digits * base + digit := by
  rw [ofDigitValues, List.foldl_append]
  rfl

theorem exists_digits (hbase : 1 < base) (n : Nat) :
    ∃ first rest, Nat.toDigits base n = (first :: rest).map Nat.digitChar ∧
      (∀ digit ∈ first :: rest, digit < base) ∧ ofDigitValues base (first :: rest) = n := by
  induction n using Nat.strongRecOn with
  | ind n ih =>
    rw [Nat.toDigits_eq_if hbase]
    by_cases hn : n < base
    · refine ⟨n, [], by rw [if_pos hn]; rfl, by simpa using hn, ?_⟩
      simp [ofDigitValues]
    · have hlt : n / base < n := Nat.div_lt_self (by omega) hbase
      obtain ⟨first, rest, hdigits, hbound, hvalue⟩ := ih (n / base) hlt
      refine ⟨first, rest ++ [n % base], ?_, ?_, ?_⟩
      · rw [if_neg hn, hdigits]
        simp
      · rw [← List.cons_append, List.forall_mem_append]
        exact ⟨hbound, by simpa using Nat.mod_lt n (by omega)⟩
      · rw [← List.cons_append, ofDigitValues_concat, hvalue, Nat.mul_comm]
        exact Nat.div_add_mod n base

theorem asciiDigit?_digitChar {digit : Nat} (h : digit < 16) :
    asciiDigit? digit.digitChar = some digit := by
  revert digit
  decide

theorem isNumeralChar_digitChar {digit : Nat} (h : digit < 16) :
    isNumeralChar digit.digitChar := by
  revert digit
  decide

theorem digitChar_ne_underscore {digit : Nat} (h : digit < 16) : digit.digitChar ≠ '_' := by
  revert digit
  decide

theorem digitChar_ne_sign {digit : Nat} (h : digit < 16) :
    digit.digitChar ≠ '-' ∧ digit.digitChar ≠ '+' := by
  revert digit
  decide

variable (hbase : 1 < base) (hbase' : base ≤ 16)
include hbase'

theorem digitValues?_digits (first : Nat) (rest : List Nat)
    (h : ∀ digit ∈ first :: rest, digit < base) :
    digitValues? base ((first :: rest).map Nat.digitChar) = some (first :: rest) := by
  induction rest generalizing first with
  | nil =>
    have hfirst : first < base := h first List.mem_cons_self
    simp [digitValues?, asciiDigit?_digitChar (Nat.lt_of_lt_of_le hfirst hbase'), hfirst]
  | cons second rest ih =>
    obtain ⟨hfirst, hrest⟩ := List.forall_mem_cons.1 h
    have hsecond : second < base := hrest second List.mem_cons_self
    have hne := digitChar_ne_underscore (Nat.lt_of_lt_of_le hsecond hbase')
    have hlater := ih second hrest
    simp only [List.map_cons] at hlater ⊢
    rw [digitValues?, hlater]
    · simp [asciiDigit?_digitChar (Nat.lt_of_lt_of_le hfirst hbase'), hfirst]
    · simp
    · rintro _ h
      exact hne (List.cons.inj h).1

include hbase

theorem digitValues?_toDigits (n : Nat) :
    (digitValues? base (Nat.toDigits base n)).map (ofDigitValues base) = some n := by
  obtain ⟨first, rest, hdigits, hbound, hvalue⟩ := exists_digits hbase n
  rw [hdigits, digitValues?_digits hbase' first rest hbound, Option.map_some, hvalue]

theorem isNumeralChar_of_mem_toDigits {n : Nat} {c : Char} (h : c ∈ Nat.toDigits base n) :
    isNumeralChar c := by
  obtain ⟨first, rest, hdigits, hbound, -⟩ := exists_digits hbase n
  rw [hdigits] at h
  obtain ⟨digit, hdigit, rfl⟩ := List.mem_map.1 h
  exact isNumeralChar_digitChar (Nat.lt_of_lt_of_le (hbound digit hdigit) hbase')

theorem takeSign_toDigits (n : Nat) :
    takeSign (Nat.toDigits base n) = (false, Nat.toDigits base n) := by
  obtain ⟨first, rest, hdigits, hbound, -⟩ := exists_digits hbase n
  obtain ⟨hminus, hplus⟩ := digitChar_ne_sign
    (Nat.lt_of_lt_of_le (hbound first List.mem_cons_self) hbase')
  rw [hdigits, List.map_cons]
  unfold takeSign
  split
  · next h => exact (hminus (List.cons.inj h).1).elim
  · next h => exact (hplus (List.cons.inj h).1).elim
  · rfl

end Digits

theorem ofDecimal?_decimal (n : Int) : ofDecimal? (decimal n) = some n := by
  have hread (m : Nat) := digitValues?_toDigits (show 1 < 10 by decide) (by decide) m
  unfold ofDecimal?
  cases n with
  | ofNat m =>
    rw [decimal, String.toList_ofList, takeSign_toDigits (by decide) (by decide)]
    obtain ⟨digits, hdigits, hvalue⟩ := Option.map_eq_some_iff.1 (hread m)
    simp [hdigits, hvalue, signed]
  | negSucc m =>
    obtain ⟨digits, hdigits, hvalue⟩ := Option.map_eq_some_iff.1 (hread (m + 1))
    rw [decimal, String.toList_ofList]
    simp [takeSign, hdigits, hvalue, signed]
    omega

theorem ofHex?_hex (n : Int) : ofHex? (hex n) = some n := by
  have hread (m : Nat) := digitValues?_toDigits (show 1 < 16 by decide) (by decide) m
  unfold ofHex?
  cases n with
  | ofNat m =>
    obtain ⟨digits, hdigits, hvalue⟩ := Option.map_eq_some_iff.1 (hread m)
    rw [hex, String.toList_ofList]
    simp [takeSign, hdigits, hvalue, signed]
  | negSucc m =>
    obtain ⟨digits, hdigits, hvalue⟩ := Option.map_eq_some_iff.1 (hread (m + 1))
    rw [hex, String.toList_ofList]
    simp [takeSign, hdigits, hvalue, signed]
    omega

theorem decimal_injective {n m : Int} (h : decimal n = decimal m) : n = m := by
  have hread := ofDecimal?_decimal m
  rwa [← h, ofDecimal?_decimal, Option.some_inj] at hread

theorem hex_injective {n m : Int} (h : hex n = hex m) : n = m := by
  have hread := ofHex?_hex m
  rwa [← h, ofHex?_hex, Option.some_inj] at hread

def IsNumeral (text : String) : Prop := ∀ c ∈ text.toList, isNumeralChar c

theorem isNumeral_empty : IsNumeral "" := nofun

theorem isNumeral_decimal (n : Int) : IsNumeral (decimal n) := by
  have hdigits (m : Nat) : ∀ c ∈ Nat.toDigits 10 m, isNumeralChar c := fun _ h =>
    isNumeralChar_of_mem_toDigits (by decide) (by decide) h
  unfold IsNumeral
  cases n with
  | ofNat m => simpa [decimal] using hdigits m
  | negSucc m => simpa [decimal] using ⟨by decide, hdigits (m + 1)⟩

theorem isNumeral_hex (n : Int) : IsNumeral (hex n) := by
  have hdigits (m : Nat) : ∀ c ∈ Nat.toDigits 16 m, isNumeralChar c := fun _ h =>
    isNumeralChar_of_mem_toDigits (by decide) (by decide) h
  unfold IsNumeral
  cases n with
  | ofNat m => simpa [hex] using ⟨by decide, by decide, hdigits m⟩
  | negSucc m => simpa [hex] using ⟨by decide, by decide, by decide, hdigits (m + 1)⟩

/-! ## Numerals in a text -/

/-- The words end in a character that no numeral has. -/
def SetsApart (words : String) : Prop := ∃ c ∈ words.toList.getLast?, isNumeralChar c = false

instance (words : String) : Decidable (SetsApart words) :=
  match h : words.toList.getLast? with
  | none => isFalse (by simp [SetsApart, h])
  | some c => decidable_of_iff (isNumeralChar c = false) (by simp [SetsApart, h])

/-- The last place of a character shows where what comes after it begins. -/
theorem append_cons_inj {α : Type} {c : α} {before before' later later' : List α}
    (hlater : c ∉ later) (hlater' : c ∉ later')
    (h : before ++ c :: later = before' ++ c :: later') : before = before' ∧ later = later' := by
  rcases List.append_eq_append_iff.1 h with ⟨between, rfl, hcons⟩ | ⟨between, rfl, hcons⟩
  · cases between with
    | nil => simpa using hcons
    | cons d between =>
      obtain ⟨-, rfl⟩ := List.cons.inj hcons
      simp at hlater
  · cases between with
    | nil => simpa [eq_comm] using hcons
    | cons d between =>
      obtain ⟨-, rfl⟩ := List.cons.inj hcons
      simp at hlater'

theorem SetsApart.append_inj {words before before' numeral numeral' : String}
    (hwords : SetsApart words) (hnumeral : IsNumeral numeral) (hnumeral' : IsNumeral numeral')
    (h : before ++ words ++ numeral = before' ++ words ++ numeral') :
    before = before' ∧ numeral = numeral' := by
  obtain ⟨c, hlast, hc⟩ := hwords
  obtain ⟨start, hstart⟩ := List.getLast?_eq_some_iff.1 hlast
  have hnot {numeral : String} (hnumeral : IsNumeral numeral) : c ∉ numeral.toList := by
    intro hmem
    rw [hnumeral c hmem] at hc
    cases hc
  have hlists := congrArg String.toList h
  simp only [String.toList_append, hstart, List.append_assoc, List.singleton_append] at hlists
  rw [← List.append_assoc, ← List.append_assoc] at hlists
  obtain ⟨hbefore, hlater⟩ := append_cons_inj (hnot hnumeral) (hnot hnumeral') hlists
  exact ⟨String.toList_inj.1 (List.append_cancel_right hbefore), String.toList_inj.1 hlater⟩

/-- Puts words and numerals in turns after the start of a text. -/
def interleave (start : String) : List (String × String) → String
  | [] => start
  | (words, numeral) :: rest => interleave (start ++ words ++ numeral) rest

/-- A text shows its start and its numerals, whatever the start is made of, if all its words set
numerals apart. -/
theorem interleave_inj {words : List String} {start start' : String}
    {numerals numerals' : List String}
    (h : interleave start (words.zip numerals) = interleave start' (words.zip numerals'))
    (hwords : ∀ word ∈ words, SetsApart word)
    (hlength : numerals.length = words.length) (hlength' : numerals'.length = words.length)
    (hnumerals : ∀ numeral ∈ numerals, IsNumeral numeral)
    (hnumerals' : ∀ numeral ∈ numerals', IsNumeral numeral) :
    start = start' ∧ numerals = numerals' := by
  induction words generalizing start start' numerals numerals' with
  | nil =>
    rw [List.length_nil, List.length_eq_zero_iff] at hlength hlength'
    exact ⟨h, hlength.trans hlength'.symm⟩
  | cons word words ih =>
    match numerals, numerals' with
    | numeral :: numerals, numeral' :: numerals' =>
      obtain ⟨hword, hwords⟩ := List.forall_mem_cons.1 hwords
      obtain ⟨hnumeral, hnumerals⟩ := List.forall_mem_cons.1 hnumerals
      obtain ⟨hnumeral', hnumerals'⟩ := List.forall_mem_cons.1 hnumerals'
      obtain ⟨hstart, rfl⟩ := ih h hwords (Nat.succ.inj hlength) (Nat.succ.inj hlength')
        hnumerals hnumerals'
      obtain ⟨rfl, rfl⟩ := hword.append_inj hnumeral hnumeral' hstart
      exact ⟨rfl, rfl⟩

end HeapProbe

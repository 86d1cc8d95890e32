import Candlestick.Numeral
import Mathlib.Algebra.Group.Nat.Defs
import Mathlib.Data.List.Basic
import Mathlib.Data.List.TakeWhile

/-!
# Spelled numbers

A number may be spelled with a fraction and with an exponent (`Spelling`). Read as a decimal, its
digits count without regard to the point, which is made up for by the power of ten
(`plainDecimal?_chars`).
-/

namespace Candlestick.Numeral

/-! ## Digits -/

/-- Whether all of the characters are digits. -/
def AllDigits (cs : List Char) : Prop :=
  ∀ c ∈ cs, c.isDigit = true

/-- What does not go on with a digit. -/
def StopsDigits (cs : List Char) : Prop :=
  ∀ c ∈ cs.head?, c.isDigit = false

theorem ne_of_isDigit {c d : Char} (hc : c.isDigit = true) (hd : d.isDigit = false) : c ≠ d := by
  rintro rfl
  rw [hc] at hd
  cases hd

theorem takeWhile_digits {ds rest : List Char} (hds : AllDigits ds) (hrest : StopsDigits rest) :
    (ds ++ rest).takeWhile Char.isDigit = ds := by
  rw [List.takeWhile_append_of_pos hds]
  cases rest with
  | nil => rw [List.takeWhile_nil, List.append_nil]
  | cons c more =>
      rw [List.takeWhile_cons_of_neg (by simpa using hrest c rfl), List.append_nil]

theorem dropWhile_digits {ds rest : List Char} (hds : AllDigits ds) (hrest : StopsDigits rest) :
    (ds ++ rest).dropWhile Char.isDigit = rest := by
  rw [List.dropWhile_append_of_pos hds]
  cases rest with
  | nil => rfl
  | cons c more => rw [List.dropWhile_cons_of_neg (by simpa using hrest c rfl)]

theorem allDigits_toDigits (n : Nat) : AllDigits (Nat.toDigits 10 n) := fun _ hc ↦
  Nat.isDigit_of_mem_toDigits (by decide) (by decide) hc

theorem valueOf_eq_ofDigitChars (cs : List Char) : valueOf cs = Nat.ofDigitChars 10 cs 0 := by
  unfold valueOf Nat.ofDigitChars
  congr 1
  funext n c
  rw [Nat.mul_comm n 10]
  rfl

theorem valueOf_toDigits (n : Nat) : valueOf (Nat.toDigits 10 n) = n := by
  rw [valueOf_eq_ofDigitChars, Nat.ofDigitChars_ten_toDigits]

theorem valueOf_append (xs ys : List Char) :
    valueOf (xs ++ ys) = valueOf xs * 10 ^ ys.length + valueOf ys := by
  rw [valueOf_eq_ofDigitChars, Nat.ofDigitChars_append, Nat.ofDigitChars_eq_ofDigitChars_zero,
    ← valueOf_eq_ofDigitChars, ← valueOf_eq_ofDigitChars, Nat.mul_comm]

theorem valueOf_replicate_zero (n : Nat) : valueOf (List.replicate n '0') = 0 := by
  rw [valueOf_eq_ofDigitChars, Nat.ofDigitChars_replicate_zero, Nat.mul_zero]

/-- The digits of a number other than zero do not start with a zero. -/
theorem head?_toDigits {n : Nat} (hn : n ≠ 0) : (Nat.toDigits 10 n).head? ≠ some '0' := by
  induction n using Nat.strongRecOn with
  | ind n ih =>
      by_cases hsmall : n < 10
      · rw [Nat.toDigits_of_lt_base hsmall, List.head?_cons]
        intro hzero
        have hvalue := Nat.toNat_digitChar_of_lt_ten hsmall
        rw [Option.some.inj hzero] at hvalue
        simp at hvalue
        omega
      · rw [Nat.toDigits_of_base_le (by decide) (by omega),
          List.head?_append_of_ne_nil _ Nat.toDigits_ne_nil]
        exact ih (n / 10) (by omega) (by omega)

/-! ## Spellings -/

/-- A number as it is spelled: digits, the digits of a fraction if there is one, and the sign and
the digits of an exponent if there is one. -/
structure Spelling where
  whole : List Char
  fraction : List Char
  power : Option (Char × List Char)

namespace Spelling

def fractionChars (s : Spelling) : List Char :=
  if s.fraction.isEmpty then [] else '.' :: s.fraction

def powerChars (s : Spelling) : List Char :=
  match s.power with
  | none => []
  | some (sign, digits) => 'e' :: sign :: digits

def chars (s : Spelling) : List Char :=
  s.whole ++ (s.fractionChars ++ s.powerChars)

def exponent (s : Spelling) : Int :=
  match s.power with
  | none => 0
  | some (sign, digits) => if sign = '-' then -(valueOf digits : Int) else valueOf digits

/-- Whether neither a fraction nor an exponent is spelled. -/
def isWhole (s : Spelling) : Bool :=
  s.fraction.isEmpty && s.power.isNone

/-- The decimal that is spelled, with the given sign. -/
def decimal (negative : Bool) (s : Spelling) : Decimal :=
  ⟨negative, valueOf (s.whole ++ s.fraction), s.exponent - s.fraction.length⟩

/-- A spelling that is made up of digits and has some before the point. A zero before the point
stands alone. -/
structure WellFormed (s : Spelling) : Prop where
  whole_ne_nil : s.whole ≠ []
  whole_digits : AllDigits s.whole
  whole_zero : s.whole.head? = some '0' → s.whole = ['0']
  fraction_digits : AllDigits s.fraction
  power_sign : ∀ p ∈ s.power, p.1 = '+' ∨ p.1 = '-'
  power_digits : ∀ p ∈ s.power, p.2 ≠ [] ∧ AllDigits p.2

/-- A minus sign, or nothing. -/
def signChars (negative : Bool) : List Char :=
  if negative then ['-'] else []

variable {s : Spelling}

theorem stopsDigits_powerChars (s : Spelling) {rest : List Char} (hrest : StopsDigits rest) :
    StopsDigits (s.powerChars ++ rest) := by
  unfold powerChars
  split
  · exact hrest
  · rintro c ⟨⟩
    rfl

theorem powerChars_ne_point (s : Spelling) (more : List Char) : s.powerChars ≠ '.' :: more := by
  unfold powerChars
  split
  · intro h
    cases h
  · intro h
    cases (List.cons.inj h).1

theorem stopsDigits_fractionChars (s : Spelling) {rest : List Char} (hrest : StopsDigits rest) :
    StopsDigits (s.fractionChars ++ (s.powerChars ++ rest)) := by
  unfold fractionChars
  split
  · exact stopsDigits_powerChars s hrest
  · rintro c ⟨⟩
    rfl

theorem WellFormed.exists_head (h : s.WellFormed) :
    ∃ d rest, s.chars = d :: rest ∧ d.isDigit = true := by
  obtain ⟨d, rest, hwhole⟩ := List.exists_cons_of_ne_nil h.whole_ne_nil
  refine ⟨d, rest ++ (s.fractionChars ++ s.powerChars), ?_, ?_⟩
  · rw [chars, hwhole, List.cons_append]
  · exact h.whole_digits d (by rw [hwhole]; exact List.mem_cons_self)

end Spelling

theorem splitSign_signChars (negative : Bool) {c : Char} (hc : c.isDigit = true)
    (rest : List Char) :
    splitSign (Spelling.signChars negative ++ c :: rest) = (negative, c :: rest) := by
  cases negative with
  | true => rfl
  | false =>
      rw [Spelling.signChars, if_neg Bool.false_ne_true, List.nil_append]
      unfold splitSign
      split
      · next heq =>
          obtain ⟨rfl, _⟩ := List.cons.inj heq
          cases hc
      · next heq =>
          obtain ⟨rfl, _⟩ := List.cons.inj heq
          cases hc
      · rfl

theorem toLower_of_isDigit {c : Char} (hc : c.isDigit = true) : c.toLower = c := by
  simp only [Char.isDigit, Bool.and_eq_true, decide_eq_true_eq, ge_iff_le,
    UInt32.le_iff_toNat_le] at hc
  refine dif_neg ?_
  rintro ⟨hupper, _⟩
  have hle := UInt32.le_iff_toNat_le.mp hupper
  exact absurd (Nat.le_trans hle hc.2) (by decide)

/-- No word starts with a digit. -/
theorem special?_of_isDigit {c : Char} {rest : List Char} (hc : c.isDigit = true) :
    special? (c :: rest) = none := by
  have hne : ∀ word : String, word.toList.head?.all (fun d ↦ !d.isDigit) = true → word ≠ "" →
      (String.ofList ((c :: rest).map Char.toLower) == word) = false := by
    intro word hword hsome
    rw [beq_eq_false_iff_ne]
    rintro rfl
    rw [String.toList_ofList, List.map_cons, List.head?_cons, toLower_of_isDigit hc,
      Option.all_some, hc] at hword
    cases hword
  simp only [special?]
  rw [hne "inf" (by decide) (by decide), hne "infinity" (by decide) (by decide),
    hne "nan" (by decide) (by decide)]
  rfl

theorem exponent?_powerChars {s : Spelling} (h : s.WellFormed) :
    exponent? s.powerChars = some s.exponent := by
  unfold Spelling.powerChars Spelling.exponent
  cases hpower : s.power with
  | none => rfl
  | some p =>
      obtain ⟨sign, digits⟩ := p
      obtain ⟨hsome, hdigits⟩ := h.power_digits _ hpower
      have hempty : digits.isEmpty = false := by simpa using hsome
      have hall : digits.all Char.isDigit = true := List.all_eq_true.mpr hdigits
      rcases h.power_sign _ hpower with rfl | rfl
      · simp [exponent?, splitSign, hempty, hall]
      · simp [exponent?, splitSign, hempty, hall]

/-- A spelled number is read as its decimal. -/
theorem plainDecimal?_chars {s : Spelling} (h : s.WellFormed) (negative : Bool) :
    plainDecimal? (Spelling.signChars negative ++ s.chars) =
      some (s.decimal negative).toDouble := by
  obtain ⟨d, rest, hchars, hd⟩ := h.exists_head
  have hsplit := splitSign_signChars negative hd rest
  rw [← hchars] at hsplit
  have hspecial : special? s.chars = none := by
    rw [hchars]
    exact special?_of_isDigit hd
  have hstops : StopsDigits [] := fun c hc ↦ nomatch hc
  have hpower : StopsDigits s.powerChars := by
    simpa using s.stopsDigits_powerChars hstops
  have hfraction : StopsDigits (s.fractionChars ++ s.powerChars) := by
    simpa using s.stopsDigits_fractionChars hstops
  have hwhole : s.chars.takeWhile Char.isDigit = s.whole :=
    takeWhile_digits h.whole_digits hfraction
  have hafter : s.chars.dropWhile Char.isDigit = s.fractionChars ++ s.powerChars :=
    dropWhile_digits h.whole_digits hfraction
  have hsome : s.whole.isEmpty = false := by simpa using h.whole_ne_nil
  have hexponent := exponent?_powerChars h
  simp only [plainDecimal?, hsplit, hspecial, hwhole, hafter, hsome]
  cases hcase : s.fraction with
  | nil =>
      have hnone : s.fractionChars = [] := by simp [Spelling.fractionChars, hcase]
      rw [hnone, List.nil_append]
      split
      · next more hpoint => exact absurd hpoint (s.powerChars_ne_point more)
      · simp only [hexponent, Option.map_some, Bool.false_and]
        rw [if_neg Bool.false_ne_true, Spelling.decimal, hcase]
  | cons c more =>
      have hchars : s.fractionChars = '.' :: s.fraction := by simp [Spelling.fractionChars, hcase]
      have htake := takeWhile_digits h.fraction_digits hpower
      have hdrop := dropWhile_digits h.fraction_digits hpower
      rw [hchars, List.cons_append]
      simp only [htake, hdrop, hexponent, Option.map_some, Bool.false_and]
      rw [if_neg Bool.false_ne_true]
      rfl

end Candlestick.Numeral

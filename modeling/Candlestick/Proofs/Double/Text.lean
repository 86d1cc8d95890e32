import Candlestick.Double.Text
import Candlestick.Proofs.Double.Decimal
import Candlestick.Proofs.Numeral

/-!
# Reading back what was written

A layout is a spelling of the number that it lays out, and zeros may be added or left out at the end
of the digits as long as the power of ten makes up for them. So a finite number, written in any
style, is read as the number itself.
-/

namespace Candlestick

/- Powers are those of natural numbers, whichever other powers are known. -/
attribute [local instance (2000)] instPowNat

namespace DecimalStyle

open Numeral

variable {style : DecimalStyle} {digits : List Char} {power : Int}

/-- The spelling that a layout is. -/
def spelling (style : DecimalStyle) (digits : List Char) (power : Int) : Spelling :=
  if style.leastPositional ≤ power ∧ power < style.firstExponential then
    if power < 0 then ⟨['0'], zeros (-power - 1).toNat ++ digits, none⟩
    else
      let whole := power.toNat + 1
      let fraction := digits.drop whole
      ⟨digits.take whole ++ zeros (whole - digits.length),
        if fraction.isEmpty then ['0'] else fraction, none⟩
  else
    let written := Nat.toDigits 10 power.natAbs
    ⟨digits.take 1, digits.drop 1, some (if power < 0 then '-' else '+',
      zeros (style.exponentWidth - written.length) ++ written)⟩

theorem layout_eq_chars (style : DecimalStyle) (hdigits : digits ≠ []) (power : Int) :
    style.layout digits power = (style.spelling digits power).chars := by
  unfold layout spelling
  split
  · split
    · have hsome : zeros (-power - 1).toNat ++ digits ≠ [] :=
        List.append_ne_nil_of_right_ne_nil _ hdigits
      simp [Spelling.chars, Spelling.fractionChars, Spelling.powerChars, hdigits]
    · simp only [Spelling.chars, Spelling.fractionChars, Spelling.powerChars, List.append_nil]
      split <;> simp_all
  · cases digits with
    | nil => exact absurd rfl hdigits
    | cons d rest =>
        cases rest with
        | nil => rfl
        | cons e more => rfl

theorem allDigits_zeros (n : Nat) : AllDigits (zeros n) := by
  intro c hc
  rw [(List.mem_replicate.mp hc).2]
  rfl

theorem wellFormed_spelling (style : DecimalStyle) (hall : AllDigits digits) (hdigits : digits ≠ [])
    (hhead : digits.head? ≠ some '0') (power : Int) : (style.spelling digits power).WellFormed := by
  have htake : ∀ n, AllDigits (digits.take n) := fun n c hc ↦ hall c (List.mem_of_mem_take hc)
  have hdrop : ∀ n, AllDigits (digits.drop n) := fun n c hc ↦ hall c (List.mem_of_mem_drop hc)
  have hfirst : ∀ n, (digits.take (n + 1)).head? = digits.head? := by
    intro n
    cases digits <;> rfl
  have hsome : ∀ n, digits.take (n + 1) ≠ [] := fun n ↦ by simpa using hdigits
  unfold spelling
  split
  · split
    · refine ⟨by simp, by simp [AllDigits], fun _ ↦ rfl, ?_, by simp, by simp⟩
      intro c hc
      rcases List.mem_append.mp hc with hzero | hdigit
      · exact allDigits_zeros _ c hzero
      · exact hall c hdigit
    · refine ⟨?_, ?_, ?_, ?_, by simp, by simp⟩
      · exact List.append_ne_nil_of_left_ne_nil (hsome _) _
      · intro c hc
        rcases List.mem_append.mp hc with hdigit | hzero
        · exact htake _ c hdigit
        · exact allDigits_zeros _ c hzero
      · intro hzero
        rw [List.head?_append_of_ne_nil _ (hsome _), hfirst] at hzero
        exact absurd hzero hhead
      · dsimp only
        split
        · simp [AllDigits]
        · exact hdrop _
  · refine ⟨hsome 0, htake 1, ?_, hdrop 1, ?_, ?_⟩
    · intro hzero
      rw [hfirst] at hzero
      exact absurd hzero hhead
    · rintro p ⟨⟩
      dsimp only
      split
      · exact Or.inr rfl
      · exact Or.inl rfl
    · rintro p ⟨⟩
      refine ⟨List.append_ne_nil_of_right_ne_nil _ Nat.toDigits_ne_nil, ?_⟩
      intro c hc
      rcases List.mem_append.mp hc with hzero | hdigit
      · exact allDigits_zeros _ c hzero
      · exact allDigits_toDigits _ c hdigit

/-- A layout shows that the number need not be whole. -/
theorem isWhole_spelling (style : DecimalStyle) (hdigits : digits ≠ []) (power : Int) :
    (style.spelling digits power).isWhole = false := by
  unfold spelling
  split
  · split
    · simp [Spelling.isWhole, hdigits]
    · dsimp only
      split
      · rfl
      · next hsome => simpa [Spelling.isWhole] using hsome
  · simp [Spelling.isWhole]

theorem valueOf_zeros_append (n : Nat) (ds : List Char) : valueOf (zeros n ++ ds) = valueOf ds := by
  rw [valueOf_append, zeros, valueOf_replicate_zero, Nat.zero_mul, Nat.zero_add]

theorem valueOf_append_zeros (n : Nat) (ds : List Char) :
    valueOf (ds ++ zeros n) = valueOf ds * 10 ^ n := by
  rw [valueOf_append, zeros, valueOf_replicate_zero, List.length_replicate, Nat.add_zero]

theorem length_zeros (n : Nat) : (zeros n).length = n :=
  List.length_replicate

/-- The decimal of a layout is the number that is laid out. -/
theorem toDouble_spelling (style : DecimalStyle) (hdigits : digits ≠ []) (power : Int)
    (negative : Bool) :
    ((style.spelling digits power).decimal negative).toDouble =
      Decimal.toDouble ⟨negative, valueOf digits, power - (digits.length - 1 : Nat)⟩ := by
  have hlength : 0 < digits.length := List.length_pos_iff.mpr hdigits
  unfold spelling
  split
  · split
    · next hnegative =>
        -- The zero before the point and the zeros behind it do not count.
        have hvalue : valueOf (['0'] ++ (zeros (-power - 1).toNat ++ digits)) = valueOf digits := by
          rw [← List.append_assoc]
          exact valueOf_zeros_append ((-power - 1).toNat + 1) digits
        simp only [Spelling.decimal, Spelling.exponent, hvalue, List.length_append, length_zeros]
        congr 2
        omega
    · next hnonneg =>
        dsimp only
        split
        · next hnone =>
            have hshort : digits.length ≤ power.toNat + 1 := by simpa using hnone
            have hvalue : valueOf (digits.take (power.toNat + 1) ++
                zeros (power.toNat + 1 - digits.length) ++ ['0']) =
                valueOf digits * 10 ^ (power.toNat + 1 - digits.length + 1) := by
              have hzeros : ∀ n, zeros n ++ ['0'] = zeros (n + 1) := fun n ↦
                List.replicate_succ'.symm
              rw [List.take_of_length_le hshort, List.append_assoc, hzeros, valueOf_append_zeros]
            simp only [Spelling.decimal, Spelling.exponent, hvalue]
            rw [Decimal.toDouble_eq_of_same (Decimal.same_mul_pow _ _ _ _)]
            congr 2
            simp
            omega
        · next hsome =>
            have hlong : power.toNat + 1 < digits.length := by simpa using hsome
            have hvalue : valueOf (digits.take (power.toNat + 1) ++
                zeros (power.toNat + 1 - digits.length) ++ digits.drop (power.toNat + 1)) =
                valueOf digits := by
              rw [Nat.sub_eq_zero_of_le (Nat.le_of_lt hlong)]
              simp [zeros]
            simp only [Spelling.decimal, Spelling.exponent, hvalue]
            congr 2
            simp
            omega
  · have hvalue : valueOf (digits.take 1 ++ digits.drop 1) = valueOf digits := by
      rw [List.take_append_drop]
    have hexponent : (valueOf (zeros (style.exponentWidth -
        (Nat.toDigits 10 power.natAbs).length) ++ Nat.toDigits 10 power.natAbs) : Int) =
        power.natAbs := by
      rw [valueOf_zeros_append, valueOf_toDigits]
    simp only [Spelling.decimal, Spelling.exponent, hvalue, hexponent, List.length_drop]
    congr 2
    split
    · rw [if_pos rfl]
      omega
    · rw [if_neg (by decide)]
      omega

theorem exists_zeros (digits : List Char) :
    ∃ n, digits = withoutTrailingZeros digits ++ zeros n := by
  have hzeros : ∀ cs : List Char,
      cs.takeWhile (· == '0') = zeros (cs.takeWhile (· == '0')).length := by
    intro cs
    refine List.eq_replicate_iff.mpr ⟨rfl, ?_⟩
    intro c hc
    simpa using List.mem_takeWhile_imp hc
  refine ⟨(digits.reverse.takeWhile (· == '0')).length, ?_⟩
  have hsplit := List.takeWhile_append_dropWhile (p := (· == '0')) (l := digits.reverse)
  rw [hzeros] at hsplit
  have hreverse := congrArg List.reverse hsplit
  rw [List.reverse_append, List.reverse_reverse, zeros, List.reverse_replicate] at hreverse
  exact hreverse.symm

/-- A decimal that is written in some style is a spelling of its double. -/
theorem exists_spelling (style : DecimalStyle) {d : Decimal} (hd : d.digits ≠ 0) :
    ∃ s : Spelling, s.WellFormed ∧ s.isWhole = false ∧ style.ofDecimal d = s.chars ∧
      (s.decimal d.negative).toDouble = d.toDouble := by
  obtain ⟨n, hzeros⟩ := exists_zeros (Nat.toDigits 10 d.digits)
  generalize hkept : withoutTrailingZeros (Nat.toDigits 10 d.digits) = kept at hzeros
  have hhead := head?_toDigits hd
  have hvalue := valueOf_toDigits d.digits
  have hlength := congrArg List.length hzeros
  rw [hzeros, valueOf_append_zeros] at hvalue
  rw [List.length_append, length_zeros] at hlength
  have hsome : kept ≠ [] := by
    rintro rfl
    exact hd (by simpa [valueOf] using hvalue.symm)
  have hpos : 0 < kept.length := List.length_pos_iff.mpr hsome
  have hall : AllDigits kept := by
    intro c hc
    have hmem : c ∈ Nat.toDigits 10 d.digits := by
      rw [hzeros]
      exact List.mem_append_left _ hc
    exact allDigits_toDigits _ c hmem
  have hfirst : kept.head? ≠ some '0' := by
    rw [hzeros, List.head?_append_of_ne_nil _ hsome] at hhead
    exact hhead
  let power := d.exponent + ((Nat.toDigits 10 d.digits).length - 1 : Nat)
  refine ⟨style.spelling kept power, wellFormed_spelling style hall hsome hfirst power,
    isWhole_spelling style hsome power, ?_, ?_⟩
  · rw [← layout_eq_chars style hsome, ofDecimal, hkept]
  · rw [toDouble_spelling style hsome]
    have hpower : power - (kept.length - 1 : Nat) = d.exponent + n := by
      simp only [power]
      omega
    have hsame := Decimal.same_mul_pow d.negative (valueOf kept) n d.exponent
    rw [hpower, ← Decimal.toDouble_eq_of_same hsame, hvalue]

theorem toDouble_of_digits_eq_zero {d : Decimal} (hd : d.digits = 0) :
    d.toDouble = .finite d.negative ⟨0, Double.representable_zero⟩ := by
  have hzero := Double.ofQuotient_units d.negative ⟨0, Double.representable_zero⟩ Nat.one_pos
  rw [Nat.zero_mul] at hzero
  rw [Decimal.toDouble, if_pos hd, hzero]

/-- A decimal whose double is finite has the sign of the double. -/
theorem negative_eq_of_toDouble {d : Decimal} {negative : Bool} {m : Double.Magnitude}
    (h : d.toDouble = .finite negative m) : d.negative = negative := by
  rw [Decimal.toDouble_eq] at h
  rcases Double.ofQuotient_cases d.negative (d.num * Double.one) d.den with
    ⟨_, hfinite, _⟩ | hinfinite
  · rw [hfinite] at h
    cases h
    rfl
  · rw [hinfinite] at h
    cases h

/-- A finite number that is written in some style is a spelling of itself. -/
theorem exists_spelling_text (style : DecimalStyle) (negative : Bool) (m : Double.Magnitude) :
    ∃ s : Spelling, s.WellFormed ∧ s.isWhole = false ∧
      (style.text (.finite negative m)).toList = Spelling.signChars negative ++ s.chars ∧
      (s.decimal negative).toDouble = .finite negative m := by
  have hsign : (if negative then "-" else "" : String).toList = Spelling.signChars negative := by
    cases negative <;> rfl
  by_cases hzero : m.units = 0
  · refine ⟨⟨['0'], ['0'], none⟩, ?_, rfl, ?_, ?_⟩
    · exact ⟨by simp, by simp [AllDigits], fun _ ↦ rfl, by simp [AllDigits], by simp, by simp⟩
    · rw [text, if_pos hzero, String.toList_append, hsign]
      rfl
    · obtain ⟨units, _⟩ := m
      obtain rfl : units = 0 := hzero
      exact toDouble_of_digits_eq_zero rfl
  · have hshortest := m.toDouble_shortest negative
    have hdigits : (m.shortest negative).digits ≠ 0 := by
      intro hnone
      rw [toDouble_of_digits_eq_zero hnone] at hshortest
      exact hzero (congrArg Double.Magnitude.units (Double.finite.inj hshortest).2).symm
    obtain ⟨s, hs, hreal, hchars, hvalue⟩ := exists_spelling style hdigits
    rw [negative_eq_of_toDouble hshortest, hshortest] at hvalue
    refine ⟨s, hs, hreal, ?_, hvalue⟩
    rw [text, if_neg hzero, String.toList_append, hsign, String.toList_ofList, hchars]

end DecimalStyle

end Candlestick

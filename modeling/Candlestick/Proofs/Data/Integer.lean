import Candlestick.Data.Scalar
import Candlestick.Proofs.Json.Number
import Candlestick.Proofs.Symbol

/-!
# Whole numbers are read as they are written

A whole number that is written in its usual way has nothing that a reader of texts would clean away,
so it is read back as itself, unless it has too many digits (`integerOfText_toString`).
-/

namespace Candlestick.Data

open Numeral

/-- A text of digits, perhaps with a minus sign in front. -/
def Plain (cs : List Char) : Prop :=
  ∀ c ∈ cs, c = '-' ∨ c.isDigit = true

theorem plain_signChars (negative : Bool) {digits : List Char} (h : AllDigits digits) :
    Plain (Spelling.signChars negative ++ digits) := by
  intro c hc
  rcases List.mem_append.mp hc with hsign | hdigit
  · cases negative with
    | true => exact Or.inl (List.mem_singleton.mp hsign)
    | false => cases hsign
  · exact Or.inr (h c hdigit)

variable {cs : List Char}

theorem Plain.ne (h : Plain cs) {d : Char} (hminus : d ≠ '-') (hdigit : d.isDigit = false) :
    ∀ c ∈ cs, c ≠ d := by
  rintro c hc rfl
  rcases h c hc with rfl | hdig
  · exact hminus rfl
  · rw [hdigit] at hdig
    cases hdig

theorem isWhiteSpace_of_isDigit {c : Char} (h : c.isDigit = true) :
    Text.isWhiteSpace c = false := by
  simp only [Char.isDigit, Bool.and_eq_true, decide_eq_true_eq, ge_iff_le,
    UInt32.le_iff_toNat_le] at h
  obtain ⟨hlow, hhigh⟩ := h
  have hlow' : 48 ≤ c.toNat := hlow
  have hhigh' : c.toNat ≤ 57 := hhigh
  simp [Text.isWhiteSpace]
  omega

theorem Plain.trimList_eq (h : Plain cs) : Text.trimList Text.isWhiteSpace cs = cs := by
  have hnone : ∀ c ∈ cs, Text.isWhiteSpace c = false := by
    intro c hc
    rcases h c hc with rfl | hdigit
    · rfl
    · exact isWhiteSpace_of_isDigit hdigit
  apply Text.Tight.trimList_eq_self
  exact ⟨fun c hc ↦ hnone c (List.mem_of_mem_head? hc),
    fun c hc ↦ hnone c (List.mem_of_mem_getLast? hc)⟩

theorem Plain.withoutPlus_eq (h : Plain cs) : withoutPlus cs = some cs := by
  unfold withoutPlus
  split
  · exact absurd rfl (h.ne (by decide) rfl '+' List.mem_cons_self)
  · exact absurd rfl (h.ne (by decide) rfl '+' List.mem_cons_self)
  · rfl

theorem Plain.withoutZeroFraction_eq (h : Plain cs) : withoutZeroFraction cs = cs := by
  have hnone : cs.dropWhile (· != '.') = [] := by
    apply List.dropWhile_eq_nil_iff.mpr
    intro c hc
    exact bne_iff_ne.mpr (h.ne (by decide) rfl c hc)
  unfold withoutZeroFraction
  rw [hnone]

theorem Plain.withoutInnerUnderscores_eq (h : Plain cs) :
    withoutInnerUnderscores cs = some cs := by
  have hnone : ∀ c ∈ cs, c ≠ '_' := h.ne (by decide) rfl
  have hhead : (cs.head? == some '_') = false := by
    apply beq_false_of_ne
    exact fun heq ↦ hnone '_' (List.mem_of_mem_head? heq) rfl
  have hlast : (cs.getLast? == some '_') = false := by
    apply beq_false_of_ne
    exact fun heq ↦ hnone '_' (List.mem_of_mem_getLast? heq) rfl
  have hfilter : cs.filter (· != '_') = cs := by
    apply List.filter_eq_self.mpr
    intro c hc
    exact bne_iff_ne.mpr (hnone c hc)
  unfold withoutInnerUnderscores
  dsimp only
  rw [hhead, hlast, hfilter, Bool.false_or, Bool.false_or, if_neg]
  rw [Bool.not_eq_true]
  apply List.any_eq_false.mpr
  rintro ⟨c, next⟩ hmem
  simp [hnone c (List.of_mem_zip hmem).1]

theorem withoutLeadingZeros_toDigits (negative : Bool) (n : Nat) :
    withoutLeadingZeros (Spelling.signChars negative ++ Nat.toDigits 10 n) =
      some (Spelling.signChars negative ++ Nat.toDigits 10 n) := by
  cases negative with
  | true => rfl
  | false =>
      by_cases hn : n = 0
      · subst hn
        rfl
      · obtain ⟨d, rest, hdigits⟩ := List.exists_cons_of_ne_nil (Nat.toDigits_ne_nil (n := n))
        have hzero : d ≠ '0' := by
          rintro rfl
          exact head?_toDigits hn (by rw [hdigits, List.head?_cons])
        have hdigit : d.isDigit = true :=
          allDigits_toDigits n d (by rw [hdigits]; exact List.mem_cons_self)
        rw [Spelling.signChars, if_neg Bool.false_ne_true, List.nil_append, hdigits,
          withoutLeadingZeros, if_neg hzero, if_pos (Or.inr hdigit)]

theorem bareInteger_toDigits (negative : Bool) {n : Nat}
    (h : (Nat.toDigits 10 n).length ≤ digitLimit) :
    bareInteger (Spelling.signChars negative ++ Nat.toDigits 10 n) =
      .ok (if negative then -(n : Int) else n) := by
  have hdigits := allDigits_toDigits n
  have htake : (Nat.toDigits 10 n).takeWhile Char.isDigit = Nat.toDigits 10 n := by
    have hstops : StopsDigits [] := fun c hc ↦ nomatch hc
    have hall := takeWhile_digits hdigits hstops
    rwa [List.append_nil] at hall
  have hzero : ((Nat.toDigits 10 n).head? == some '0' && (Nat.toDigits 10 n).length ≠ 1) =
      false := by
    by_cases hn : n = 0
    · subst hn
      rfl
    · simp [head?_toDigits hn]
  have hsize : ¬ digitLimit < (Nat.toDigits 10 n).length := Nat.not_lt.mpr h
  have hsome : ((Nat.toDigits 10 n).isEmpty ||
      decide ((Nat.toDigits 10 n).length ≠ (Nat.toDigits 10 n).length)) = false := by
    simp [Nat.toDigits_ne_nil]
  cases negative with
  | true =>
      rw [Spelling.signChars, if_pos rfl, List.singleton_append]
      simp only [bareInteger, htake, hzero, hsome, if_neg hsize, valueOf_toDigits,
        Bool.false_eq_true, if_false, if_true]
  | false =>
      rw [Spelling.signChars, if_neg Bool.false_ne_true, List.nil_append]
      unfold bareInteger
      split
      next negative body heq =>
        split at heq
        · next hminus =>
            have hdigit := hdigits '-' (by rw [hminus]; exact List.mem_cons_self)
            cases hdigit
        · obtain ⟨rfl, rfl⟩ := Prod.mk.inj heq
          simp only [htake, hzero, hsome, if_neg hsize, valueOf_toDigits, Bool.false_eq_true,
            if_false]

/-- The digits of a whole number. -/
def digitCount (n : Int) : Nat :=
  (Nat.toDigits 10 n.natAbs).length

theorem integerOfText_toString {n : Int} (h : digitCount n ≤ digitLimit) :
    integerOfText (toString n) = .ok n := by
  have hchars : (toString n).toList =
      Spelling.signChars (decide (n < 0)) ++ Nat.toDigits 10 n.natAbs := by
    rw [Json.Reader.toList_toString]
    simp [Spelling.chars, Spelling.fractionChars, Spelling.powerChars, Json.Reader.wholeSpelling]
  have hplain := plain_signChars (decide (n < 0)) (allDigits_toDigits n.natAbs)
  have hvalue : (if decide (n < 0) = true then -(n.natAbs : Int) else n.natAbs) = n := by
    simp only [decide_eq_true_eq]
    split <;> omega
  simp only [integerOfText, hchars, hplain.trimList_eq, hplain.withoutPlus_eq, bind, Option.bind,
    withoutLeadingZeros_toDigits, hplain.withoutZeroFraction_eq,
    hplain.withoutInnerUnderscores_eq]
  rw [bareInteger_toDigits _ h, hvalue]

end Candlestick.Data

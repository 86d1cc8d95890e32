import Candlestick.Proofs.Double.Text
import Candlestick.Proofs.Json.Text

/-!
# Reading back a number

The reader takes the whole part, the fraction and the exponent of a spelled number apart as they
were put together, as long as what follows does not go on with the number (`number_chars`). A whole
number is then read as itself unless it has too many digits, a finite double always.
-/

namespace Candlestick.Json

open Numeral

/-- What does not go on with a number. -/
def StopsNumber (cs : List Char) : Prop :=
  ∀ c ∈ cs.head?, c.isDigit = false ∧ c ≠ '.' ∧ c ≠ 'e' ∧ c ≠ 'E'

theorem StopsNumber.stopsDigits {cs : List Char} (h : StopsNumber cs) : StopsDigits cs :=
  fun c hc ↦ (h c hc).1

namespace Reader

variable {s : Spelling} {tail : List Char}

theorem wholePart_chars (h : s.WellFormed) (htail : StopsDigits tail) :
    wholePart (s.whole ++ (s.fractionChars ++ (s.powerChars ++ tail))) = s.whole := by
  have hstops := s.stopsDigits_fractionChars htail
  obtain ⟨d, more, hwhole⟩ := List.exists_cons_of_ne_nil h.whole_ne_nil
  by_cases hzero : d = '0'
  · subst hzero
    rw [h.whole_zero (by rw [hwhole, List.head?_cons])]
    rfl
  · have htake := takeWhile_digits h.whole_digits hstops
    rw [hwhole, List.cons_append] at htake ⊢
    rw [wholePart]
    · exact htake
    · rintro rest ⟨⟩
      exact hzero rfl

theorem fractionPart_chars (h : s.WellFormed) (htail : StopsNumber tail) :
    fractionPart (s.fractionChars ++ (s.powerChars ++ tail)) = s.fractionChars := by
  have hstops := s.stopsDigits_powerChars htail.stopsDigits
  cases hfraction : s.fraction with
  | nil =>
      have hnone : s.fractionChars = [] := by simp [Spelling.fractionChars, hfraction]
      have hpoint : ∀ c ∈ (s.powerChars ++ tail).head?, c ≠ '.' := by
        unfold Spelling.powerChars
        split
        · exact fun c hc ↦ (htail c hc).2.1
        · rintro c ⟨⟩
          decide
      rw [hnone, List.nil_append]
      unfold fractionPart
      split
      · next heq => exact absurd rfl (hpoint '.' (by rw [heq]; rfl))
      · rfl
  | cons d more =>
      have hchars : s.fractionChars = '.' :: d :: more := by
        simp [Spelling.fractionChars, hfraction]
      have hdigits := h.fraction_digits
      rw [hfraction] at hdigits
      obtain ⟨hd, hmore⟩ := List.forall_mem_cons.mp hdigits
      have htake := takeWhile_digits hmore hstops
      simp only [hchars, List.cons_append, fractionPart, hd, if_true, htake]

theorem exponentPart_chars (h : s.WellFormed) (htail : StopsNumber tail) :
    exponentPart (s.powerChars ++ tail) = s.powerChars := by
  cases hpower : s.power with
  | none =>
      have hnone : s.powerChars = [] := by simp [Spelling.powerChars, hpower]
      rw [hnone, List.nil_append]
      cases tail with
      | nil => rfl
      | cons mark rest =>
          obtain ⟨_, _, hlower, hupper⟩ := htail mark rfl
          simp [exponentPart, hlower, hupper]
  | some p =>
      obtain ⟨sign, digits⟩ := p
      have hchars : s.powerChars = 'e' :: sign :: digits := by simp [Spelling.powerChars, hpower]
      obtain ⟨hsome, hdigits⟩ := h.power_digits _ hpower
      have htake := takeWhile_digits hdigits htail.stopsDigits
      rcases h.power_sign _ hpower with rfl | rfl
      · simp [hchars, exponentPart, htake, hsome]
      · simp [hchars, exponentPart, htake, hsome]

theorem splitMinus_signChars (negative : Bool) {c : Char} (hc : c.isDigit = true)
    (rest : List Char) :
    splitMinus (Spelling.signChars negative ++ c :: rest) = (negative, c :: rest) := by
  cases negative with
  | true => rfl
  | false =>
      rw [Spelling.signChars, if_neg Bool.false_ne_true, List.nil_append, splitMinus]
      rintro more ⟨⟩
      cases hc

/-- A spelled number is read as a whole number if it is one, and as its decimal otherwise. -/
theorem number_chars (h : s.WellFormed) (htail : StopsNumber tail) (negative : Bool) (i : Nat) :
    number ⟨Spelling.signChars negative ++ s.chars ++ tail, i⟩ =
      if s.isWhole then
        if digitLimit < s.whole.length then .error (.tooManyDigits s.whole.length)
        else .ok (.int (if negative then -(valueOf s.whole : Int) else valueOf s.whole),
          ⟨tail, i + (Spelling.signChars negative ++ s.chars).length⟩)
      else .ok (.real (s.decimal negative).toDouble,
        ⟨tail, i + (Spelling.signChars negative ++ s.chars).length⟩) := by
  have hsplit : splitMinus (Spelling.signChars negative ++ s.chars ++ tail) =
      (negative, s.chars ++ tail) := by
    obtain ⟨d, rest, hchars, hd⟩ := h.exists_head
    rw [List.append_assoc, hchars, List.cons_append]
    exact splitMinus_signChars negative hd _
  have hassoc : s.chars ++ tail = s.whole ++ (s.fractionChars ++ (s.powerChars ++ tail)) := by
    simp [Spelling.chars]
  have hwhole : wholePart (s.chars ++ tail) = s.whole := by
    rw [hassoc, wholePart_chars h htail.stopsDigits]
  have hfraction : fractionPart ((s.chars ++ tail).drop s.whole.length) = s.fractionChars := by
    rw [hassoc, List.drop_left, fractionPart_chars h htail]
  have hpower : exponentPart ((s.chars ++ tail).drop (s.whole.length + s.fractionChars.length)) =
      s.powerChars := by
    rw [hassoc, ← List.drop_drop, List.drop_left, List.drop_left, exponentPart_chars h htail]
  have hlength : (if negative then 1 else 0) + s.whole.length + s.fractionChars.length +
      s.powerChars.length = (Spelling.signChars negative ++ s.chars).length := by
    cases negative <;> simp [Spelling.signChars, Spelling.chars] <;> omega
  have hsome : s.whole.isEmpty = false := by simpa using h.whole_ne_nil
  have hisWhole : (s.fractionChars.isEmpty && s.powerChars.isEmpty) = s.isWhole := by
    unfold Spelling.fractionChars Spelling.powerChars Spelling.isWhole
    cases s.fraction <;> cases s.power <;> rfl
  have hwritten : (if negative then ['-'] else []) ++ s.whole ++ s.fractionChars ++ s.powerChars =
      Spelling.signChars negative ++ s.chars := by
    simp [Spelling.signChars, Spelling.chars]
  simp only [number, hsplit, hwhole, hfraction, hpower, hsome, hlength, hisWhole, advance_append,
    hwritten, plainDecimal?_chars h, Option.getD_some, Bool.false_eq_true, if_false]

/-! ## Words and numbers -/

/-- What starts like a number is none of the words. -/
theorem scalar_of_isDigit (negative : Bool) {c : Char} (hc : c.isDigit = true) (rest : List Char)
    (i : Nat) : scalar ⟨Spelling.signChars negative ++ c :: rest, i⟩ =
      number ⟨Spelling.signChars negative ++ c :: rest, i⟩ := by
  have hne : ∀ d : Char, d.isDigit = false → (d == c) = false := fun d hd ↦
    beq_eq_false_iff_ne.mpr (ne_of_isDigit hc hd).symm
  have hnone : words.find? (fun w ↦ w.1.isPrefixOf (Spelling.signChars negative ++ c :: rest)) =
      none := by
    rw [List.find?_eq_none]
    -- A word starts with a letter, but for the last one, which has its letter behind a minus.
    have hwords : ∀ w ∈ words, (∃ d more, w.1 = d :: more ∧ d.isDigit = false ∧ d ≠ '-') ∨
        ∃ d more, w.1 = '-' :: d :: more ∧ d.isDigit = false := by
      simp only [words, List.forall_mem_cons]
      refine ⟨Or.inl ⟨'n', _, rfl, rfl, by decide⟩, Or.inl ⟨'t', _, rfl, rfl, by decide⟩,
        Or.inl ⟨'f', _, rfl, rfl, by decide⟩, Or.inl ⟨'N', _, rfl, rfl, by decide⟩,
        Or.inl ⟨'I', _, rfl, rfl, by decide⟩, Or.inr ⟨'I', _, rfl, rfl⟩, ?_⟩
      exact fun _ hnot ↦ nomatch hnot
    intro w hw
    rcases hwords w hw with ⟨d, more, heq, hd, hsign⟩ | ⟨d, more, heq, hd⟩
    · cases negative <;> simp [Spelling.signChars, heq, List.isPrefixOf, hne d hd, hsign]
    · cases negative <;> simp [Spelling.signChars, heq, List.isPrefixOf, hne d hd, hne '-' rfl]
  simp only [scalar]
  rw [hnone]

theorem scalar_chars (h : s.WellFormed) (negative : Bool) (tail : List Char) (i : Nat) :
    scalar ⟨Spelling.signChars negative ++ s.chars ++ tail, i⟩ =
      number ⟨Spelling.signChars negative ++ s.chars ++ tail, i⟩ := by
  obtain ⟨d, rest, hchars, hd⟩ := h.exists_head
  rw [List.append_assoc, hchars, List.cons_append]
  exact scalar_of_isDigit negative hd (rest ++ tail) i

/-- The spelling of a whole number without its sign. -/
def wholeSpelling (n : Nat) : Spelling :=
  ⟨Nat.toDigits 10 n, [], none⟩

theorem wellFormed_wholeSpelling (n : Nat) : (wholeSpelling n).WellFormed := by
  refine ⟨Nat.toDigits_ne_nil, allDigits_toDigits n, ?_, ?_, ?_, ?_⟩
  · intro hzero
    by_cases hn : n = 0
    · rw [wholeSpelling, hn, Nat.toDigits_zero]
    · exact absurd hzero (head?_toDigits hn)
  · simp [wholeSpelling, AllDigits]
  · simp [wholeSpelling]
  · simp [wholeSpelling]

theorem toList_toString (n : Int) : (toString n).toList =
    Spelling.signChars (decide (n < 0)) ++ (wholeSpelling n.natAbs).chars := by
  have hchars : (wholeSpelling n.natAbs).chars = Nat.toDigits 10 n.natAbs := by
    simp [Spelling.chars, Spelling.fractionChars, Spelling.powerChars, wholeSpelling]
  rw [hchars, Int.toString_eq_repr, Int.repr_eq_if, Spelling.signChars]
  by_cases hn : 0 ≤ n
  · have habs : n.toNat = n.natAbs := by omega
    have hsign : ¬ n < 0 := by omega
    simp [hn, habs, hsign]
  · have habs : (-n).toNat = n.natAbs := by omega
    have hsign : n < 0 := by omega
    simp [hn, habs, hsign]

/-- A whole number is read back as itself, unless it has too many digits. -/
theorem scalar_int (n : Int) {tail : List Char} (htail : StopsNumber tail) (i : Nat) :
    scalar ⟨(toString n).toList ++ tail, i⟩ =
      if digitLimit < (Nat.toDigits 10 n.natAbs).length then
        .error (.tooManyDigits (Nat.toDigits 10 n.natAbs).length)
      else .ok (.int n, ⟨tail, i + (toString n).toList.length⟩) := by
  have hs := wellFormed_wholeSpelling n.natAbs
  have hvalue : (if decide (n < 0) then -(valueOf (wholeSpelling n.natAbs).whole : Int)
      else valueOf (wholeSpelling n.natAbs).whole) = n := by
    simp only [wholeSpelling, valueOf_toDigits, decide_eq_true_eq]
    split <;> omega
  rw [toList_toString, scalar_chars hs, number_chars hs htail, hvalue]
  rfl

/-- A double is read back as itself. -/
theorem scalar_real (x : Double) {tail : List Char} (htail : StopsNumber tail) (i : Nat) :
    scalar ⟨(numberStyle.text x).toList ++ tail, i⟩ =
      .ok (.real x, ⟨tail, i + (numberStyle.text x).toList.length⟩) := by
  cases x with
  | finite negative m =>
      obtain ⟨s, hs, hreal, hsign, hvalue⟩ := numberStyle.exists_spelling_text negative m
      rw [hsign, scalar_chars hs, number_chars hs htail, hreal, hvalue]
      rfl
  | infinite negative =>
      cases negative <;> rfl
  | nan => rfl

end Reader

end Candlestick.Json

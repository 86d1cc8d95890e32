import Candlestick.Symbol
import Mathlib.Data.List.Basic

/-!
# Upper case is final

What the upper-case mapping puts in the place of a character stays when the mapping is applied
again, and is not blank. Both are facts about the two tables, checked range against range: the
images of a run lie beside the sources of another one or, where both take every second character,
between them.
-/

namespace Candlestick.Text

namespace Uppercase

/-- The places of the blank characters, as pairs of a first and a last one. -/
def blanks : List (Nat × Nat) :=
  [(9, 13), (28, 32), (133, 133), (160, 160), (5760, 5760), (8192, 8202), (8232, 8233),
    (8239, 8239), (8287, 8287), (12288, 12288)]

theorem exists_blanks_of_isBlank {c : Char} (h : isBlank c = true) :
    ∃ b ∈ blanks, b.1 ≤ c.toNat ∧ c.toNat ≤ b.2 := by
  simp only [isBlank, isWhiteSpace, Bool.or_eq_true, Bool.and_eq_true, decide_eq_true_eq,
    beq_iff_eq] at h
  simp only [blanks, List.exists_mem_cons_iff, List.not_mem_nil, false_and, exists_false, or_false]
  omega

/-! ## The check of the tables -/

/-- Whether a range of numbers, or every second one of them, keeps clear of a run. The comparisons
are spelled `Nat.blt` because the kernel carries them out. -/
def clears (low high : Nat) (alternating : Bool) : Nat × Nat × Nat × Nat → Bool
  | (first, last, step, _) =>
    Nat.blt high first || Nat.blt last low || (alternating && step == 2 && (low + first) % 2 == 1)

/-- What is checked of a range of images: they are characters, and neither sources nor blank. -/
def isFinal (low high : Nat) (alternating : Bool) : Bool :=
  (Nat.blt high 0xD800 || (Nat.blt 0xDFFF low && Nat.blt high 0x110000)) &&
    runs.all (clears low high alternating) &&
    expansions.all (fun (n, _) ↦ Nat.blt high n || Nat.blt n low) &&
    blanks.all (fun (first, last) ↦ Nat.blt high first || Nat.blt last low)

theorem isFinal_of_mem_runs : ∀ r ∈ runs,
    isFinal r.2.2.2 (r.2.2.2 + (r.2.1 - r.1)) (r.2.2.1 == 2 || r.1 == r.2.1) = true := by
  decide +kernel

theorem isFinal_of_mem_expansions :
    ∀ x ∈ expansions, x.2 ≠ [] ∧ ∀ n ∈ x.2, isFinal n n true = true := by
  decide +kernel

/-- A character that stays and is not blank. -/
structure Final (c : Char) : Prop where
  stays : ofChar c = [c]
  not_blank : isBlank c = false

theorem not_covers_of_clears {low high n : Nat} {alternating : Bool} {r : Nat × Nat × Nat × Nat}
    (h : clears low high alternating r = true) (hlow : low ≤ n) (hhigh : n ≤ high)
    (hstep : alternating = true → (n - low) % 2 = 0) : covers n r = false := by
  obtain ⟨first, last, step, image⟩ := r
  simp only [clears, Bool.or_eq_true, Bool.and_eq_true, Nat.blt_eq, beq_iff_eq] at h
  simp only [covers, Bool.and_eq_false_iff, decide_eq_false_iff_not, beq_eq_false_iff_ne]
  rcases h with (hbefore | hafter) | ⟨⟨halternating, rfl⟩, hodd⟩
  · omega
  · omega
  · have heven := hstep halternating
    omega

theorem final_of_isFinal {low high n : Nat} {alternating : Bool}
    (h : isFinal low high alternating = true) (hlow : low ≤ n) (hhigh : n ≤ high)
    (hstep : alternating = true → (n - low) % 2 = 0) : Final (Char.ofNat n) := by
  simp only [isFinal, Bool.and_eq_true, Bool.or_eq_true, Nat.blt_eq, List.all_eq_true] at h
  obtain ⟨⟨⟨hvalid, hruns⟩, hexpansions⟩, hblanks⟩ := h
  have hchar : n.isValidChar := by
    rcases hvalid with hless | ⟨hmore, hless⟩
    · exact Or.inl (by omega)
    · exact Or.inr ⟨by omega, by omega⟩
  have htoNat : (Char.ofNat n).toNat = n := by
    rw [Char.ofNat, dif_pos hchar]
    rfl
  refine ⟨?_, ?_⟩
  · have hrun : runs.find? (covers n) = none := by
      rw [List.find?_eq_none]
      intro r hr
      rw [not_covers_of_clears (hruns r hr) hlow hhigh hstep]
      exact Bool.false_ne_true
    have hexpansion : expansions.lookup n = none := by
      rw [List.lookup_eq_none_iff]
      intro x hx
      have hbeside := hexpansions x hx
      rw [bne_iff_ne]
      omega
    simp only [ofChar, htoNat, hrun, hexpansion]
  · rw [Bool.eq_false_iff]
    intro hblank
    obtain ⟨b, hb, hfirst, hlast⟩ := exists_blanks_of_isBlank hblank
    have hbeside := hblanks b hb
    omega

theorem ofChar_cases (c : Char) :
    ofChar c = [c] ∨
    (∃ r ∈ runs, covers c.toNat r = true ∧
      ofChar c = [Char.ofNat (r.2.2.2 + (c.toNat - r.1))]) ∨
    ∃ x ∈ expansions, ofChar c = x.2.map Char.ofNat := by
  cases hrun : runs.find? (covers c.toNat) with
  | some r =>
      have himage : ofChar c = [Char.ofNat (r.2.2.2 + (c.toNat - r.1))] := by
        simp only [ofChar, hrun]
      exact Or.inr (Or.inl ⟨r, List.mem_of_find?_eq_some hrun, List.find?_some hrun, himage⟩)
  | none =>
      cases hexpansion : expansions.lookup c.toNat with
      | none =>
          have himage : ofChar c = [c] := by
            simp only [ofChar, hrun, hexpansion]
          exact Or.inl himage
      | some images =>
          have himage : ofChar c = images.map Char.ofNat := by
            simp only [ofChar, hrun, hexpansion]
          obtain ⟨before, after, heq, _⟩ := List.lookup_eq_some_iff.mp hexpansion
          have hmem : (c.toNat, images) ∈ expansions := by
            rw [heq]
            exact List.mem_append_right before List.mem_cons_self
          exact Or.inr (Or.inr ⟨_, hmem, himage⟩)

theorem eq_self_or_final (c : Char) :
    ofChar c = [c] ∨ (ofChar c ≠ [] ∧ ∀ d ∈ ofChar c, Final d) := by
  rcases ofChar_cases c with hself | ⟨r, hr, hcovers, himage⟩ | ⟨x, hx, himage⟩
  · exact Or.inl hself
  · right
    obtain ⟨first, last, step, image⟩ := r
    simp only [covers, Bool.and_eq_true, decide_eq_true_eq, beq_iff_eq] at hcovers
    obtain ⟨⟨hfirst, hlast⟩, hstep⟩ := hcovers
    rw [himage]
    refine ⟨List.cons_ne_nil _ _, ?_⟩
    intro d hd
    rw [List.mem_singleton.mp hd]
    refine final_of_isFinal (isFinal_of_mem_runs _ hr) (by simp) (by simp; omega) ?_
    simp only [Bool.or_eq_true, beq_iff_eq]
    rintro (rfl | rfl)
    · omega
    · omega
  · right
    obtain ⟨hsome, hfinal⟩ := isFinal_of_mem_expansions x hx
    rw [himage]
    refine ⟨by simpa using hsome, ?_⟩
    intro d hd
    obtain ⟨n, hn, rfl⟩ := List.mem_map.mp hd
    exact final_of_isFinal (hfinal n hn) (Nat.le_refl n) (Nat.le_refl n) (by simp)

theorem ofChar_ne_nil (c : Char) : ofChar c ≠ [] := by
  rcases eq_self_or_final c with hself | ⟨hsome, _⟩
  · rw [hself]
    exact List.cons_ne_nil c []
  · exact hsome

theorem ofChar_of_mem {c d : Char} (h : d ∈ ofChar c) : ofChar d = [d] := by
  rcases eq_self_or_final c with hself | ⟨_, hfinal⟩
  · rw [hself] at h
    rw [List.mem_singleton.mp h, hself]
  · exact (hfinal d h).stays

theorem isBlank_of_mem_ofChar {c d : Char} (hc : isBlank c = false) (h : d ∈ ofChar c) :
    isBlank d = false := by
  rcases eq_self_or_final c with hself | ⟨_, hfinal⟩
  · rw [hself] at h
    rw [List.mem_singleton.mp h, hc]
  · exact (hfinal d h).not_blank

end Uppercase

/-- Upper case is not changed by putting it in upper case. -/
theorem upper_upper (text : String) : upper (upper text) = upper text := by
  have hstays : ∀ cs : List Char, (∀ c ∈ cs, Uppercase.ofChar c = [c]) →
      cs.flatMap Uppercase.ofChar = cs := by
    intro cs hcs
    induction cs with
    | nil => rfl
    | cons c rest ih =>
        obtain ⟨hc, hrest⟩ := List.forall_mem_cons.mp hcs
        rw [List.flatMap_cons, hc, ih hrest, List.singleton_append]
  unfold upper
  rw [String.toList_ofList, hstays]
  intro d hd
  obtain ⟨c, _, hdc⟩ := List.mem_flatMap.mp hd
  exact Uppercase.ofChar_of_mem hdc

end Candlestick.Text

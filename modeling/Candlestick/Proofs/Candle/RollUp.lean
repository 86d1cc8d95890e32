import Candlestick.Proofs.Candle.Summary
import Mathlib

/-!
# Candles of candles

A candle rolls up a row of candles if it opens with the first and closes with the last of them,
spans their range and counts what they count together (`Candle.RollsUp`). The candle of a longer
bucket does so for the candles of the shorter buckets within it, provided that the ticks of these
one after the other are the ticks of the long one (`Candle.SumsUp.rollsUp`). For ticks in the order
of their buckets that is so (`flatMap_filter_eq_self`).
-/

namespace Candlestick

/-- The candle that several candles in a row make together. -/
structure Candle.RollsUp (c : Candle) (parts : List Candle) : Prop where
  opening_eq : parts.head?.map Candle.opening = some c.opening
  closing_eq : parts.getLast?.map Candle.closing = some c.closing
  high_mem : c.high ∈ parts.map Candle.high
  le_high : ∀ d ∈ parts, d.high ≤ c.high
  low_mem : c.low ∈ parts.map Candle.low
  low_le : ∀ d ∈ parts, c.low ≤ d.low
  volume_eq : c.volume = (parts.map Candle.volume).sum

theorem Candle.RollsUp.ne_nil {c : Candle} {parts : List Candle} (h : c.RollsUp parts) :
    parts ≠ [] := by
  rintro rfl
  cases h.opening_eq

namespace Candle.SumsUp

variable {c : Candle} {bucket : Int} {parts : List Candle}
  {ticks : Candle → List Tick}

theorem exists_part {price : Double} (h : price ∈ (parts.flatMap ticks).map Tick.mid) :
    ∃ d ∈ parts, price ∈ (ticks d).map Tick.mid := by
  rw [List.map_flatMap] at h
  exact List.mem_flatMap.mp h

theorem mem_of_part {d : Candle} (hd : d ∈ parts) {price : Double}
    (h : price ∈ (ticks d).map Tick.mid) : price ∈ (parts.flatMap ticks).map Tick.mid := by
  rw [List.map_flatMap]
  exact List.mem_flatMap.mpr ⟨d, hd, h⟩

theorem volume_flatMap (hparts : ∀ d ∈ parts, d.SumsUp d.bucketStart (ticks d)) :
    ((parts.flatMap ticks).length : Int) = (parts.map Candle.volume).sum := by
  induction parts with
  | nil => rfl
  | cons d rest ih =>
      rw [List.flatMap_cons, List.length_append, List.map_cons, List.sum_cons, Int.natCast_add,
        ih fun e he ↦ hparts e (List.mem_cons_of_mem d he),
        (hparts d List.mem_cons_self).volume_eq]

/-- A summary of the ticks of several candles, one after the other, rolls up these candles. -/
theorem rollsUp (h : c.SumsUp bucket (parts.flatMap ticks))
    (hparts : ∀ d ∈ parts, d.SumsUp d.bucketStart (ticks d)) : c.RollsUp parts := by
  refine ⟨?_, ?_, ?_, ?_, ?_, ?_, ?_⟩
  · -- The first tick of all is the first one of the first part.
    have hopening := h.prices.opening_eq
    cases parts with
    | nil => cases hopening
    | cons first rest =>
        have hfirst := (hparts first List.mem_cons_self).prices.opening_eq
        rw [List.flatMap_cons, List.map_append, List.head?_append, hfirst,
          Option.some_or] at hopening
        exact hopening
  · have hclosing := h.prices.closing_eq
    rcases List.eq_nil_or_concat parts with rfl | ⟨rest, last, rfl⟩
    · cases hclosing
    · have hlast := (hparts last (by simp)).prices.closing_eq
      rw [List.concat_eq_append, List.flatMap_append, List.flatMap_singleton, List.map_append,
        List.getLast?_append, hlast, Option.some_or] at hclosing
      rw [List.concat_eq_append, List.getLast?_concat]
      exact hclosing
  · -- The highest price of all lies in some part, and no part reaches beyond it.
    obtain ⟨d, hd, hprice⟩ := exists_part h.prices.high_mem
    have hsum := (hparts d hd).prices
    have heq : d.high = c.high :=
      Double.le_antisymm (Tick.pos_of_mem_map_mid hsum.high_mem)
        (Tick.pos_of_mem_map_mid hprice) (h.prices.le_high _ (mem_of_part hd hsum.high_mem))
        (hsum.le_high _ hprice)
    exact List.mem_map.mpr ⟨d, hd, heq⟩
  · exact fun d hd ↦ h.prices.le_high _ (mem_of_part hd (hparts d hd).prices.high_mem)
  · obtain ⟨d, hd, hprice⟩ := exists_part h.prices.low_mem
    have hsum := (hparts d hd).prices
    have heq : d.low = c.low :=
      Double.le_antisymm (Tick.pos_of_mem_map_mid hsum.low_mem)
        (Tick.pos_of_mem_map_mid hprice) (hsum.low_le _ hprice)
        (h.prices.low_le _ (mem_of_part hd hsum.low_mem))
    exact List.mem_map.mpr ⟨d, hd, heq⟩
  · exact fun d hd ↦ h.prices.low_le _ (mem_of_part hd (hparts d hd).prices.low_mem)
  · rw [h.volume_eq, volume_flatMap hparts]

end Candle.SumsUp

/-! ## Grouping what comes in order -/

section Grouping

variable {α : Type} {k : α → Int} {xs : List α}

theorem filter_append_filter_of_le {first : Int} (hsorted : xs.Pairwise fun x y ↦ k x ≤ k y)
    (hfirst : ∀ x ∈ xs, first ≤ k x) :
    (xs.filter fun x ↦ k x = first) ++ (xs.filter fun x ↦ k x ≠ first) = xs := by
  induction xs with
  | nil => rfl
  | cons x rest ih =>
      obtain ⟨hle, hrest⟩ := List.pairwise_cons.mp hsorted
      by_cases hx : k x = first
      · have hlater := ih hrest fun y hy ↦ hfirst y (List.mem_cons_of_mem x hy)
        rw [List.filter_cons_of_pos (by simpa using hx),
          List.filter_cons_of_neg (by simpa using hx), List.cons_append, hlater]
      · -- Everything that follows lies beyond the first group as well.
        have hbeyond : ∀ y ∈ x :: rest, k y ≠ first := by
          intro y hy heq
          have hxfirst := hfirst x List.mem_cons_self
          rcases List.mem_cons.mp hy with rfl | hmem
          · exact hx heq
          · have hxy := hle y hmem
            omega
        have hnone : ((x :: rest).filter fun y ↦ k y = first) = [] :=
          List.filter_eq_nil_iff.mpr fun y hy heq ↦ hbeyond y hy (of_decide_eq_true heq)
        have hall : ((x :: rest).filter fun y ↦ k y ≠ first) = x :: rest :=
          List.filter_eq_self.mpr fun y hy ↦ decide_eq_true (hbeyond y hy)
        rw [hnone, hall, List.nil_append]

/-- What comes in the order of its groups is the groups one after the other. -/
theorem flatMap_filter_eq_self {groups : List Int} (hgroups : groups.Pairwise (· < ·))
    (hsorted : xs.Pairwise fun x y ↦ k x ≤ k y) (hmem : ∀ x ∈ xs, k x ∈ groups) :
    (groups.flatMap fun group ↦ xs.filter fun x ↦ k x = group) = xs := by
  induction groups generalizing xs with
  | nil =>
      cases xs with
      | nil => rfl
      | cons x rest => cases hmem x List.mem_cons_self
  | cons first later ih =>
      obtain ⟨hlt, hlater⟩ := List.pairwise_cons.mp hgroups
      have hfirst : ∀ x ∈ xs, first ≤ k x := by
        intro x hx
        rcases List.mem_cons.mp (hmem x hx) with heq | hgroup
        · exact Int.le_of_eq heq.symm
        · exact Int.le_of_lt (hlt _ hgroup)
      have hothers : ∀ x ∈ xs.filter fun x ↦ k x ≠ first, k x ∈ later := by
        intro x hx
        obtain ⟨hxs, hne⟩ := List.mem_filter.mp hx
        exact (List.mem_cons.mp (hmem x hxs)).resolve_left (of_decide_eq_true hne)
      have hrest := ih hlater (hsorted.filter _) hothers
      have hsame : (later.flatMap fun group ↦ xs.filter fun x ↦ k x = group) =
          later.flatMap fun group ↦
            (xs.filter fun x ↦ k x ≠ first).filter fun x ↦ k x = group := by
        refine List.flatMap_congr ?_
        intro group hgroup
        rw [List.filter_filter]
        refine List.filter_congr ?_
        intro x _
        have hne : k x = group → k x ≠ first := fun heq ↦ heq ▸ Int.ne_of_gt (hlt group hgroup)
        simpa using hne
      rw [List.flatMap_cons, hsame, hrest]
      exact filter_append_filter_of_le hsorted hfirst

end Grouping

end Candlestick

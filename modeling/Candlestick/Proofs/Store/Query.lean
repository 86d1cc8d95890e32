import Candlestick.Proofs.Store.Saves
import Candlestick.Proofs.Text.Ordered

/-!
# What a query finds

Every stored candle is found under its own start (`Filed`), because that is where saves put it.
A query then gives the stored candles of its range (`mem_query_iff`), each of them once and in the
order of their starts (`pairwise_query`). The known symbols are those of the stored candles
(`mem_symbols_iff`).
-/

namespace Candlestick.Store

/-- Every candle is stored under its own start. -/
def Filed (s : Store) : Prop :=
  ∀ key c, s.get? key = some c → c.bucketStart = key.bucketStart

theorem filed_empty : empty.Filed := by
  intro key c h
  cases h

theorem Filed.save {s : Store} (h : s.Filed) (symbol label : String) (candle : Candle) :
    (s.save symbol label candle).Filed := by
  intro key c hc
  rw [get?_save] at hc
  split at hc
  · next hkey =>
      cases hc
      rw [← hkey]
      rfl
  · exact h key c hc

/-! ## Sorting -/

theorem insertByStart_eq_orderedInsert (candle : Candle) (candles : List Candle) :
    insertByStart candle candles =
      candles.orderedInsert (fun a b ↦ a.bucketStart ≤ b.bucketStart) candle := by
  induction candles with
  | nil => rfl
  | cons other rest ih => rw [insertByStart, List.orderedInsert_cons, ih]

theorem sortByStart_eq_insertionSort (candles : List Candle) :
    sortByStart candles =
      candles.insertionSort fun a b ↦ a.bucketStart ≤ b.bucketStart := by
  induction candles with
  | nil => rfl
  | cons candle rest ih =>
      rw [List.insertionSort_cons, ← ih, ← insertByStart_eq_orderedInsert]
      rfl

theorem pairwise_sortByStart (candles : List Candle) :
    (sortByStart candles).Pairwise fun a b ↦ a.bucketStart ≤ b.bucketStart := by
  have htotal : Std.Total fun a b : Candle ↦ a.bucketStart ≤ b.bucketStart :=
    ⟨fun a b ↦ Int.le_total a.bucketStart b.bucketStart⟩
  have htrans : IsTrans Candle fun a b ↦ a.bucketStart ≤ b.bucketStart :=
    ⟨fun _ _ _ ↦ Int.le_trans⟩
  rw [sortByStart_eq_insertionSort]
  exact List.pairwise_insertionSort _ candles

/-! ## Queries -/

variable {s : Store} {symbol label : String} {first last : Int}

theorem covers_iff {key : CandleKey} :
    covers symbol label first last key = true ↔
      key.symbol = symbol ∧ key.label = label ∧ first ≤ key.bucketStart ∧
        key.bucketStart ≤ last := by
  simp [covers, and_assoc]

theorem mem_query_iff (c : Candle) :
    c ∈ s.query symbol label first last ↔
      ∃ start, first ≤ start ∧ start ≤ last ∧ s.get? ⟨symbol, label, start⟩ = some c := by
  rw [query, (sortByStart_perm _).mem_iff, List.mem_map]
  constructor
  · rintro ⟨⟨⟨symbol', label', start⟩, _⟩, hentry, rfl⟩
    obtain ⟨hmem, hcovers⟩ := List.mem_filter.mp hentry
    obtain ⟨rfl, rfl, hfirst, hlast⟩ := covers_iff.mp hcovers
    exact ⟨start, hfirst, hlast, Keyed.mem_entries_iff.mp hmem⟩
  · rintro ⟨start, hfirst, hlast, hfound⟩
    exact ⟨(⟨symbol, label, start⟩, c), List.mem_filter.mpr
      ⟨Keyed.mem_entries_iff.mpr hfound, covers_iff.mpr ⟨rfl, rfl, hfirst, hlast⟩⟩, rfl⟩

/-- No two candles of a query start together, and the earlier one comes first. -/
theorem Filed.pairwise_query (h : s.Filed) (symbol label : String) (first last : Int) :
    (s.query symbol label first last).Pairwise fun a b ↦ a.bucketStart < b.bucketStart := by
  have hkeys : (s.candles.entries.filter fun entry ↦
      covers symbol label first last entry.1).Pairwise fun a b ↦ a.1 ≠ b.1 :=
    (List.pairwise_map.mp s.candles.nodup).filter _
  -- The keys of a query differ in nothing but the start.
  have hstarts : ((s.candles.entries.filter fun entry ↦
      covers symbol label first last entry.1).map Prod.snd).Pairwise
        fun a b ↦ a.bucketStart ≠ b.bucketStart := by
    refine List.pairwise_map.mpr (hkeys.imp_of_mem ?_)
    rintro ⟨⟨symbol₁, label₁, start₁⟩, c⟩ ⟨⟨symbol₂, label₂, start₂⟩, d⟩ ha hb hne heq
    obtain ⟨hmem₁, hcovers₁⟩ := List.mem_filter.mp ha
    obtain ⟨hmem₂, hcovers₂⟩ := List.mem_filter.mp hb
    obtain ⟨rfl, rfl, _⟩ := covers_iff.mp hcovers₁
    obtain ⟨rfl, rfl, _⟩ := covers_iff.mp hcovers₂
    have hc : c.bucketStart = start₁ := h _ c (Keyed.mem_entries_iff.mp hmem₁)
    have hd : d.bucketStart = start₂ := h _ d (Keyed.mem_entries_iff.mp hmem₂)
    obtain rfl : start₁ = start₂ := hc.symm.trans (heq.trans hd)
    exact hne rfl
  have hdistinct : (s.query symbol label first last).Pairwise
      fun a b ↦ a.bucketStart ≠ b.bucketStart :=
    ((sortByStart_perm _).pairwise_iff fun hab ↦ hab.symm).mpr hstarts
  refine ((pairwise_sortByStart _).and hdistinct).imp ?_
  rintro a b ⟨hle, hne⟩
  exact lt_of_le_of_ne hle hne

/-! ## Symbols -/

theorem mem_symbols_iff {s : Store} {symbol : String} :
    symbol ∈ s.symbols ↔ ∃ label start c, s.get? ⟨symbol, label, start⟩ = some c := by
  rw [symbols, Text.mem_distinctAscending, List.mem_map]
  constructor
  · rintro ⟨⟨_, label, start⟩, hkey, rfl⟩
    exact ⟨label, start, Keyed.mem_keys_iff.mp hkey⟩
  · rintro ⟨label, start, hstored⟩
    exact ⟨⟨symbol, label, start⟩, Keyed.mem_keys_iff.mpr hstored, rfl⟩

end Candlestick.Store

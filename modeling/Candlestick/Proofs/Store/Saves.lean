import Candlestick.Proofs.Keyed.Restriction
import Candlestick.Store

/-!
# Rows of saves

The part of a store under one symbol and label is a store again (`only`), and a save under another
symbol or label leaves it as it is. What a row of saves does to such a part is told in two ways:
`get?_saveAll_empty_iff` says which candles are found afterwards when no two of them start
together, and `values_saveAll_perm` that a saved candle either stays or is later taken out by
another one.
-/

namespace Candlestick.Store

/-- Whether a key is of the given symbol and label. -/
def isOf (symbol label : String) (key : CandleKey) : Bool :=
  key.symbol == symbol && key.label == label

/-- The part of a store under one symbol and label. -/
def only (s : Store) (symbol label : String) : Store :=
  ⟨s.candles.restrict (isOf symbol label)⟩

/-- Saves several candles under one symbol and label, one after the other. -/
def saveAll (symbol label : String) (s : Store) (candles : List Candle) : Store :=
  candles.foldl (fun s candle ↦ s.save symbol label candle) s

/-- The stored candles that such a row of saves takes out of the store: for each save the one that
was there before. -/
def replaced (symbol label : String) : Store → List Candle → List Candle
  | _, [] => []
  | s, candle :: rest =>
    (s.get? (keyOf symbol label candle)).toList ++
      replaced symbol label (s.save symbol label candle) rest

/-- The sum of the volumes of all candles under a symbol and label. -/
def volume (s : Store) (symbol label : String) : Int :=
  ((s.history symbol label).map Candle.volume).sum

variable {symbol label : String}

theorem isOf_iff {key : CandleKey} :
    isOf symbol label key = true ↔ key.symbol = symbol ∧ key.label = label := by
  simp [isOf]

theorem get?_only (s : Store) (key : CandleKey) :
    (s.only symbol label).get? key = if isOf symbol label key then s.get? key else none :=
  Keyed.get?_restrict _ _ _

theorem get?_only_self (s : Store) (symbol label : String) (start : Int) :
    (s.only symbol label).get? ⟨symbol, label, start⟩ = s.get? ⟨symbol, label, start⟩ := by
  rw [get?_only]
  exact if_pos (isOf_iff.mpr ⟨rfl, rfl⟩)

theorem only_save_self (s : Store) (candle : Candle) :
    (s.save symbol label candle).only symbol label =
      (s.only symbol label).save symbol label candle := by
  have hkey : isOf symbol label (keyOf symbol label candle) = true := isOf_iff.mpr ⟨rfl, rfl⟩
  unfold only save
  rw [Keyed.restrict_put, if_pos hkey]

theorem only_save_other (s : Store) {symbol' label' : String} (candle : Candle)
    (h : ¬ (symbol' = symbol ∧ label' = label)) :
    (s.save symbol' label' candle).only symbol label = s.only symbol label := by
  have hkey : ¬ isOf symbol label (keyOf symbol' label' candle) = true := fun e ↦ h (isOf_iff.mp e)
  unfold only save
  rw [Keyed.restrict_put, if_neg hkey]

@[simp] theorem saveAll_nil (s : Store) : saveAll symbol label s [] = s :=
  rfl

@[simp] theorem saveAll_cons (s : Store) (candle : Candle) (rest : List Candle) :
    saveAll symbol label s (candle :: rest) =
      saveAll symbol label (s.save symbol label candle) rest :=
  rfl

/-! ## What is found after a row of saves -/

theorem get?_saveAll_of_not_mem {s : Store} {candles : List Candle} {start : Int}
    (h : start ∉ candles.map Candle.bucketStart) :
    (saveAll symbol label s candles).get? ⟨symbol, label, start⟩ =
      s.get? ⟨symbol, label, start⟩ := by
  induction candles generalizing s with
  | nil => rfl
  | cons candle rest ih =>
      rw [List.map_cons, List.mem_cons, not_or] at h
      obtain ⟨hother, hrest⟩ := h
      have hkey : ¬ keyOf symbol label candle = ⟨symbol, label, start⟩ :=
        fun e ↦ hother (congrArg CandleKey.bucketStart e).symm
      rw [saveAll_cons, ih hrest, get?_save, if_neg hkey]

/-- Of candles that start at different times each is found under its own start. -/
theorem get?_saveAll_of_mem {s : Store} {candles : List Candle}
    (h : (candles.map Candle.bucketStart).Nodup) {c : Candle} (hc : c ∈ candles) :
    (saveAll symbol label s candles).get? ⟨symbol, label, c.bucketStart⟩ = some c := by
  induction candles generalizing s with
  | nil => cases hc
  | cons candle rest ih =>
      obtain ⟨hfresh, hrest⟩ := List.nodup_cons.mp h
      rw [saveAll_cons]
      rcases List.mem_cons.mp hc with rfl | hmem
      · rw [get?_saveAll_of_not_mem hfresh, get?_save]
        exact if_pos rfl
      · exact ih hrest hmem

/-- What such a row of saves makes of an empty store. -/
theorem get?_saveAll_empty_iff {candles : List Candle}
    (h : (candles.map Candle.bucketStart).Nodup) (start : Int) (c : Candle) :
    (saveAll symbol label empty candles).get? ⟨symbol, label, start⟩ = some c ↔
      c ∈ candles ∧ c.bucketStart = start := by
  constructor
  · intro hfound
    by_cases hstart : start ∈ candles.map Candle.bucketStart
    · obtain ⟨d, hd, rfl⟩ := List.mem_map.mp hstart
      rw [get?_saveAll_of_mem h hd] at hfound
      cases hfound
      exact ⟨hd, rfl⟩
    · rw [get?_saveAll_of_not_mem hstart, get?_empty] at hfound
      cases hfound
  · rintro ⟨hc, rfl⟩
    exact get?_saveAll_of_mem h hc

/-! ## What a row of saves costs -/

theorem values_saveAll_perm (symbol label : String) (s : Store) (candles : List Candle) :
    ((saveAll symbol label s candles).candles.values ++ replaced symbol label s candles).Perm
      (s.candles.values ++ candles) := by
  induction candles generalizing s with
  | nil => simp [replaced]
  | cons candle rest ih =>
      have hput := s.candles.values_put_perm (keyOf symbol label candle) candle
      rw [saveAll_cons, replaced]
      have hout : (replaced symbol label (s.save symbol label candle) rest ++
          (s.get? (keyOf symbol label candle)).toList).Perm
            ((s.get? (keyOf symbol label candle)).toList ++
              replaced symbol label (s.save symbol label candle) rest) :=
        List.perm_append_comm
      have hlater := (ih (s.save symbol label candle)).append_right
        (s.get? (keyOf symbol label candle)).toList
      have hnow := hput.append_right rest
      have hswap : (rest ++ (s.get? (keyOf symbol label candle)).toList).Perm
          ((s.get? (keyOf symbol label candle)).toList ++ rest) :=
        List.perm_append_comm
      simp only [List.append_assoc, List.singleton_append] at hlater hnow
      -- What the first save takes out changes places with what the later ones take out.
      exact (hout.symm.append_left _).trans (hlater.trans ((hswap.append_left _).trans hnow))

/-- Nothing is taken out exactly when the candles start at different times, none of which is taken
already. -/
theorem replaced_eq_nil_iff {s : Store} {candles : List Candle} :
    replaced symbol label s candles = [] ↔ (candles.map Candle.bucketStart).Nodup ∧
      ∀ c ∈ candles, s.get? (keyOf symbol label c) = none := by
  induction candles generalizing s with
  | nil => simp [replaced]
  | cons candle rest ih =>
      rw [replaced, List.append_eq_nil_iff, ih, Option.toList_eq_nil_iff]
      have hkey : ∀ c : Candle, keyOf symbol label candle = keyOf symbol label c ↔
          candle.bucketStart = c.bucketStart := by
        intro c
        simp [keyOf]
      simp only [get?_save, hkey, List.map_cons, List.nodup_cons, List.forall_mem_cons]
      constructor
      · rintro ⟨hfree, hrest, hothers⟩
        refine ⟨⟨?_, hrest⟩, hfree, ?_⟩
        · intro hmem
          obtain ⟨c, hc, heq⟩ := List.mem_map.mp hmem
          have hnone := hothers c hc
          rw [if_pos heq.symm] at hnone
          cases hnone
        · intro c hc
          have hnone := hothers c hc
          split at hnone
          · cases hnone
          · exact hnone
      · rintro ⟨⟨hfresh, hrest⟩, hfree, hothers⟩
        refine ⟨hfree, hrest, ?_⟩
        intro c hc
        have hne : ¬ candle.bucketStart = c.bucketStart :=
          fun e ↦ hfresh (List.mem_map.mpr ⟨c, hc, e.symm⟩)
        rw [if_neg hne]
        exact hothers c hc

/-! ## Histories -/

theorem insertByStart_perm (candle : Candle) (candles : List Candle) :
    (insertByStart candle candles).Perm (candle :: candles) := by
  induction candles with
  | nil => exact List.Perm.refl _
  | cons other rest ih =>
      unfold insertByStart
      split
      · exact List.Perm.refl _
      · exact (ih.cons other).trans (List.Perm.swap candle other rest)

theorem sortByStart_perm (candles : List Candle) : (sortByStart candles).Perm candles := by
  induction candles with
  | nil => exact List.Perm.refl _
  | cons candle rest ih => exact (insertByStart_perm candle _).trans (ih.cons candle)

theorem history_perm (s : Store) (symbol label : String) :
    (s.history symbol label).Perm (s.only symbol label).candles.values :=
  sortByStart_perm _

/-- The volumes under a symbol and label are those of what was saved there, less those of the
candles that were taken out again. -/
theorem volume_add_replaced {s : Store} {candles : List Candle}
    (h : s.only symbol label = saveAll symbol label empty candles) :
    s.volume symbol label + ((replaced symbol label empty candles).map Candle.volume).sum =
      (candles.map Candle.volume).sum := by
  have hperm := values_saveAll_perm symbol label empty candles
  rw [← h] at hperm
  have hsum := (hperm.map Candle.volume).sum_eq
  have hhistory := ((s.history_perm symbol label).map Candle.volume).sum_eq
  simp only [List.map_append, List.sum_append] at hsum
  rw [volume, hhistory, hsum]
  exact zero_add _

end Candlestick.Store

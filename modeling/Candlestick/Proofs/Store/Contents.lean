import Candlestick.Proofs.Store.Query

/-!
# A store is the map of the last saves

What a store holds is told by its past alone. Under a key there is the candle that was last saved
under it since the store was last cleared (`get?_run`); no other call leaves a trace. Queries, the
number of candles and the known symbols are read off this map (`run_refines_latest`), so a save is
seen by those queries only that cover its key (`query_save_of_not_covers`).
-/

namespace Candlestick.Store

/-- The calls that change a store. -/
inductive Call where
  | save (symbol label : String) (candle : Candle)
  | clear
deriving DecidableEq

def perform (s : Store) : Call → Store
  | .save symbol label candle => s.save symbol label candle
  | .clear => s.clear

def run (s : Store) (calls : List Call) : Store :=
  calls.foldl perform s

def Call.saved? (key : CandleKey) : Call → Option Candle
  | .save symbol label candle =>
    if (⟨symbol, label, candle.bucketStart⟩ : CandleKey) = key then some candle else none
  | .clear => none

/-- The calls since the store was last cleared, newest first. -/
def Call.sinceClear (calls : List Call) : List Call :=
  calls.reverse.takeWhile (· ≠ .clear)

/-- The candle last saved under a key since the store was last cleared. -/
def Call.latest? (calls : List Call) (key : CandleKey) : Option Candle :=
  (sinceClear calls).findSome? (saved? key)

@[simp] theorem run_nil (s : Store) : s.run [] = s :=
  rfl

@[simp] theorem run_concat (s : Store) (calls : List Call) (call : Call) :
    s.run (calls ++ [call]) = (s.run calls).perform call := by
  simp [run]

@[simp] theorem latest?_nil (key : CandleKey) : Call.latest? [] key = none :=
  rfl

theorem latest?_concat_save (calls : List Call) (symbol label : String) (candle : Candle)
    (key : CandleKey) :
    Call.latest? (calls ++ [.save symbol label candle]) key =
      if (⟨symbol, label, candle.bucketStart⟩ : CandleKey) = key then some candle
      else Call.latest? calls key := by
  simp only [Call.latest?, Call.sinceClear, List.reverse_append, List.reverse_singleton,
    List.singleton_append]
  rw [List.takeWhile_cons_of_pos (by simp), List.findSome?_cons, Call.saved?]
  by_cases h : (⟨symbol, label, candle.bucketStart⟩ : CandleKey) = key
  · rw [if_pos h, if_pos h]
  · rw [if_neg h, if_neg h]

theorem latest?_concat_clear (calls : List Call) (key : CandleKey) :
    Call.latest? (calls ++ [.clear]) key = none := by
  simp only [Call.latest?, Call.sinceClear, List.reverse_append, List.reverse_singleton,
    List.singleton_append]
  rw [List.takeWhile_cons_of_neg (by simp)]
  rfl

/-- Under each key there is what was last saved there since the store was last cleared. -/
theorem get?_run (calls : List Call) (key : CandleKey) :
    (empty.run calls).get? key = Call.latest? calls key := by
  -- The newest call is looked at first, so the history is taken apart from its end.
  induction calls using List.reverseRecOn with
  | nil => rfl
  | append_singleton calls call ih =>
      rw [run_concat]
      cases call with
      | save symbol label candle =>
          rw [latest?_concat_save, ← ih]
          exact get?_save _ symbol label candle key
      | clear => rw [latest?_concat_clear, perform, clear, get?_empty]

theorem exists_save_of_latest? {calls : List Call} {key : CandleKey} {c : Candle}
    (h : Call.latest? calls key = some c) : ∃ symbol label, .save symbol label c ∈ calls := by
  obtain ⟨call, hmem, hsaved⟩ := List.exists_of_findSome?_eq_some h
  cases call with
  | save symbol label candle =>
      rw [Call.saved?] at hsaved
      split at hsaved
      · cases hsaved
        exact ⟨symbol, label, List.mem_reverse.mp ((List.takeWhile_sublist _).mem hmem)⟩
      · cases hsaved
  | clear => cases hsaved

theorem Filed.run {s : Store} (h : s.Filed) (calls : List Call) : (s.run calls).Filed := by
  induction calls using List.reverseRecOn with
  | nil => exact h
  | append_singleton calls call ih =>
      rw [run_concat]
      cases call with
      | save symbol label candle => exact ih.save symbol label candle
      | clear => exact filed_empty

variable {s : Store}

theorem encard_setOf_get? (s : Store) :
    {key | ∃ c, s.get? key = some c}.encard = s.size := by
  have hkeys : {key | ∃ c, s.get? key = some c} = {key | key ∈ s.candles.keys} :=
    Set.ext fun _ ↦ Keyed.mem_keys_iff.symm
  have hnodup : s.candles.keys.Nodup := s.candles.nodup
  rw [hkeys, ← List.coe_toFinset, Set.encard_coe_eq_coe_finsetCard,
    List.toFinset_card_of_nodup hnodup, Keyed.keys, List.length_map]
  rfl

theorem Filed.mem_query_iff (h : s.Filed) {symbol label : String} {first last : Int}
    (c : Candle) :
    c ∈ s.query symbol label first last ↔
      first ≤ c.bucketStart ∧ c.bucketStart ≤ last ∧
        s.get? ⟨symbol, label, c.bucketStart⟩ = some c := by
  rw [Store.mem_query_iff]
  constructor
  · rintro ⟨start, hfirst, hlast, hfound⟩
    obtain rfl : c.bucketStart = start := h _ c hfound
    exact ⟨hfirst, hlast, hfound⟩
  · rintro ⟨hfirst, hlast, hfound⟩
    exact ⟨c.bucketStart, hfirst, hlast, hfound⟩

/-- What a range holds is what its parts hold, one behind the other. -/
theorem Filed.query_append (h : s.Filed) (symbol label : String) {first middle last : Int}
    (hfirst : first ≤ middle) (hlast : middle < last) :
    s.query symbol label first last =
      s.query symbol label first middle ++ s.query symbol label (middle + 1) last := by
  have hirrefl : Std.Irrefl fun a b : Candle ↦ a.bucketStart < b.bucketStart :=
    ⟨fun a ↦ lt_irrefl a.bucketStart⟩
  have hantisymm : Std.Antisymm fun a b : Candle ↦ a.bucketStart < b.bucketStart :=
    ⟨fun _ _ hab hba ↦ absurd hab (lt_asymm hba)⟩
  have hparts :
      (s.query symbol label first middle ++ s.query symbol label (middle + 1) last).Pairwise
        fun a b ↦ a.bucketStart < b.bucketStart := by
    refine List.pairwise_append.mpr ⟨h.pairwise_query _ _ _ _, h.pairwise_query _ _ _ _, ?_⟩
    intro a ha b hb
    obtain ⟨_, hle, _⟩ := (h.mem_query_iff a).mp ha
    obtain ⟨hge, _⟩ := (h.mem_query_iff b).mp hb
    exact lt_of_le_of_lt hle (Int.lt_of_add_one_le hge)
  -- Both lists are in strictly ascending order, so it is enough that they have the same members.
  apply List.Pairwise.eq_of_mem_iff (h.pairwise_query symbol label first last) hparts
  intro c
  rw [List.mem_append, h.mem_query_iff, h.mem_query_iff, h.mem_query_iff]
  constructor
  · rintro ⟨hge, hle, hstored⟩
    rcases lt_or_ge middle c.bucketStart with hafter | hbefore
    · exact Or.inr ⟨hafter, hle, hstored⟩
    · exact Or.inl ⟨hge, hbefore, hstored⟩
  · rintro (⟨hge, hle, hstored⟩ | ⟨hge, hle, hstored⟩)
    · exact ⟨hge, hle.trans hlast.le, hstored⟩
    · exact ⟨by omega, hle, hstored⟩

/-- A query that does not cover the key of a save does not see it. -/
theorem query_save_of_not_covers {symbol label : String} {candle : Candle}
    {symbol' label' : String} {first last : Int}
    (h : ¬ covers symbol' label' first last (keyOf symbol label candle) = true) :
    (s.save symbol label candle).query symbol' label' first last =
      s.query symbol' label' first last := by
  have hentries := Keyed.filter_replace (covers symbol' label' first last)
    (keyOf symbol label candle) candle s.candles.entries
  rw [if_neg h] at hentries
  exact congrArg (fun entries ↦ sortByStart (entries.map Prod.snd)) hentries

/-- A store refines the map of the last saves. After any saves and clearings a query gives exactly
the candles of its symbol and label that this map holds within the bounds, in strictly ascending
order of their starts; the size is that of the map; the known symbols are those of its keys, in
strictly ascending order; and one more save is not seen by a query that does not cover its key. -/
theorem run_refines_latest (calls : List Call) :
    (∀ symbol label first last,
      ((empty.run calls).query symbol label first last).Pairwise
          (fun a b ↦ a.bucketStart < b.bucketStart) ∧
        ∀ c, c ∈ (empty.run calls).query symbol label first last ↔
          first ≤ c.bucketStart ∧ c.bucketStart ≤ last ∧
            Call.latest? calls ⟨symbol, label, c.bucketStart⟩ = some c) ∧
    {key | ∃ c, Call.latest? calls key = some c}.encard = (empty.run calls).size ∧
    (empty.run calls).symbols.Pairwise (· < ·) ∧
    (∀ symbol, symbol ∈ (empty.run calls).symbols ↔
      ∃ label start c, Call.latest? calls ⟨symbol, label, start⟩ = some c) ∧
    ∀ symbol label candle symbol' label' first last,
      ¬ (symbol = symbol' ∧ label = label' ∧
        first ≤ candle.bucketStart ∧ candle.bucketStart ≤ last) →
      (empty.run (calls ++ [.save symbol label candle])).query symbol' label' first last =
        (empty.run calls).query symbol' label' first last := by
  have hfiled : (empty.run calls).Filed := filed_empty.run calls
  refine ⟨?_, ?_, Text.pairwise_distinctAscending _, ?_, ?_⟩
  · intro symbol label first last
    refine ⟨hfiled.pairwise_query symbol label first last, ?_⟩
    intro c
    rw [hfiled.mem_query_iff, get?_run]
  · simp only [← get?_run]
    exact encard_setOf_get? _
  · intro symbol
    simp only [← get?_run]
    exact mem_symbols_iff
  · intro symbol label candle symbol' label' first last houtside
    rw [run_concat]
    exact query_save_of_not_covers fun hcovers ↦ houtside (covers_iff.mp hcovers)

/-- The candle of a minute with one tick of price one. -/
def minute (n : Nat) : Candle where
  bucketStart := 60 * n
  opening := .ofUnits Double.one
  high := .ofUnits Double.one
  low := .ofUnits Double.one
  closing := .ofUnits Double.one
  volume := 1
  bucketStart_nonneg := by omega
  high_not_lt_low := by decide +kernel
  opening_within := by decide +kernel
  closing_within := by decide +kernel
  volume_nonneg := by decide

/-- The minute, corrected to two ticks. -/
def correctedMinute (n : Nat) : Candle :=
  { minute n with volume := 2, volume_nonneg := by decide }

/-- A clearing, two minutes saved out of order, and a correction of the second of them. The last
save is of another symbol and seen by no query for the first. -/
theorem run_refines_latest_correction :
    ((empty.run [.save "A" "1m" (minute 5), .clear, .save "A" "1m" (minute 1),
        .save "A" "1m" (minute 0), .save "A" "1m" (correctedMinute 1)]).query "A" "1m" 0 60 =
          [minute 0, correctedMinute 1]) ∧
      (empty.run [.save "A" "1m" (minute 5), .clear, .save "A" "1m" (minute 1),
        .save "A" "1m" (minute 0), .save "A" "1m" (correctedMinute 1),
        .save "B" "1m" (minute 1)]).query "A" "1m" 0 60 = [minute 0, correctedMinute 1] := by
  have hrun : (empty.run [.save "A" "1m" (minute 5), .clear, .save "A" "1m" (minute 1),
      .save "A" "1m" (minute 0), .save "A" "1m" (correctedMinute 1)]).query "A" "1m" 0 60 =
        [minute 0, correctedMinute 1] := by
    decide +kernel
  have hunseen := (run_refines_latest [.save "A" "1m" (minute 5), .clear,
    .save "A" "1m" (minute 1), .save "A" "1m" (minute 0),
    .save "A" "1m" (correctedMinute 1)]).2.2.2.2 "B" "1m" (minute 1) "A" "1m" 0 60 (by decide)
  exact ⟨hrun, hunseen.trans hrun⟩

end Candlestick.Store

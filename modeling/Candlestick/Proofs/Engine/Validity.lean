import Candlestick.Proofs.Engine.Handover

/-!
# Candles of an engine are valid

The prices of ticks lie above zero, so a list of them has a least and a greatest member and none of
them is `nan`. What sums up such a list is therefore `Proper`, be it open or closed, and closing it
succeeds. Every aggregator of an engine holds a summary at any time, whatever has been refused, so
no call ever ends with an invalid candle.
-/

namespace Candlestick

/-- What is asked of the numbers of a candle: more than `Candle.make` checks, since it would let
through a candle without ticks. -/
structure Proper (bucketStart : Int) (opening high low closing : Double) (volume : Int) : Prop where
  bucketStart_nonneg : 0 ≤ bucketStart
  opening_within : low ≤ opening ∧ opening ≤ high
  closing_within : low ≤ closing ∧ closing ≤ high
  not_nan : ∀ price ∈ [opening, high, low, closing], price ≠ .nan
  volume_pos : 1 ≤ volume

def Candle.IsProper (c : Candle) : Prop :=
  Proper c.bucketStart c.opening c.high c.low c.closing c.volume

def OpenCandle.IsProper (c : OpenCandle) : Prop :=
  Proper c.bucketStart c.opening c.high c.low c.closing c.ticks

/-- Numbers that are proper make a candle. -/
theorem Proper.exists_make {bucketStart : Int} {opening high low closing : Double} {volume : Int}
    (h : Proper bucketStart opening high low closing volume) :
    ∃ candle, Candle.make bucketStart opening high low closing volume = .ok candle := by
  have hrange : ¬ high < low :=
    Double.not_lt_of_le (Double.le_trans h.opening_within.1 h.opening_within.2)
  have hvolume : 0 ≤ volume := by
    have hpos := h.volume_pos
    omega
  simp [Candle.make, h.bucketStart_nonneg, hrange, h.opening_within, h.closing_within, hvolume]

/-- The summary of some ticks is proper. -/
theorem SumUp.proper {ticks : List Tick} {bucket : Int} {opening high low closing : Double}
    (h : SumUp (ticks.map Tick.mid) opening high low closing) (hbucket : 0 ≤ bucket) :
    Proper bucket opening high low closing ticks.length := by
  have hnumber : ∀ price ∈ ticks.map Tick.mid, price ≠ .nan := fun price hprice ↦
    Double.ne_nan_of_pos (Tick.pos_of_mem_map_mid hprice)
  refine ⟨hbucket, ?_, ?_, ?_, ?_⟩
  · exact ⟨h.low_le _ h.opening_mem, h.le_high _ h.opening_mem⟩
  · exact ⟨h.low_le _ h.closing_mem, h.le_high _ h.closing_mem⟩
  · simp only [List.forall_mem_cons]
    exact ⟨hnumber _ h.opening_mem, hnumber _ h.high_mem, hnumber _ h.low_mem,
      hnumber _ h.closing_mem, fun _ hnone ↦ nomatch hnone⟩
  · have hsome : ticks.map Tick.mid ≠ [] := List.ne_nil_of_mem h.opening_mem
    have hlength : 0 < ticks.length := by
      rw [← List.length_map Tick.mid]
      exact List.length_pos_iff.mpr hsome
    omega

variable {bucket : Int} {ticks : List Tick}

theorem OpenCandle.SumsUp.isProper {c : OpenCandle} (h : c.SumsUp bucket ticks)
    (hbucket : 0 ≤ bucket) : c.IsProper := by
  have hproper := h.prices.proper hbucket
  rw [← h.bucketStart_eq, ← h.ticks_eq] at hproper
  exact hproper

theorem Candle.SumsUp.isProper {c : Candle} (h : c.SumsUp bucket ticks) (hbucket : 0 ≤ bucket) :
    c.IsProper := by
  have hproper := h.prices.proper hbucket
  rw [← h.bucketStart_eq, ← h.volume_eq] at hproper
  exact hproper

namespace Engine

variable {e : Engine} {past : List Visit} {refuses : Refusals}

theorem Sound.ne_invalidCandle (h : e.Sound) (refuses : Refusals) (call : Call)
    (fault : Candle.Fault) : (e.perform refuses call).2 ≠ .error (.invalidCandle fault) := by
  rcases h.perform_eq_or_interrupted refuses call with ⟨_, hok, _⟩ | ⟨_, hcut, _⟩
  · rw [hok]
    intro hinvalid
    cases hinvalid
  · rw [hcut]
    intro hinvalid
    cases hinvalid

theorem Sound.isProper_current (h : e.Sound) {key : String × Interval} {c : OpenCandle}
    (hcurrent : (e.held key).current = some c) : c.IsProper := by
  obtain ⟨past, hholds⟩ := h key
  obtain ⟨b, _, hsum⟩ := hholds.exists_block hcurrent
  exact hsum.isProper b.bucket_nonneg

theorem Recalls.isProper_handedOver (h : e.Recalls past) {calls : List Call}
    {x : (String × Interval) × Aggregator.Handover}
    (hx : x ∈ handoversIn refuses past e calls) : x.2.candle.IsProper := by
  obtain ⟨_, _, _, a, next, c, _, hholds, hanswer⟩ := h.exists_call hx
  obtain ⟨b, _, hsum, _⟩ := hholds.block_of_completes hanswer
  exact hsum.isProper b.bucket_nonneg

/-- However an engine came to be where it is, no call can end with an invalid candle, every open
candle is proper and can be closed, and every candle that was handed over is proper, those that were
saved among them. -/
theorem run_proper (intervals : List Interval) (refuses : Refusals) (calls : List Call) :
    (∀ call fault, (((fresh intervals).run refuses calls).perform refuses call).2 ≠
      .error (.invalidCandle fault)) ∧
    (∀ key c, (((fresh intervals).run refuses calls).held key).current = some c →
      c.IsProper ∧ ∃ candle, c.close = .ok candle) ∧
    (∀ x ∈ handoversIn refuses [] (fresh intervals) calls, x.2.candle.IsProper) ∧
    ∀ saved ∈ log refuses (fresh intervals) calls, saved.2.IsProper := by
  have hsound := (sound_fresh intervals).run refuses calls
  have hhanded : ∀ x ∈ handoversIn refuses [] (fresh intervals) calls, x.2.candle.IsProper :=
    fun x hx ↦ (recalls_fresh intervals).isProper_handedOver hx
  refine ⟨hsound.ne_invalidCandle refuses, ?_, hhanded, ?_⟩
  · intro key c hcurrent
    have hproper := hsound.isProper_current hcurrent
    exact ⟨hproper, hproper.exists_make⟩
  · intro saved hsaved
    obtain ⟨x, hx, rfl⟩ := List.mem_map.mp ((log_sublist refuses [] _ calls).subset hsaved)
    exact hhanded x hx

/-- A tick of which neither price is finite. -/
def boundless : Tick :=
  (Tick.make "A" (.infinite false) (.infinite false) 30500).toOption.get (by decide +kernel)

/-- A minute that ends with a price that is not finite and is refused once. -/
def boundlessMinute : List Call :=
  [.ingest (.whole "A" 65 67 11000 (by decide +kernel)), .ingest boundless, .sweep 60, .shutdown,
    .ingest boundless]

theorem run_proper_boundlessMinute :
    (handoversIn (· == 1) [] (fresh [.oneMinute]) boundlessMinute).length = 2 ∧
      (∀ x ∈ handoversIn (· == 1) [] (fresh [.oneMinute]) boundlessMinute,
        x.2.candle.high = .infinite false ∧ x.2.candle.IsProper) ∧
      ∃ c, (((fresh [.oneMinute]).run (· == 1) boundlessMinute).held ("A", .oneMinute)).current =
        some c ∧ c.IsProper := by
  have hproper := run_proper [.oneMinute] (· == 1) boundlessMinute
  have hhigh : ∀ x ∈ handoversIn (· == 1) [] (fresh [.oneMinute]) boundlessMinute,
      x.2.candle.high = .infinite false := by
    decide +kernel
  have hopen : ((((fresh [.oneMinute]).run (· == 1) boundlessMinute).held
      ("A", .oneMinute)).current).isSome = true := by
    decide +kernel
  obtain ⟨c, hc⟩ := Option.isSome_iff_exists.mp hopen
  exact ⟨by decide +kernel, fun x hx ↦ ⟨hhigh x hx, hproper.2.2.1 x hx⟩, c, hc,
    (hproper.2.1 _ c hc).1⟩

end Engine

end Candlestick

import Candlestick.Candle.Message
import Candlestick.Proofs.Bus.Reading
import Candlestick.Proofs.Json.RoundTrip
import Mathlib.Data.Nat.Digits.Defs
import Mathlib.Tactic.NormNum.Basic

/-!
# Messages read back

The message of a tick or of a candle is read back as the tick or the candle that it was written for,
field by field. The symbol may be any text that is not blank, and the prices may be infinite. Only
the whole numbers are limited: JSON is neither written nor read with more than `digitLimit` digits
in a row, so that a message exists at all is part of what is shown (`messages_read_back`).
-/

namespace Candlestick

namespace Json

theorem excess?_int_eq_none {n : Int} (hn : 0 ≤ n) (h : n < 10 ^ Numeral.digitLimit) :
    (Json.int n).excess? = none := by
  obtain ⟨m, rfl⟩ := Int.eq_ofNat_of_zero_le hn
  have hbound : m < 10 ^ Numeral.digitLimit := by exact_mod_cast h
  have hlength := Nat.toDigits_length 10 m Numeral.digitLimit (by decide) hbound
  rw [excess?]
  exact if_neg hlength.not_gt

theorem write?_of_excess?_eq_none {value : Json} (h : value.excess? = none) :
    value.write? = .ok value.write := by
  rw [write?, h]

theorem read_write_of_excess?_eq_none {value : Json} (hdistinct : value.Distinct)
    (h : value.excess? = none) : read value.write = .ok value := by
  rw [read_write value hdistinct, h]
  rfl

end Json

namespace Tick

theorem distinct_toJson (t : Tick) : t.toJson.Distinct := by
  have hnames : ["symbol", "bid", "ask", "timestamp"].Nodup := by decide
  exact ⟨hnames, trivial, trivial, trivial, trivial, trivial⟩

theorem excess?_toJson (t : Tick) : t.toJson.excess? = (Json.int t.timestamp).excess? := by
  simp [toJson, Json.excess?, Json.fieldsExcess?]

theorem heldBy_toJson (t : Tick) : t.HeldBy [("symbol", .text t.symbol), ("bid", .real t.bid),
    ("ask", .real t.ask), ("timestamp", .int t.timestamp)] :=
  ⟨rfl, ⟨.real t.bid, rfl, rfl⟩, ⟨.real t.ask, rfl, rfl⟩, .int t.timestamp, rfl, rfl⟩

theorem message_reads_back (t : Tick) (h : t.timestamp < 10 ^ Numeral.digitLimit) :
    t.toMessage? = .ok t.toMessage ∧ ofMessage t.toMessage = .ok t := by
  have hexcess : t.toJson.excess? = none := by
    rw [excess?_toJson]
    exact Json.excess?_int_eq_none t.timestamp_pos.le h
  have hread := Json.read_write_of_excess?_eq_none t.distinct_toJson hexcess
  exact ⟨Json.write?_of_excess?_eq_none hexcess,
    ofMessage_eq_ok_iff.mpr ⟨_, hread, t.heldBy_toJson⟩⟩

end Tick

namespace Candle

theorem distinct_toJson (c : Candle) : c.toJson.Distinct := by
  have hnames : ["bucket_start", "open", "high", "low", "close", "volume"].Nodup := by decide
  exact ⟨hnames, trivial, trivial, trivial, trivial, trivial, trivial, trivial⟩

theorem excess?_toJson (c : Candle) : c.toJson.excess? =
    (Json.int c.bucketStart).excess?.or (Json.int c.volume).excess? := by
  simp [toJson, Json.excess?, Json.fieldsExcess?]

theorem ofJson_toJson (c : Candle) : ofJson c.toJson = .ok c := by
  have hparts : ofJson c.toJson =
      (make c.bucketStart c.opening c.high c.low c.closing c.volume).mapError .invalid := rfl
  rw [hparts, make_self]
  rfl

theorem message_reads_back (c : Candle) (hstart : c.bucketStart < 10 ^ Numeral.digitLimit)
    (hvolume : c.volume < 10 ^ Numeral.digitLimit) :
    c.toMessage? = .ok c.toMessage ∧ ofMessage c.toMessage = .ok c := by
  have hexcess : c.toJson.excess? = none := by
    rw [excess?_toJson, Json.excess?_int_eq_none c.bucketStart_nonneg hstart,
      Json.excess?_int_eq_none c.volume_nonneg hvolume]
    rfl
  have hread := Json.read_write_of_excess?_eq_none c.distinct_toJson hexcess
  refine ⟨Json.write?_of_excess?_eq_none hexcess, ?_⟩
  rw [ofMessage, toMessage, hread]
  exact c.ofJson_toJson

end Candle

/-- Ticks and candles travel as messages unharmed. If no whole number of theirs has more than
`digitLimit` digits, the message can be written and it is read back as the same tick or candle. -/
theorem messages_read_back :
    (∀ t : Tick, t.timestamp < 10 ^ Numeral.digitLimit →
      ∃ text, t.toMessage? = .ok text ∧ Tick.ofMessage text = .ok t) ∧
    ∀ c : Candle, c.bucketStart < 10 ^ Numeral.digitLimit → c.volume < 10 ^ Numeral.digitLimit →
      ∃ text, c.toMessage? = .ok text ∧ Candle.ofMessage text = .ok c :=
  ⟨fun t h ↦ ⟨_, t.message_reads_back h⟩,
    fun c hstart hvolume ↦ ⟨_, c.message_reads_back hstart hvolume⟩⟩

/-- A tick whose symbol is written with escapes, at a price without bound. -/
def oddTick : Tick where
  symbol := "\"\\\n😀é"
  bid := .ofUnits 1
  ask := .infinite false
  timestamp := 1
  symbol_not_blank := by decide +kernel
  bid_pos := by decide +kernel
  ask_pos := by decide +kernel
  ask_not_lt_bid := by decide +kernel
  timestamp_pos := by decide

/-- A candle between the infinities that opens at the negative zero and closes at the other. -/
def boundlessCandle : Candle where
  bucketStart := 0
  opening := -Double.zero
  high := .infinite false
  low := .infinite true
  closing := Double.zero
  volume := 7
  bucketStart_nonneg := le_rfl
  high_not_lt_low := by decide +kernel
  opening_within := by decide +kernel
  closing_within := by decide +kernel
  volume_nonneg := by decide

/-- What needs escapes, is infinite or has a signed zero is read back too. -/
theorem messages_read_back_boundless :
    oddTick.timestamp < 10 ^ Numeral.digitLimit ∧
      (∃ text, oddTick.toMessage? = .ok text ∧ Tick.ofMessage text = .ok oddTick) ∧
      ∃ text, boundlessCandle.toMessage? = .ok text ∧
        Candle.ofMessage text = .ok boundlessCandle := by
  have hlimit : (10 : Int) ≤ 10 ^ Numeral.digitLimit := by
    have hone : 1 ≤ Numeral.digitLimit := by decide
    exact le_self_pow₀ (by decide) (by omega)
  have htime : oddTick.timestamp < 10 ^ Numeral.digitLimit :=
    lt_of_lt_of_le (by decide : (1 : Int) < 10) hlimit
  have hstart : boundlessCandle.bucketStart < 10 ^ Numeral.digitLimit :=
    lt_of_lt_of_le (by decide : (0 : Int) < 10) hlimit
  have hvolume : boundlessCandle.volume < 10 ^ Numeral.digitLimit :=
    lt_of_lt_of_le (by decide : (7 : Int) < 10) hlimit
  exact ⟨htime, messages_read_back.1 oddTick htime,
    messages_read_back.2 boundlessCandle hstart hvolume⟩

end Candlestick

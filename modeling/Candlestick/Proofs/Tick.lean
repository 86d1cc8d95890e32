import Candlestick.Proofs.Symbol
import Candlestick.Tick.Basic

/-!
# Making ticks

What can be made of the parts of a tick is the tick with those parts, and nothing else. The rules of
ticks do not tell a symbol from its canonical form, so a tick that is checked under its symbol as it
is spelled, and then under its canonical form, passes as if only the latter had been checked.
-/

namespace Candlestick.Tick

variable {symbol : String} {bid ask : Double} {timestamp : Int}

theorem make_eq_ok_iff {t : Tick} :
    make symbol bid ask timestamp = .ok t ↔
      t.symbol = symbol ∧ t.bid = bid ∧ t.ask = ask ∧ t.timestamp = timestamp := by
  constructor
  · intro h
    unfold make at h
    split at h
    · split at h
      · split at h
        · split at h
          · cases h
          · split at h
            · cases h
              exact ⟨rfl, rfl, rfl, rfl⟩
            · cases h
        · cases h
      · cases h
    · cases h
  · rintro ⟨rfl, rfl, rfl, rfl⟩
    exact make_self t

/-- The tick of another symbol with the same prices at the same time. -/
def rename (t : Tick) (symbol : String) (h : Symbol.isBlank symbol = false) : Tick :=
  ⟨symbol, t.bid, t.ask, t.timestamp, h, t.bid_pos, t.ask_pos, t.ask_not_lt_bid, t.timestamp_pos⟩

theorem make_rename (t : Tick) (h : Symbol.isBlank symbol = false) :
    make symbol t.bid t.ask t.timestamp = .ok (t.rename symbol h) :=
  make_self (t.rename symbol h)

theorem make_normalize_of_error {fault : Fault}
    (h : make symbol bid ask timestamp = .error fault) :
    ∃ other, make (Symbol.normalize symbol) bid ask timestamp = .error other := by
  cases hmake : make (Symbol.normalize symbol) bid ask timestamp with
  | error other => exact ⟨other, rfl⟩
  | ok t =>
      obtain ⟨hsymbol, hbid, hask, htime⟩ := make_eq_ok_iff.mp hmake
      have hblank : Symbol.isBlank symbol = false := by
        rw [← Symbol.isBlank_normalize, ← hsymbol, t.symbol_not_blank]
      have hspelled := make_rename t hblank
      rw [hbid, hask, htime, h] at hspelled
      exact nomatch hspelled

end Candlestick.Tick

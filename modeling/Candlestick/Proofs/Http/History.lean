import Candlestick.Http.Route
import Candlestick.Proofs.Store.Query
import Candlestick.Proofs.Symbol

/-!
# What a spelling finds

A query looks under the canonical form of the symbol that it names, whatever its spelling
(`foundAs_normalize`). So what is stored under a canonical symbol is found under each spelling of
it, and what is stored under any other symbol is not found at all.
-/

namespace Candlestick.Http

theorem respond_eq_serve {r : Request} {route : Route} (hroute : Route.ofPath? r.path = some route)
    (hmethod : r.method = route.method) (s : Service) : respond s r = serve s r route := by
  simp only [respond, hroute, hmethod, if_true]

/-- A request for a history that is not refused. -/
structure AsksFor (r : Request) (q : HistoryQuery) : Prop where
  method : r.method = "GET"
  path : r.path = "/history"
  query : HistoryQuery.check r.query = .valid q
  label : (Interval.ofLabel? q.interval).isSome
  bounds : q.first ≤ q.last

/-- Whoever asks for a symbol in the given spelling gets the candles stored under `symbol`. -/
def FoundAs (s : Service) (spelling symbol : String) : Prop :=
  ∀ r q, AsksFor r q → q.symbol = spelling →
    ∃ candles, (respond s r).2 = .ok (historyJson (.answer candles)) ∧
      ∀ c, c ∈ candles ↔ ∃ start, q.first ≤ start ∧ start ≤ q.last ∧
        s.engine.store.get? ⟨symbol, q.interval, start⟩ = some c

theorem AsksFor.respond_eq {r : Request} {q : HistoryQuery} (h : AsksFor r q)
    (hsymbol : Symbol.isBlank q.symbol = false) (s : Service) : (respond s r).2 =
      .ok (historyJson (.answer
        (s.engine.store.query (Symbol.normalize q.symbol) q.interval q.first q.last))) := by
  have hroute : Route.ofPath? r.path = some .history := by
    rw [h.path]
    decide
  have hknown : ¬ (Interval.ofLabel? q.interval).isNone = true := by
    simpa [Option.isSome_iff_ne_none] using h.label
  have hquery : History.query s.engine.store q.symbol q.interval q.first q.last =
      .ok (.answer
        (s.engine.store.query (Symbol.normalize q.symbol) q.interval q.first q.last)) := by
    rw [History.query, if_neg hknown, if_neg (Int.not_lt.mpr h.bounds), if_neg (by simp [hsymbol])]
  rw [respond_eq_serve hroute h.method]
  simp only [serve, historyReply, h.query, hquery]

theorem foundAs_normalize {spelling : String} (hspelling : Symbol.isBlank spelling = false)
    (s : Service) : FoundAs s spelling (Symbol.normalize spelling) := by
  rintro r q h rfl
  exact ⟨_, h.respond_eq hspelling s, Store.mem_query_iff⟩

end Candlestick.Http

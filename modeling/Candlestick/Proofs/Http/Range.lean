import Candlestick.Proofs.Data.Integer
import Candlestick.Proofs.Double.Overflow
import Candlestick.Proofs.Http.Ticks
import Candlestick.Proofs.Store.Contents

/-!
# A history is the stored range

The answer to a query for a history is told by the store alone. A query that is refused gets the
first reason of three; any other gets the stored candles of its range, column by column, in the
order of their starts (`Queries.respond_eq`). So the columns of a range are those of its parts, one
behind the other (`history_answers_stored_range`).
-/

namespace Candlestick

/-- The prices of a candle are neither infinite nor undefined. -/
structure Candle.IsFinite (c : Candle) : Prop where
  opening : c.opening.isFinite = true
  high : c.high.isFinite = true
  low : c.low.isFinite = true
  closing : c.closing.isFinite = true

theorem Interval.isNone_ofLabel?_iff {text : String} :
    (ofLabel? text).isNone = true ↔ text ∉ labels := by
  rw [Option.isNone_iff_eq_none, ofLabel?, List.find?_eq_none, labels, List.mem_map]
  constructor
  · rintro h ⟨interval, hmem, rfl⟩
    exact h interval hmem (beq_self_eq_true _)
  · intro h interval hmem hlabel
    exact h ⟨interval, hmem, eq_of_beq hlabel⟩

namespace Http

/-- The columns of a history, from the candles that it lists. -/
def columns (status : String) (found : List Candle) : Json :=
  .object [("s", .text status), ("t", .list (found.map fun c ↦ .int c.bucketStart)),
    ("o", .list (found.map fun c ↦ .real c.opening.roundToCents)),
    ("h", .list (found.map fun c ↦ .real c.high.roundToCents)),
    ("l", .list (found.map fun c ↦ .real c.low.roundToCents)),
    ("c", .list (found.map fun c ↦ .real c.closing.roundToCents)),
    ("v", .list (found.map fun c ↦ .int c.volume))]

/-- A request for a history, whether or not it is refused. -/
structure Queries (r : Request) (q : HistoryQuery) : Prop where
  path : Route.ofPath? r.path = some .history
  method : r.method = "GET"
  query : HistoryQuery.check r.query = .valid q

def HistoryQuery.parameters (q : HistoryQuery) : List (String × String) :=
  [("symbol", q.symbol), ("interval", q.interval), ("from", toString q.first),
    ("to", toString q.last)]

def HistoryQuery.request (q : HistoryQuery) : Request :=
  ⟨"GET", "/history", q.parameters, "", none⟩

/-- Every query can be asked whose bounds have no more digits than a reader of numbers admits. -/
theorem queries_request {q : HistoryQuery}
    (hfirst : Data.digitCount q.first ≤ Numeral.digitLimit)
    (hlast : Data.digitCount q.last ≤ Numeral.digitLimit) : Queries q.request q := by
  have hinteger : ∀ name n, queryValue? q.parameters name = some (toString n) →
      Data.digitCount n ≤ Numeral.digitLimit →
      requiredParameter q.parameters name Data.integer = .valid n := by
    intro name n hvalue hn
    simp only [requiredParameter, hvalue, Data.integer, Data.integerOfText_toString hn]
    rfl
  have hsymbol : requiredParameter q.parameters "symbol" Data.string = .valid q.symbol := rfl
  have hinterval : requiredParameter q.parameters "interval" Data.string = .valid q.interval := rfl
  have hpath : Route.ofPath? "/history" = some .history := by decide
  refine ⟨hpath, rfl, ?_⟩
  change HistoryQuery.check q.parameters = .valid q
  rw [HistoryQuery.check, hsymbol, hinterval, hinteger "from" q.first rfl hfirst,
    hinteger "to" q.last rfl hlast]
  rfl

def refusedReply (message : String) : Reply :=
  .json 400 (columns ("error: " ++ message) [])

/-- The reply to a query that finds the given candles. -/
def rangeReply (q : HistoryQuery) (found : List Candle) : Reply :=
  if q.interval ∉ Interval.labels then
    refusedReply ("Unsupported interval: " ++ q.interval ++ ". Supported: " ++
      ", ".intercalate Interval.labels)
  else if q.last < q.first then refusedReply "'from' must be <= 'to'"
  else if Text.strip q.symbol = "" then refusedReply "Symbol must not be blank"
  else if found = [] then .json 200 (columns "no_data" [])
  else .json 200 (columns "ok" found)

theorem priceJson_roundToCents {x : Double} (h : x.isFinite = true) :
    priceJson x.roundToCents = .real x.roundToCents := by
  rw [priceJson, Double.isFinite_roundToCents, if_pos h]

theorem historyJson_ofCandles {found : List Candle} (h : ∀ c ∈ found, c.IsFinite) :
    historyJson (.ofCandles found) = columns "ok" found := by
  have hprices : ∀ price : Candle → Double, (∀ c ∈ found, (price c).isFinite = true) →
      (found.map fun c ↦ (price c).roundToCents).map priceJson =
        found.map fun c ↦ .real (price c).roundToCents := by
    intro price hprice
    rw [List.map_map]
    apply List.map_congr_left
    intro c hc
    exact priceJson_roundToCents (hprice c hc)
  have htimes : (found.map Candle.bucketStart).map Json.int =
      found.map fun c ↦ .int c.bucketStart := List.map_map
  have hvolumes : (found.map Candle.volume).map Json.int = found.map fun c ↦ .int c.volume :=
    List.map_map
  simp only [historyJson, History.toJsonWith, History.ofCandles, columns, htimes, hvolumes,
    hprices Candle.opening fun c hc ↦ (h c hc).opening,
    hprices Candle.high fun c hc ↦ (h c hc).high, hprices Candle.low fun c hc ↦ (h c hc).low,
    hprices Candle.closing fun c hc ↦ (h c hc).closing]

theorem areFinite_map {found : List Candle} {value : Candle → Json}
    (h : ∀ c ∈ found, (value c).isFinite = true) : Json.areFinite (found.map value) = true := by
  induction found with
  | nil => rfl
  | cons c rest ih =>
      rw [List.map_cons, Json.areFinite, h c List.mem_cons_self,
        ih fun d hd ↦ h d (List.mem_cons_of_mem c hd)]
      rfl

theorem isFinite_columns (status : String) {found : List Candle} (h : ∀ c ∈ found, c.IsFinite) :
    (columns status found).isFinite = true := by
  have hcents : ∀ x : Double, (Json.real x.roundToCents).isFinite = x.isFinite :=
    Double.isFinite_roundToCents
  have hopening := areFinite_map fun c hc ↦ (hcents c.opening).trans (h c hc).opening
  have hhigh := areFinite_map fun c hc ↦ (hcents c.high).trans (h c hc).high
  have hlow := areFinite_map fun c hc ↦ (hcents c.low).trans (h c hc).low
  have hclosing := areFinite_map fun c hc ↦ (hcents c.closing).trans (h c hc).closing
  have htimes := areFinite_map fun (c : Candle) (_ : c ∈ found) ↦
    (rfl : (Json.int c.bucketStart).isFinite = true)
  have hvolumes := areFinite_map fun (c : Candle) (_ : c ∈ found) ↦
    (rfl : (Json.int c.volume).isFinite = true)
  simp only [columns, Json.isFinite, Json.fieldsAreFinite, htimes, hopening, hhigh, hlow, hclosing,
    hvolumes, Bool.and_true]

theorem send_columns (status : Nat) (word : String) {found : List Candle}
    (h : ∀ c ∈ found, c.IsFinite) :
    Reply.send status (columns word found) = .json status (columns word found) := by
  rw [Reply.send, isFinite_columns word h, if_pos rfl]

theorem send_error (message : String) :
    Reply.send 400 (historyJson (.error message)) = refusedReply message :=
  send_columns 400 _ (List.forall_mem_nil _)

theorem send_answer {found : List Candle} (h : ∀ c ∈ found, c.IsFinite) :
    Reply.ok (historyJson (.answer found)) =
      if found = [] then .json 200 (columns "no_data" []) else .json 200 (columns "ok" found) := by
  cases found with
  | nil => exact send_columns 200 "no_data" (List.forall_mem_nil _)
  | cons c rest =>
      have hanswer : historyJson (.answer (c :: rest)) = columns "ok" (c :: rest) :=
        historyJson_ofCandles h
      rw [hanswer, if_neg (List.cons_ne_nil c rest)]
      exact send_columns 200 "ok" h

variable {s : Service} {r : Request} {q : HistoryQuery}

/-- The candles that a query finds, if it is not refused. -/
def inRange (s : Service) (q : HistoryQuery) : List Candle :=
  s.engine.store.query (Symbol.normalize q.symbol) q.interval q.first q.last

theorem Queries.respond_eq (h : Queries r q) (hfinite : ∀ c ∈ inRange s q, c.IsFinite) :
    respond s r = (s, rangeReply q (inRange s q)) := by
  have hreply : historyReply s r = rangeReply q (inRange s q) := by
    simp only [historyReply, h.query, History.query, rangeReply]
    by_cases hlabel : q.interval ∈ Interval.labels
    · have hknown : ¬ (Interval.ofLabel? q.interval).isNone = true :=
        fun hnone ↦ Interval.isNone_ofLabel?_iff.mp hnone hlabel
      rw [if_neg hknown, if_neg (not_not_intro hlabel)]
      by_cases hbounds : q.last < q.first
      · rw [if_pos hbounds, if_pos hbounds]
        exact send_error _
      · rw [if_neg hbounds, if_neg hbounds]
        by_cases hblank : Text.strip q.symbol = ""
        · rw [if_pos hblank, if_pos (by rw [Symbol.isBlank, hblank]; rfl)]
          exact send_error _
        · rw [if_neg hblank, if_neg (by simpa [Symbol.isBlank] using hblank)]
          exact send_answer hfinite
    · rw [if_pos (Interval.isNone_ofLabel?_iff.mpr hlabel), if_pos hlabel]
      exact send_error _
  rw [respond_eq_serve h.path h.method, serve, hreply]

/-! ## Parts of a range -/

/-- The list that a reply has under a name. -/
def Reply.column (name : String) : Reply → List Json
  | .json _ body =>
    match body.field? name with
    | some (.list items) => items
    | _ => []
  | _ => []

def columnNames : List String :=
  ["t", "o", "h", "l", "c", "v"]

variable {name : String}

theorem column_columns (h : name ∈ columnNames) :
    ∃ value : Candle → Json, ∀ status word found,
      (Reply.json status (columns word found)).column name = found.map value := by
  simp only [columnNames, List.mem_cons, List.not_mem_nil, or_false] at h
  rcases h with rfl | rfl | rfl | rfl | rfl | rfl <;> exact ⟨_, fun _ _ _ ↦ rfl⟩

/-- A query that is not refused. -/
structure Granted (q : HistoryQuery) : Prop where
  label : q.interval ∈ Interval.labels
  bounds : q.first ≤ q.last
  symbol : Text.strip q.symbol ≠ ""

theorem rangeReply_of_granted (h : Granted q) (found : List Candle) :
    rangeReply q found =
      if found = [] then .json 200 (columns "no_data" []) else .json 200 (columns "ok" found) := by
  rw [rangeReply, if_neg (not_not_intro h.label), if_neg (Int.not_lt.mpr h.bounds),
    if_neg h.symbol]

theorem rangeReply_of_not_granted (h : ¬ Granted q) (found : List Candle) :
    ∃ message, rangeReply q found = refusedReply message := by
  unfold rangeReply
  split
  · exact ⟨_, rfl⟩
  · next hlabel =>
      split
      · exact ⟨_, rfl⟩
      · next hbounds =>
          split
          · exact ⟨_, rfl⟩
          · next hsymbol =>
              exact absurd ⟨not_not.mp hlabel, Int.not_lt.mp hbounds, hsymbol⟩ h

theorem exists_column_rangeReply (h : name ∈ columnNames) :
    ∃ value : Candle → Json, ∀ q found,
      (Granted q → (rangeReply q found).column name = found.map value) ∧
        (¬ Granted q → (rangeReply q found).column name = []) := by
  obtain ⟨value, hvalue⟩ := column_columns h
  refine ⟨value, fun q found ↦ ⟨fun hgranted ↦ ?_, fun hrefused ↦ ?_⟩⟩
  · rw [rangeReply_of_granted hgranted]
    split
    · next hnone => rw [hvalue, hnone]
    · rw [hvalue]
  · obtain ⟨message, hreply⟩ := rangeReply_of_not_granted hrefused found
    rw [hreply, refusedReply, hvalue, List.map_nil]

/-- The answer to a query for a history, whatever has been saved. A query is refused for an interval
that is not in the catalog, for bounds in the wrong order, or for a blank symbol, and the first of
these reasons counts. Any other gets the stored candles of its range under the canonical symbol, in
ascending order of their starts and each of them once; and the columns of a range are those of its
lower part followed by those of its upper part. -/
theorem history_answers_stored_range {calls : List Store.Call}
    (hstore : s.engine.store = Store.empty.run calls)
    (hfinite : ∀ key c, s.engine.store.get? key = some c → c.IsFinite) (h : Queries r q) :
    ∃ found : List Candle, respond s r = (s, rangeReply q found) ∧
      found.Pairwise (fun a b ↦ a.bucketStart < b.bucketStart) ∧
      (∀ c, c ∈ found ↔ q.first ≤ c.bucketStart ∧ c.bucketStart ≤ q.last ∧
        s.engine.store.get? ⟨Symbol.normalize q.symbol, q.interval, c.bucketStart⟩ = some c) ∧
      ∀ middle lower upper, q.first ≤ middle → middle < q.last →
        Queries lower { q with last := middle } → Queries upper { q with first := middle + 1 } →
        ∀ name ∈ columnNames, (respond s r).2.column name =
          (respond s lower).2.column name ++ (respond s upper).2.column name := by
  have hfiled : s.engine.store.Filed := by
    rw [hstore]
    exact Store.filed_empty.run calls
  have hrespond : ∀ r q, Queries r q → respond s r = (s, rangeReply q (inRange s q)) := by
    intro r q h
    refine h.respond_eq fun c hc ↦ ?_
    obtain ⟨_, _, hstored⟩ := (hfiled.mem_query_iff c).mp hc
    exact hfinite _ c hstored
  refine ⟨inRange s q, hrespond r q h, hfiled.pairwise_query _ _ _ _, hfiled.mem_query_iff, ?_⟩
  intro middle lower upper hfirst hlast hlower hupper name hname
  obtain ⟨value, hvalue⟩ := exists_column_rangeReply hname
  rw [hrespond r q h, hrespond lower _ hlower, hrespond upper _ hupper]
  -- The bounds of the parts are in order, so the parts are refused exactly if the whole is.
  by_cases hgranted : Granted q
  · have hlow : Granted { q with last := middle } := ⟨hgranted.label, hfirst, hgranted.symbol⟩
    have hhigh : Granted { q with first := middle + 1 } :=
      ⟨hgranted.label, hlast, hgranted.symbol⟩
    have hparts : inRange s q = inRange s { q with last := middle } ++
        inRange s { q with first := middle + 1 } :=
      hfiled.query_append _ _ hfirst hlast
    rw [(hvalue _ _).1 hgranted, (hvalue _ _).1 hlow, (hvalue _ _).1 hhigh, hparts,
      List.map_append]
  · have hbounds : q.first ≤ q.last := hfirst.trans hlast.le
    have hlow : ¬ Granted { q with last := middle } :=
      fun hlow ↦ hgranted ⟨hlow.label, hbounds, hlow.symbol⟩
    have hhigh : ¬ Granted { q with first := middle + 1 } :=
      fun hhigh ↦ hgranted ⟨hhigh.label, hbounds, hhigh.symbol⟩
    rw [(hvalue _ _).2 hgranted, (hvalue _ _).2 hlow, (hvalue _ _).2 hhigh, List.append_nil]

/-- Two minutes of one symbol, the later one corrected. -/
def twoMinutes : List Store.Call :=
  [.save "A" "1m" (Store.minute 1), .save "A" "1m" (Store.minute 0),
    .save "A" "1m" (Store.correctedMinute 1)]

def twoMinuteService : Service :=
  { minuteService with
    engine := { minuteService.engine with store := Store.empty.run twoMinutes } }

theorem history_answers_stored_range_twoMinutes :
    let asked := fun first last ↦ HistoryQuery.mk " a " "1m" first last
    let reply := fun first last ↦ (respond twoMinuteService (asked first last).request).2
    ∃ found, reply 0 60 = rangeReply (asked 0 60) found ∧ Store.minute 0 ∈ found ∧
      Store.correctedMinute 1 ∈ found ∧ ∀ name ∈ columnNames,
        (reply 0 60).column name = (reply 0 59).column name ++ (reply 60 60).column name := by
  intro asked reply
  have hasks : ∀ first last, Data.digitCount first ≤ Numeral.digitLimit →
      Data.digitCount last ≤ Numeral.digitLimit →
      Queries (asked first last).request (asked first last) :=
    fun _ _ hfirst hlast ↦ queries_request hfirst hlast
  have hone : (Double.ofUnits Double.one).isFinite = true := by decide +kernel
  have hminute : ∀ n, (Store.minute n).IsFinite ∧ (Store.correctedMinute n).IsFinite := by
    intro n
    refine ⟨⟨?_, ?_, ?_, ?_⟩, ⟨?_, ?_, ?_, ?_⟩⟩ <;>
      simpa only [Store.correctedMinute, Store.minute] using hone
  have hstore : twoMinuteService.engine.store = Store.empty.run twoMinutes := rfl
  have hfinite : ∀ key c, twoMinuteService.engine.store.get? key = some c → c.IsFinite := by
    intro key c hstored
    rw [hstore, Store.get?_run] at hstored
    obtain ⟨symbol, label, hsaved⟩ := Store.exists_save_of_latest? hstored
    simp only [twoMinutes, List.mem_cons, Store.Call.save.injEq, List.not_mem_nil, or_false]
      at hsaved
    rcases hsaved with ⟨_, _, rfl⟩ | ⟨_, _, rfl⟩ | ⟨_, _, rfl⟩
    · exact (hminute 1).1
    · exact (hminute 0).1
    · exact (hminute 1).2
  obtain ⟨found, hreply, _, hmem, hparts⟩ := history_answers_stored_range hstore hfinite
    (hasks 0 60 (by decide) (by decide))
  have hanswer : (respond twoMinuteService (asked 0 60).request).2 =
      rangeReply (asked 0 60) found := by
    rw [hreply]
  refine ⟨found, hanswer, ?_, ?_, ?_⟩
  · apply (hmem (Store.minute 0)).mpr
    decide +kernel
  · apply (hmem (Store.correctedMinute 1)).mpr
    decide +kernel
  · exact hparts 59 _ _ (by decide) (by decide) (hasks 0 59 (by decide) (by decide))
      (hasks 60 60 (by decide) (by decide))

end Http

end Candlestick

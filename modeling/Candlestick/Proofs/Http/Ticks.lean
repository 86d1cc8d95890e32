import Candlestick.Http.Route
import Candlestick.Proofs.Json.RoundTrip
import Candlestick.Proofs.Http.History
import Candlestick.Proofs.Text.Utf8
import Candlestick.Proofs.Tick

/-!
# Two ways to the engine

What can be posted can be sent as a message too. A post is checked under its canonical symbol at
once; a message is checked under the symbol as it is spelled and then under its canonical form. The
engine takes in the same tick both ways (`PostedTick.taken?`), or none; and a post of which none is
taken in never gets the good status (`postTick_of_none`).
-/

namespace Candlestick

namespace Http

/-- The status that a client gets; where a reply cannot be sent, that of an error of the server. -/
def Reply.status : Reply → Nat
  | .json status _ => status
  | .bare status => status
  | .unsendable => 500

theorem Reply.status_send (status : Nat) (body : Json) :
    (send status body).status = if body.isFinite then status else 500 := by
  unfold send
  split <;> rfl

theorem Reply.status_send_ne {status : Nat} (h : status ≠ 200) (body : Json) :
    (send status body).status ≠ 200 := by
  rw [status_send]
  split
  · exact h
  · decide

theorem Reply.status_encode_ne {reply : Reply} (h : reply.status ≠ 200) :
    reply.encode.status ≠ 200 := by
  cases reply with
  | json status body =>
      rw [encode]
      split
      · exact h
      · decide
  | bare status => exact h
  | unsendable => exact h

theorem Reply.status_issues_ne (listed : List (List (String × Json))) :
    (issues listed).status ≠ 200 :=
  status_send_ne (by decide) _

theorem Reply.status_detail_ne {status : Nat} (h : status ≠ 200) (message : String) :
    (detail status message).status ≠ 200 :=
  status_send_ne h _

/-- The tick that a request posts. There is none if the content is no JSON, if a field is not as it
should be, or if a rule of ticks is broken. -/
def Request.tick? (r : Request) : Option Tick :=
  match r.content with
  | .json body =>
    match PostedTick.check body with
    | .valid posted => posted.tick.toOption
    | .invalid _ => none
  | _ => none

/-- The tick has the prices and the time of the fields in the content, under the canonical form of
their symbol. -/
def Request.Posts (r : Request) (t : Tick) : Prop :=
  ∃ body posted, r.content = .json body ∧ PostedTick.check body = .valid posted ∧
    t.symbol = Symbol.normalize posted.symbol ∧ t.bid = posted.bid ∧ t.ask = posted.ask ∧
    t.timestamp = posted.timestamp

theorem Request.tick?_eq_some_iff {r : Request} {t : Tick} : r.tick? = some t ↔ r.Posts t := by
  constructor
  · intro h
    unfold tick? at h
    split at h
    · next body hbody =>
        split at h
        · next posted hposted =>
            cases htick : posted.tick with
            | error fault =>
                rw [htick] at h
                cases h
            | ok made =>
                rw [htick] at h
                cases h
                exact ⟨body, posted, hbody, hposted, Tick.make_eq_ok_iff.mp htick⟩
        · cases h
    · cases h
  · rintro ⟨body, posted, hbody, hposted, hparts⟩
    have htick : posted.tick = .ok t := Tick.make_eq_ok_iff.mpr hparts
    simp only [tick?, hbody, hposted, htick]
    rfl

theorem postTick_of_tick? {r : Request} {t : Tick} (h : r.tick? = some t) (s : Service) :
    postTick s r = ((s.ingest t).1, acceptedReply t) := by
  obtain ⟨body, posted, hbody, hposted, hparts⟩ := Request.tick?_eq_some_iff.mp h
  have htick : posted.tick = .ok t := Tick.make_eq_ok_iff.mpr hparts
  simp only [postTick, hbody, postValue, hposted, htick]

/-- Without a tick the service stays as it is, and the reply does not say that one was accepted. -/
theorem postTick_of_none {r : Request} (h : r.tick? = none) (s : Service) :
    (postTick s r).1 = s ∧ (postTick s r).2.status ≠ 200 := by
  have hissues : ∀ listed, (s, Reply.issues listed).1 = s ∧
      (s, Reply.issues listed).2.status ≠ 200 :=
    fun listed ↦ ⟨rfl, Reply.status_issues_ne listed⟩
  unfold postTick
  split
  · exact hissues _
  · exact hissues _
  · exact ⟨rfl, Reply.status_detail_ne (by decide) _⟩
  · next body hbody =>
      unfold postValue
      split
      · exact hissues _
      · next posted hposted =>
          split
          · exact ⟨rfl, Reply.status_detail_ne (by decide) _⟩
          · next t htick =>
              have hsome := Request.tick?_eq_some_iff.mpr
                ⟨body, posted, hbody, hposted, Tick.make_eq_ok_iff.mp htick⟩
              rw [h] at hsome
              cases hsome

theorem fst_postTick (s : Service) (r : Request) :
    (postTick s r).1 = r.tick?.elim s fun t ↦ (s.ingest t).1 := by
  cases h : r.tick? with
  | none => exact (postTick_of_none h s).1
  | some t => exact congrArg Prod.fst (postTick_of_tick? h s)

namespace PostedTick

/-- The JSON object of the four fields. -/
def toJson (p : PostedTick) : Json :=
  .object [("symbol", .text p.symbol), ("bid", .real p.bid), ("ask", .real p.ask),
    ("timestamp", .int p.timestamp)]

/-- A text that holds the four fields, perhaps with other blanks or escapes than are written. -/
def SpelledBy (p : PostedTick) (text : String) : Prop :=
  Json.read text = Json.read p.toJson.write

/-- The tick that is taken in. There is none if a rule of ticks is broken, and none if the time has
more digits than a reader of JSON admits. -/
def taken? (p : PostedTick) : Option Tick :=
  match p.toJson.excess? with
  | some _ => none
  | none => p.tick.toOption

theorem distinct_toJson (p : PostedTick) : p.toJson.Distinct := by
  have hnames : ["symbol", "bid", "ask", "timestamp"].Nodup := by decide
  exact ⟨hnames, trivial, trivial, trivial, trivial, trivial⟩

variable {p : PostedTick} {text : String}

theorem SpelledBy.read_eq (h : p.SpelledBy text) :
    Json.read text = Json.Reader.unlessExcess p.toJson.excess? p.toJson :=
  h.trans (Json.read_write p.toJson p.distinct_toJson)

/-! ## The post -/

theorem SpelledBy.ne_empty (h : p.SpelledBy text) : text ≠ "" := by
  rintro rfl
  have hread := h.read_eq
  generalize p.toJson.excess? = excess at hread
  cases excess <;> cases hread

theorem SpelledBy.jsonContent_eq (h : p.SpelledBy text) :
    Request.jsonContent text =
      p.toJson.excess?.elim (.json p.toJson) fun _ ↦ .unreadable := by
  have hread := h.read_eq
  generalize p.toJson.excess? = excess at hread ⊢
  unfold Json.read at hread
  split at hread
  · cases excess <;> cases hread
  · next hmark =>
      unfold Request.jsonContent
      split
      · next hbegins => exact absurd hbegins (hmark _)
      · cases excess <;> simp only [hread] <;> rfl

theorem SpelledBy.respond_eq (h : p.SpelledBy text) (s : Service) (query : List (String × String))
    {contentType : String} (htype : Request.isJsonType contentType = true) :
    (respond s ⟨"POST", "/ticks", query, text, some contentType⟩).1 =
      p.taken?.elim s fun t ↦ (s.ingest t).1 := by
  have hroute : Route.ofPath? "/ticks" = some .ticks := by decide
  have htick : Request.tick? ⟨"POST", "/ticks", query, text, some contentType⟩ = p.taken? := by
    have hcontent : Request.content ⟨"POST", "/ticks", query, text, some contentType⟩ =
        p.toJson.excess?.elim (.json p.toJson) fun _ ↦ .unreadable := by
      simp [Request.content, h.ne_empty, htype, h.jsonContent_eq]
    rw [Request.tick?, hcontent, taken?]
    cases p.toJson.excess? <;> rfl
  rw [respond_eq_serve hroute rfl, serve, fst_postTick, htick]

/-! ## The message -/

theorem ofJson_toJson (p : PostedTick) :
    Tick.ofJson p.toJson = (Tick.make p.symbol p.bid p.ask p.timestamp).mapError .invalid := by
  have hsymbol : p.toJson.require "symbol" = .ok (.text p.symbol) := rfl
  have hbid : p.toJson.require "bid" = .ok (.real p.bid) := rfl
  have hask : p.toJson.require "ask" = .ok (.real p.ask) := rfl
  have htime : p.toJson.require "timestamp" = .ok (.int p.timestamp) := rfl
  simp only [Tick.ofJson, hsymbol, hbid, hask, htime, Except.mapError, bind, Except.bind,
    Json.decimal, Json.integer]

theorem SpelledBy.tickOf_eq (h : p.SpelledBy text) :
    (Consumer.tickOf (Text.Utf8.encode text)).toOption = p.taken? := by
  have hread := h.read_eq
  have hmessage : p.toJson.excess? = none →
      Tick.ofMessage text = (Tick.make p.symbol p.bid p.ask p.timestamp).mapError .invalid := by
    intro hnone
    rw [Tick.ofMessage, hread, hnone, ← ofJson_toJson]
    rfl
  simp only [Consumer.tickOf, Text.Utf8.decode?_encode, taken?]
  cases hexcess : p.toJson.excess? with
  | some digits =>
      rw [Tick.ofMessage, hread, hexcess]
      rfl
  | none =>
      rw [hmessage hexcess, tick]
      cases hmake : Tick.make p.symbol p.bid p.ask p.timestamp with
      | ok t =>
          obtain ⟨hsymbol, hbid, hask, htime⟩ := Tick.make_eq_ok_iff.mp hmake
          rw [← hsymbol, ← hbid, ← hask, ← htime]
          have hspelled : ((Except.ok t : Except Tick.Fault Tick).mapError .invalid).mapError
              Consumer.Rejection.notTick = .ok t := rfl
          simp only [hspelled, bind, Except.bind]
          generalize Tick.make (Symbol.normalize t.symbol) t.bid t.ask t.timestamp = canonical
          cases canonical <;> rfl
      | error fault =>
          obtain ⟨other, hother⟩ := Tick.make_normalize_of_error hmake
          rw [hother]
          rfl

theorem tick_of_taken? {t : Tick} (h : p.taken? = some t) : p.tick = .ok t := by
  unfold taken? at h
  split at h
  · cases h
  · cases htick : p.tick with
    | ok made =>
        rw [htick] at h
        cases h
        rfl
    | error fault =>
        rw [htick] at h
        cases h

end PostedTick

end Http

/-- A message that is no tick leaves the engine as it is. -/
theorem Consumer.engine_handle (refuses : Refusals) (c : Consumer) (e : Engine)
    (bytes : List UInt8) : (c.handle refuses e bytes).2.1 =
      (tickOf bytes).toOption.elim e fun t ↦ (e.ingest refuses t).1 := by
  unfold handle
  cases tickOf bytes with
  | error rejection => rfl
  | ok t =>
      simp only [Except.toOption, Option.elim_some]
      split
      · next heq => rw [heq]
      · next heq => rw [heq]

namespace Http

open PostedTick

/-- A tick that is posted and the same tick in a message bring an engine to the same state. Either
both leave it as it was, or both have it take in the one tick with the canonical symbol and the
prices and the time that were sent; and what is stored under this symbol is found under each of its
spellings. -/
theorem post_agrees_with_message (s : Service) (c : Consumer) (p : PostedTick)
    (query : List (String × String)) {body message contentType : String}
    (hbody : p.SpelledBy body) (hmessage : p.SpelledBy message)
    (htype : Request.isJsonType contentType = true) :
    let posted := (respond s ⟨"POST", "/ticks", query, body, some contentType⟩).1.engine
    let delivered := (c.handle .none s.engine (Text.Utf8.encode message)).2.1
    p.taken? = none ∧ posted = s.engine ∧ delivered = s.engine ∨
      ∃ t, p.taken? = some t ∧ posted = (s.engine.ingest .none t).1 ∧
        delivered = (s.engine.ingest .none t).1 ∧
        t.symbol = Symbol.normalize p.symbol ∧ t.bid = p.bid ∧ t.ask = p.ask ∧
        t.timestamp = p.timestamp ∧ Symbol.normalize t.symbol = t.symbol ∧
        ∀ spelling, Symbol.normalize spelling = t.symbol →
          ∀ later, FoundAs later spelling t.symbol := by
  intro posted delivered
  have hposted : posted = p.taken?.elim s.engine fun t ↦ (s.engine.ingest .none t).1 := by
    have hpost : posted = (p.taken?.elim s fun t ↦ (s.ingest t).1).engine :=
      congrArg Service.engine (hbody.respond_eq s query htype)
    rw [hpost]
    cases p.taken? <;> rfl
  have hdelivered : delivered = p.taken?.elim s.engine fun t ↦ (s.engine.ingest .none t).1 := by
    rw [← hmessage.tickOf_eq]
    exact c.engine_handle .none s.engine _
  cases htaken : p.taken? with
  | none =>
      rw [htaken] at hposted hdelivered
      exact Or.inl ⟨rfl, hposted, hdelivered⟩
  | some t =>
      rw [htaken] at hposted hdelivered
      obtain ⟨hsymbol, hbid, hask, htime⟩ := Tick.make_eq_ok_iff.mp (tick_of_taken? htaken)
      refine Or.inr ⟨t, rfl, hposted, hdelivered, hsymbol, hbid, hask, htime, ?_, ?_⟩
      · rw [hsymbol, Symbol.normalize_normalize]
      · intro spelling hspelling later
        have hblank : Symbol.isBlank spelling = false := by
          rw [← Symbol.isBlank_normalize, hspelling, t.symbol_not_blank]
        rw [← hspelling]
        exact foundAs_normalize hblank later

/-- A tick whose symbol grows longer in upper case. -/
def sharp : PostedTick :=
  ⟨" stra\u00dfe ", .ofInt 64, .ofInt 66, 10600⟩

/-- A service for candles of one minute, with no sources of its own. -/
def minuteService : Service :=
  ⟨⟨.ofInt 1, false, false, 0, 0⟩, .fresh [.oneMinute], none, none, false, .fresh⟩

/-- The service after the tick was posted. -/
def sharpService : Service :=
  (respond minuteService
    ⟨"POST", "/ticks", [], sharp.toJson.write, some "application/json"⟩).1

def sharpQuestion : Request :=
  ⟨"GET", "/history", [("symbol", "Strasse "), ("interval", "1m"), ("from", "0"), ("to", "60")],
    "", none⟩

theorem post_agrees_with_message_sharp :
    sharp.SpelledBy sharp.toJson.write ∧ Request.isJsonType "application/json" = true ∧
      sharpService.engine = ((Consumer.fresh .standard none).handle .none minuteService.engine
        (Text.Utf8.encode sharp.toJson.write)).2.1 ∧
      ∃ candles, candles ≠ [] ∧ (respond sharpService.drain sharpQuestion).2 =
        .ok (historyJson (.answer candles)) := by
  have htype : Request.isJsonType "application/json" = true := by decide +kernel
  have hspelled : sharp.SpelledBy sharp.toJson.write := rfl
  have hagrees := post_agrees_with_message minuteService (.fresh .standard none) sharp []
    hspelled hspelled htype
  rw [← sharpService] at hagrees
  refine ⟨hspelled, htype, ?_⟩
  rcases hagrees with ⟨hnone, _⟩ | ⟨t, _, hposted, hdelivered, hsymbol, _, _, _, _, hfound⟩
  · have hsome : sharp.taken?.isSome = true := by decide +kernel
    rw [hnone] at hsome
    cases hsome
  · refine ⟨hposted.trans hdelivered.symm, ?_⟩
    have hspelling : Symbol.normalize "Strasse " = Symbol.normalize sharp.symbol := by
      decide +kernel
    have hasks : AsksFor sharpQuestion ⟨"Strasse ", "1m", 0, 60⟩ := ⟨rfl, rfl, rfl, rfl, by decide⟩
    obtain ⟨candles, hreply, hmem⟩ := hfound "Strasse " (hspelling.trans hsymbol.symm)
      sharpService.drain sharpQuestion _ hasks rfl
    have hstored : (sharpService.drain.engine.store.get?
        ⟨Symbol.normalize sharp.symbol, "1m", 0⟩).isSome = true := by
      decide +kernel
    obtain ⟨c, hc⟩ := Option.isSome_iff_exists.mp hstored
    have hin : c ∈ candles := (hmem c).mpr ⟨0, by decide, by decide, by rw [hsymbol]; exact hc⟩
    exact ⟨candles, List.ne_nil_of_mem hin, hreply⟩

end Http

end Candlestick

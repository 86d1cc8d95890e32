import Candlestick.Proofs.Double.Overflow
import Candlestick.Proofs.Service.Lifespan

/-!
# Posts, all or nothing

A post either has no tick, and then it leaves the service as it was, or its tick is taken in exactly
once. The reply tells the two apart up to one exception. It names the symbol and the midpoint of the
prices. Where the symbol has half of a surrogate pair or the sum of the prices overflows, these
cannot be sent, so the client is told of an error of the server although the tick was taken in.
-/

namespace Candlestick

namespace Http

/-- The reply to an accepted tick can be sent if the sum of its prices is finite and its symbol can
be given as bytes. -/
theorem status_encode_acceptedReply (t : Tick) : (acceptedReply t).encode.status =
    if (t.bid + t.ask).isFinite && Text.Utf8.isEncodable t.symbol then 200 else 500 := by
  have hmid : t.mid.isFinite = (t.bid + t.ask).isFinite := Double.isFinite_midpoint t.bid t.ask
  set body := Json.object [("status", .text "accepted"), ("symbol", .text t.symbol),
    ("mid", .real t.mid)] with hbody
  have hfinite : body.isFinite = (t.bid + t.ask).isFinite := by
    rw [← hmid]
    exact Bool.and_true _
  have hnames : (["status", "accepted", "symbol", "mid"].all Text.Utf8.isEncodable) = true := by
    decide
  have hencodable : body.isEncodable = Text.Utf8.isEncodable t.symbol := by
    simp only [List.all_cons, List.all_nil, Bool.and_true, Bool.and_eq_true] at hnames
    simp [hbody, Json.isEncodable, Json.fieldsAreEncodable, hnames]
  rw [acceptedReply, Reply.ok, Reply.send, hfinite]
  cases (t.bid + t.ask).isFinite with
  | false => rfl
  | true =>
      rw [if_pos rfl, Reply.encode, hencodable]
      cases Text.Utf8.isEncodable t.symbol <;> rfl

end Http

namespace Service

variable {s : Service} {r : Http.Request} {stopped : Bool}

/-- Saves of a service are not refused, so no ingest is broken off. -/
theorem Steady.ingest_eq (h : s.Steady stopped) (t : Tick) :
    s.ingest t = ((s.ingest t).1, .ok ()) := by
  have hreturns : (s.engine.ingest .none t).2 = .ok () := h.sound.perform_returns (.ingest t)
  apply Prod.ext
  · rfl
  · exact hreturns

/-- Whatever a service has been through: if the status of a post is 200, then the service has taken
in the posted tick, and done nothing else. If it is another one, then the service is as before and
there was no tick to take in; or else the sum of the prices overflows or the symbol has half of a
surrogate pair, and the tick was taken in all the same. -/
theorem post_takes_in_once_or_nothing {settings : Settings} {entropy : Int}
    {conduct : Broker.Conduct} {fresh : Service}
    (h : ofSettings? entropy settings conduct = some fresh) (incidents : List Incident)
    (hpath : Http.Route.ofPath? r.path = some .ticks) (hmethod : r.method = "POST") :
    let s := fresh.undergoAll incidents
    let after := (Http.respond s r).1
    let status := (Http.respond s r).2.status
    (status = 200 → ∃ t, r.Posts t ∧ (t.bid + t.ask).isFinite = true ∧
      Text.Utf8.isEncodable t.symbol = true ∧ s.ingest t = (after, .ok ())) ∧
    (status ≠ 200 → after = s ∧ (∀ t, ¬ r.Posts t) ∨
      ∃ t, r.Posts t ∧
        ((t.bid + t.ask).isFinite = false ∨ Text.Utf8.isEncodable t.symbol = false) ∧
        s.ingest t = (after, .ok ())) := by
  intro s after status
  have hsteady := (steady_ofSettings? h).undergoAll incidents
  have hrespond : Http.respond s r = ((Http.postTick s r).1, (Http.postTick s r).2.encode) :=
    Http.respond_eq_serve hpath hmethod s
  have hafter : after = (Http.postTick s r).1 := by
    change (Http.respond s r).1 = _
    rw [hrespond]
  have hstatus : status = (Http.postTick s r).2.encode.status := by
    change (Http.respond s r).2.status = _
    rw [hrespond]
  cases htick : r.tick? with
  | none =>
      obtain ⟨hkeeps, hbad⟩ := Http.postTick_of_none htick s
      have hnever : status ≠ 200 := by
        rw [hstatus]
        exact Http.Reply.status_encode_ne hbad
      refine ⟨fun hgood ↦ absurd hgood hnever, fun _ ↦ Or.inl ⟨hafter.trans hkeeps, ?_⟩⟩
      intro t hposts
      rw [Http.Request.tick?_eq_some_iff.mpr hposts] at htick
      cases htick
  | some t =>
      have hposts := Http.Request.tick?_eq_some_iff.mp htick
      rw [Http.postTick_of_tick? htick s] at hafter hstatus
      rw [Http.status_encode_acceptedReply t] at hstatus
      have hingest : s.ingest t = (after, .ok ()) := by
        rw [hafter]
        exact hsteady.ingest_eq t
      cases htold : (t.bid + t.ask).isFinite && Text.Utf8.isEncodable t.symbol with
      | true =>
          rw [htold, if_pos rfl] at hstatus
          obtain ⟨hfinite, hencodable⟩ := Bool.and_eq_true_iff.mp htold
          exact ⟨fun _ ↦ ⟨t, hposts, hfinite, hencodable, hingest⟩,
            fun hbad ↦ absurd hstatus hbad⟩
      | false =>
          rw [htold, if_neg Bool.false_ne_true] at hstatus
          have hwhy := Bool.and_eq_false_iff.mp htold
          refine ⟨fun hgood ↦ ?_, fun _ ↦ Or.inr ⟨t, hposts, hwhy, hingest⟩⟩
          rw [hstatus] at hgood
          exact absurd hgood (by decide)

/-- A post of two prices that are finite and have no finite sum. -/
def overflowing : Http.Request where
  method := "POST"
  path := "/ticks"
  query := []
  body := "\x7b\"symbol\": \"a\", \"bid\": 9e307, \"ask\": 9e307, \"timestamp\": 10000\x7d"
  contentType := some "application/json"

theorem post_takes_in_once_or_nothing_overflowing :
    ∃ s t, (ofSettings? 0 onBus).map (·.undergoAll [.event (.start .none 0)]) = some s ∧
      (Http.respond s overflowing).2.status = 500 ∧ s.engine.aggregatorCount = 0 ∧
      (Http.respond s overflowing).1.engine.aggregatorCount = 7 ∧ overflowing.Posts t ∧
      (t.bid + t.ask).isFinite = false ∧ s.ingest t = ((Http.respond s overflowing).1, .ok ()) := by
  have hcounts : (ofSettings? 0 onBus).map (fun fresh ↦
      let s := fresh.undergoAll [.event (.start .none 0)]
      ((Http.respond s overflowing).2.status, s.engine.aggregatorCount,
        (Http.respond s overflowing).1.engine.aggregatorCount)) = some (500, 0, 7) := by
    decide +kernel
  obtain ⟨fresh, hfresh, hcounts⟩ := Option.map_eq_some_iff.mp hcounts
  obtain ⟨hstatus, hbefore, hafter⟩ : _ ∧ _ ∧ _ := by simpa only [Prod.mk.injEq] using hcounts
  have hpath : Http.Route.ofPath? overflowing.path = some .ticks := by decide
  have hlaw := (post_takes_in_once_or_nothing hfresh [.event (.start .none 0)] hpath rfl).2
  rcases hlaw (by rw [hstatus]; decide) with ⟨hsame, _⟩ | ⟨t, hposts, hwhy, hingest⟩
  · rw [hsame, hbefore] at hafter
    cases hafter
  · have hsymbol : overflowing.tick?.map (fun t ↦ Text.Utf8.isEncodable t.symbol) = some true := by
      decide +kernel
    rw [Http.Request.tick?_eq_some_iff.mpr hposts] at hsymbol
    have hencodable : Text.Utf8.isEncodable t.symbol = true := Option.some.inj hsymbol
    have hinfinite := hwhy.resolve_right (by simp [hencodable])
    exact ⟨_, t, by rw [hfresh]; rfl, hstatus, hbefore, hafter, hposts, hinfinite, hingest⟩

/-- Half of a surrogate pair, as a symbol, has the same effect. -/
example : (ofSettings? 0 .standard .separate).map (fun s ↦
    let told := Http.respond s ⟨"POST", "/ticks", [],
      "\x7b\"symbol\": \"\\ud800\", \"bid\": 1, \"ask\": 1, \"timestamp\": 10000\x7d",
      some "application/json"⟩
    (told.2.status, told.1.engine.aggregatorCount)) = some (500, 7) := by
  decide +kernel

end Service

end Candlestick

import Candlestick.Proofs.Bus.Reading
import Candlestick.Proofs.Engine.Interruption

/-!
# Messages taken in

Whatever a sequence of messages holds, the engine goes through the ticks that they carry and the
counts of accepted and rejected messages add up (`Consumer.handleAll_counts`). A message cannot
fail: only a refused save could end a call, and here none is.
-/

namespace Candlestick.Consumer

variable {bytes : List UInt8} {t : Tick} {c : Consumer} {e : Engine}

/-! ## One message -/

theorem handle_of_none (h : tick? bytes = none) (refuses : Refusals) (c : Consumer) (e : Engine) :
    c.handle refuses e bytes = ({ c with rejected := c.rejected + 1 }, e, .ok ()) := by
  unfold tick? at h
  unfold handle
  cases htick : tickOf bytes with
  | error rejection => rfl
  | ok t =>
      rw [htick] at h
      cases h

theorem handle_of_some (h : tick? bytes = some t) (hsound : e.Sound) (c : Consumer) :
    c.handle .none e bytes =
      ({ c with accepted := c.accepted + 1 }, (e.ingest .none t).1, .ok ()) := by
  have hok : (e.ingest .none t).2 = .ok () := hsound.perform_returns (.ingest t)
  unfold handle
  rw [tickOf_eq_ok_iff.mpr (tick?_eq_some_iff.mp h)]
  dsimp only
  split
  · next heq => rw [heq]
  · next heq =>
      rw [heq] at hok
      cases hok

/-! ## Several messages -/

/-- A consumer and its engine after several messages, whichever of them failed. -/
def handleAll (refuses : Refusals) (state : Consumer × Engine) (messages : List (List UInt8)) :
    Consumer × Engine :=
  messages.foldl
    (fun state bytes ↦
      let (c, e, _) := state.1.handle refuses state.2 bytes
      (c, e)) state

theorem handleAll_cons (refuses : Refusals) (bytes : List UInt8) (rest : List (List UInt8)) :
    handleAll refuses (c, e) (bytes :: rest) =
      handleAll refuses
        ((c.handle refuses e bytes).1, (c.handle refuses e bytes).2.1) rest :=
  rfl

/-- The messages that carry a tick are counted as accepted, and all others as rejected. -/
theorem handleAll_eq (hsound : e.Sound) (c : Consumer) (messages : List (List UInt8)) :
    handleAll .none (c, e) messages =
      ({ c with
          accepted := c.accepted + (messages.filterMap tick?).length
          rejected := c.rejected + messages.countP fun bytes ↦ (tick? bytes).isNone },
        e.run .none ((messages.filterMap tick?).map .ingest)) := by
  induction messages generalizing c e with
  | nil => rfl
  | cons bytes rest ih =>
      rw [handleAll_cons]
      cases htick : tick? bytes with
      | none =>
          rw [handle_of_none htick, ih hsound, List.filterMap_cons_none htick, List.countP_cons,
            htick]
          simp only [Option.isNone_none, if_true, Nat.add_assoc, Nat.add_comm 1]
      | some t =>
          have hnext : (e.ingest .none t).1.Sound := hsound.perform .none (.ingest t)
          rw [handle_of_some htick hsound, ih hnext, List.filterMap_cons_some htick,
            List.countP_cons, htick, List.length_cons]
          simp only [Option.isNone_some, Bool.false_eq_true, if_false, Nat.add_assoc,
            Nat.add_comm 1, Nat.add_zero]
          rfl

theorem length_filterMap_tick?_add (messages : List (List UInt8)) :
    (messages.filterMap tick?).length + messages.countP (fun bytes ↦ (tick? bytes).isNone) =
      messages.length := by
  have hsome : (messages.filterMap tick?).length =
      messages.countP fun bytes ↦ (tick? bytes).isSome :=
    List.length_filterMap_eq_countP
  rw [hsome, List.length_eq_countP_add_countP fun bytes ↦ (tick? bytes).isSome]
  refine congrArg _ (List.countP_congr fun bytes _ ↦ ?_)
  simp

/-- No message makes a consumer fail. Each is counted once: as accepted, after the engine has taken
in the tick that it carries, or as rejected, and then it carries no tick and the engine is as
before. So the counts grow by the number of messages, and the engine has gone through the ticks of
the accepted ones, in order. They are valid and under their canonical symbols. -/
theorem handleAll_counts (hreachable : e.Reachable) (c : Consumer)
    (messages : List (List UInt8)) :
    (∀ before bytes after, messages = before ++ bytes :: after →
      let reached := handleAll .none (c, e) before
      (∃ t, Carries bytes t ∧ reached.1.handle .none reached.2 bytes =
        ({ reached.1 with accepted := reached.1.accepted + 1 },
          (reached.2.ingest .none t).1, .ok ())) ∨
      (∀ t, ¬ Carries bytes t) ∧ reached.1.handle .none reached.2 bytes =
        ({ reached.1 with rejected := reached.1.rejected + 1 }, reached.2, .ok ())) ∧
    (∀ bytes t, tick? bytes = some t ↔ Carries bytes t) ∧
    let ticks := messages.filterMap tick?
    let final := handleAll .none (c, e) messages
    final.1.accepted = c.accepted + ticks.length ∧
    final.1.accepted + final.1.rejected = c.accepted + c.rejected + messages.length ∧
    final.2 = e.run .none (ticks.map .ingest) ∧
    ∀ t ∈ ticks, Symbol.normalize t.symbol = t.symbol ∧ Symbol.isBlank t.symbol = false ∧
      Double.zero < t.bid ∧ Double.zero < t.ask ∧ ¬ t.ask < t.bid ∧ 0 < t.timestamp := by
  refine ⟨?_, fun bytes t ↦ tick?_eq_some_iff, ?_⟩
  · rintro before bytes after -
    intro reached
    have hreached : reached.2.Sound := by
      have hengine := congrArg Prod.snd (handleAll_eq hreachable.sound c before)
      rw [hengine]
      exact hreachable.sound.run .none _
    cases htick : tick? bytes with
    | none =>
        refine Or.inr ⟨?_, handle_of_none htick .none _ _⟩
        intro t ht
        rw [tick?_eq_some_iff.mpr ht] at htick
        cases htick
    | some t => exact Or.inl ⟨t, tick?_eq_some_iff.mp htick, handle_of_some htick hreached _⟩
  · intro ticks final
    have hfinal := handleAll_eq hreachable.sound c messages
    refine ⟨congrArg (fun state ↦ state.1.accepted) hfinal, ?_, congrArg Prod.snd hfinal, ?_⟩
    · have hlength := length_filterMap_tick?_add messages
      have haccepted : final.1.accepted = _ := congrArg (fun state ↦ state.1.accepted) hfinal
      have hrejected : final.1.rejected = _ := congrArg (fun state ↦ state.1.rejected) hfinal
      rw [haccepted, hrejected]
      dsimp only
      omega
    · intro t ht
      obtain ⟨bytes, _, htick⟩ := List.mem_filterMap.mp ht
      exact ⟨(tick?_eq_some_iff.mp htick).normalize_symbol, t.symbol_not_blank, t.bid_pos,
        t.ask_pos, t.ask_not_lt_bid, t.timestamp_pos⟩

/-- Two ticks among messages that carry none: bytes that are no text, a price that is no numeral,
and a time without end. The prices of the second tick are spelled as texts. -/
def mixedMessages : List (List UInt8) :=
  [Text.Utf8.encode
      "\x7b\"symbol\": \" btc-usd\", \"bid\": 99.5, \"ask\": 101, \"timestamp\": 10600\x7d",
    [0xff, 0x7b],
    Text.Utf8.encode "\x7b\"symbol\": \"A\", \"bid\": null, \"ask\": 1, \"timestamp\": 1\x7d",
    Text.Utf8.encode
      "\x7b\"symbol\": \"A\", \"bid\": 1, \"ask\": 1, \"timestamp\": Infinity\x7d",
    Text.Utf8.encode
      "\x7b\"symbol\": \"A\", \"bid\": \"20\", \"ask\": \"22\", \"timestamp\": 70000.5\x7d"]

theorem handleAll_counts_mixedMessages :
    (Engine.fresh [.oneMinute]).Reachable ∧
      (handleAll .none (.fresh .standard none, .fresh [.oneMinute]) mixedMessages).1.accepted = 2 ∧
      (handleAll .none (.fresh .standard none, .fresh [.oneMinute]) mixedMessages).1.rejected = 3 ∧
      ∃ ticks : List Tick, ticks.map Tick.symbol = ["BTC-USD", "A"] ∧
        (handleAll .none (.fresh .standard none, .fresh [.oneMinute]) mixedMessages).2 =
          (Engine.fresh [.oneMinute]).run .none (ticks.map .ingest) := by
  have hreachable : (Engine.fresh [.oneMinute]).Reachable := .fresh _
  obtain ⟨_, _, haccepted, hsum, hengine, _⟩ :=
    handleAll_counts hreachable (.fresh .standard none) mixedMessages
  have hsymbols : (mixedMessages.filterMap tick?).map Tick.symbol = ["BTC-USD", "A"] := by
    decide +kernel
  have hticks : (mixedMessages.filterMap tick?).length = 2 := by
    rw [← List.length_map Tick.symbol, hsymbols]
    rfl
  rw [hticks] at haccepted
  rw [haccepted] at hsum
  exact ⟨hreachable, haccepted, Nat.add_left_cancel hsum, _, hsymbols, hengine⟩

end Candlestick.Consumer

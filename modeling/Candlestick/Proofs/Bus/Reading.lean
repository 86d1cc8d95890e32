import Candlestick.Bus.Consumer
import Candlestick.Proofs.Data.Checked
import Candlestick.Proofs.Tick

/-!
# Ticks in messages

Whether a message carries a tick, and which, is said without going through the layers that read it:
the bytes have to be a text, the text an object, and its fields a symbol and three numerals that
keep the rules of ticks (`Consumer.tickOf_eq_ok_iff`). The tick is under the canonical form of the
symbol that is spelled there.
-/

namespace Candlestick

theorem Json.require_object_eq_ok_iff {fields : List (String × Json)} {name : String}
    {item : Json} : (Json.object fields).require name = .ok item ↔
      fields.lookup name = some item := by
  unfold require
  dsimp only
  cases fields.lookup name with
  | none => exact iff_of_false (fun h ↦ nomatch h) fun h ↦ nomatch h
  | some other => simp

namespace Tick

variable {t : Tick}

/-- The fields of an object hold the symbol of a tick as it is spelled, and its numbers. -/
def HeldBy (t : Tick) (fields : List (String × Json)) : Prop :=
  fields.lookup "symbol" = some (.text t.symbol) ∧
    (∃ value, fields.lookup "bid" = some value ∧ value.decimal = .ok t.bid) ∧
    (∃ value, fields.lookup "ask" = some value ∧ value.decimal = .ok t.ask) ∧
    ∃ value, fields.lookup "timestamp" = some value ∧ value.integer = .ok t.timestamp

theorem make_blank (bid ask : Double) (timestamp : Int) :
    make "" bid ask timestamp = .error .blankSymbol := by
  have hblank : Symbol.isBlank "" = true := by decide
  simp [make, hblank]

theorem ofJson_object_eq_ok_iff {fields : List (String × Json)} :
    ofJson (.object fields) = .ok t ↔ t.HeldBy fields := by
  simp only [ofJson, bind_eq_ok_iff, mapError_eq_ok_iff, Json.require_object_eq_ok_iff]
  constructor
  · rintro ⟨symbol, hsymbol, bidItem, hbidItem, bid, hbid, askItem, haskItem, ask, hask, timeItem,
      htimeItem, timestamp, htimestamp, hmake⟩
    cases symbol
    case text spelled =>
      obtain ⟨rfl, rfl, rfl, rfl⟩ := make_eq_ok_iff.mp hmake
      exact ⟨hsymbol, ⟨_, hbidItem, hbid⟩, ⟨_, haskItem, hask⟩, _, htimeItem, htimestamp⟩
    -- A symbol that is no text is read as a blank one.
    all_goals
      rw [make_blank] at hmake
      cases hmake
  · rintro ⟨hsymbol, ⟨bidItem, hbidItem, hbid⟩, ⟨askItem, haskItem, hask⟩, timeItem, htimeItem,
      htimestamp⟩
    exact ⟨_, hsymbol, bidItem, hbidItem, _, hbid, askItem, haskItem, _, hask, timeItem, htimeItem,
      _, htimestamp, make_self t⟩

theorem ofMessage_eq_ok_iff {text : String} :
    ofMessage text = .ok t ↔ ∃ fields, Json.read text = .ok (.object fields) ∧ t.HeldBy fields := by
  simp only [ofMessage, bind_eq_ok_iff, mapError_eq_ok_iff]
  constructor
  · rintro ⟨value, hread, hvalue⟩
    split at hvalue
    · next fields => exact ⟨fields, hread, ofJson_object_eq_ok_iff.mp hvalue⟩
    · cases hvalue
  · rintro ⟨fields, hread, hheld⟩
    exact ⟨_, hread, ofJson_object_eq_ok_iff.mpr hheld⟩

end Tick

namespace Consumer

variable {bytes : List UInt8} {t : Tick}

/-- The bytes are a text, the text is an object, and in its fields there is the tick under some
spelling of its canonical symbol. -/
def Carries (bytes : List UInt8) (t : Tick) : Prop :=
  ∃ (text : String) (fields : List (String × Json)) (spelled : Tick),
    Text.Utf8.decode? bytes = some text ∧ Json.read text = .ok (.object fields) ∧
    spelled.HeldBy fields ∧ t.symbol = Symbol.normalize spelled.symbol ∧ t.bid = spelled.bid ∧
    t.ask = spelled.ask ∧ t.timestamp = spelled.timestamp

theorem tickOf_eq_ok_iff : tickOf bytes = .ok t ↔ Carries bytes t := by
  unfold tickOf Carries
  cases Text.Utf8.decode? bytes with
  | none =>
      refine iff_of_false (fun h ↦ nomatch h) ?_
      rintro ⟨_, _, _, h, _⟩
      cases h
  | some text =>
      simp only [bind_eq_ok_iff, mapError_eq_ok_iff, Tick.ofMessage_eq_ok_iff, Tick.make_eq_ok_iff]
      constructor
      · rintro ⟨spelled, ⟨fields, hread, hheld⟩, hparts⟩
        exact ⟨text, fields, spelled, rfl, hread, hheld, hparts⟩
      · rintro ⟨_, fields, spelled, ⟨⟩, hread, hheld, hparts⟩
        exact ⟨spelled, ⟨fields, hread, hheld⟩, hparts⟩

theorem Carries.normalize_symbol (h : Carries bytes t) :
    Symbol.normalize t.symbol = t.symbol := by
  obtain ⟨_, _, spelled, _, _, _, hsymbol, _⟩ := h
  rw [hsymbol, Symbol.normalize_normalize]

/-- The tick that a message carries, if there is one. -/
def tick? (bytes : List UInt8) : Option Tick :=
  (tickOf bytes).toOption

theorem tick?_eq_some_iff : tick? bytes = some t ↔ Carries bytes t := by
  rw [← tickOf_eq_ok_iff, tick?]
  cases tickOf bytes <;> simp [Except.toOption]

end Consumer

end Candlestick

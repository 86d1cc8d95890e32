import Candlestick.Proofs.Engine.Acceptance
import Candlestick.Proofs.Walk.Spread

/-!
# The books of a walk

In a round the prices move one after the other. If the round is cut short, the prices before the
one that failed have moved and the others have not (`account_steps`). Over any number of rounds,
whichever saves are refused, the count of a walk is the number of ticks that were taken in, and a
price is the one that the last of them was put around (`booked_rounds`).

The midpoint of that tick need not be the price: bid, ask and their sum are rounded, and half of it
may be the double next to the price.
-/

namespace Candlestick

namespace Walk

/- It does not matter here which number this is. -/
attribute [local irreducible] lowestPrice

variable {σ : Type} {draw : σ → Double × σ} {refuses : Refusals} {now : Int}

/-! ## One round -/

/-- The tick that a step puts around the next price, if there can be one. -/
def offer? (draw : σ → Double × σ) (now : Int) (w : Walk σ) (symbol : String) (price : Double) :
    Option Tick :=
  (tickAround symbol (stepFrom price (draw w.noise).1) now).toOption

/-- The ticks that several steps offer to the engine, the one that ends them included. -/
def offers (draw : σ → Double × σ) (refuses : Refusals) (now : Int) :
    List (String × Double) → Walk σ → Engine → List Tick
  | [], _, _ => []
  | (symbol, price) :: rest, w, e =>
    (w.offer? draw now symbol price).toList ++
      match w.step draw refuses now e symbol price with
      | (_, _, .error _) => []
      | (w, e, .ok _) => offers draw refuses now rest w e

/-- A price that has moved, and the tick that was put around it. -/
structure MovedTo (symbol : String) (price : Double) (t : Tick) : Prop where
  symbol_eq : t.symbol = symbol
  tick_eq : tickAround symbol price t.timestamp = .ok t
  lowest_le : lowestPrice ≤ price
  mid_beside : t.mid.isFinite = true → t.mid.Beside price

theorem movedTo_of_tickAround {symbol : String} {price size : Double} {t : Tick}
    (h : tickAround symbol (stepFrom price size) now = .ok t) :
    MovedTo symbol (stepFrom price size) t := by
  have hlow := lowestPrice_le_stepFrom (isFinite_of_tickAround h)
  refine ⟨symbol_of_tickAround h, ?_, hlow, mid_beside h hlow⟩
  rw [(Tick.make_eq_ok_iff.mp h).2.2.2]
  exact h

/-- How a row of steps ends, given the ticks taken in, the entries that have not moved and the tick
that was offered and not taken in. -/
inductive Ending (now : Int) (taken : List Tick) :
    List (String × Double) → Option Tick → Except Fault (List Tick) → Prop
  | returned : Ending now taken [] none (.ok taken)
  | invalid {symbol : String} {price size : Double} {later : List (String × Double)}
      {fault : Tick.Fault} (h : tickAround symbol (stepFrom price size) now = .error fault) :
      Ending now taken ((symbol, price) :: later) none (.error (.invalidTick fault))
  | refused {symbol : String} {price size : Double} {later : List (String × Double)} {t : Tick}
      {fault : Engine.Fault} (h : tickAround symbol (stepFrom price size) now = .ok t) :
      Ending now taken ((symbol, price) :: later) (some t) (.error (.engine fault))

theorem Ending.cons {taken : List Tick} {kept : List (String × Double)} {refused? : Option Tick}
    {result : Except Fault (List Tick)} (h : Ending now taken kept refused? result) (t : Tick) :
    Ending now (t :: taken) kept refused? (result.map (t :: ·)) := by
  cases h with
  | returned => exact .returned
  | invalid h => exact .invalid h
  | refused h => exact .refused h

/-- What has come of a row of steps: the entries that have moved with the ticks taken in for them,
and the ones left as they were. The first of those may have offered a tick as well. -/
structure Account where
  moved : List (String × Double)
  taken : List Tick
  kept : List (String × Double)
  refused? : Option Tick

def Account.offered (a : Account) : List Tick :=
  a.taken ++ a.refused?.toList

/-- The account of the steps of several entries, which the others of the walk stand before. -/
structure Account.Holds (a : Account) (draw : σ → Double × σ) (refuses : Refusals) (now : Int)
    (w : Walk σ) (e : Engine) (before entries : List (String × Double)) : Prop where
  keys_eq : a.moved.map Prod.fst ++ a.kept.map Prod.fst = entries.map Prod.fst
  kept_suffix : a.kept <:+ entries
  moved_to : List.Forall₂ (fun (entry : String × Double) t ↦
    MovedTo entry.1 entry.2 t ∧ t.timestamp = now) a.moved a.taken
  entries_eq : (w.steps draw refuses now entries e).1.prices.entries =
    before ++ a.moved ++ a.kept
  events_eq : (w.steps draw refuses now entries e).1.events = w.events + a.taken.length
  offers_eq : offers draw refuses now entries w e = a.offered
  engine_eq : (w.steps draw refuses now entries e).2.1 = e.run refuses (a.offered.map .ingest)
  taken_eq : Engine.ended true refuses e (a.offered.map .ingest) = a.taken.map .ingest
  ending : Ending now a.taken a.kept a.refused? (w.steps draw refuses now entries e).2.2

variable {w : Walk σ} {e : Engine} {before rest : List (String × Double)} {symbol : String}
  {price size : Double} {noise : σ} {t : Tick}

theorem offer?_of_ok (hdraw : draw w.noise = (size, noise))
    (htick : tickAround symbol (stepFrom price size) now = .ok t) :
    w.offer? draw now symbol price = some t := by
  rw [offer?, hdraw, htick]
  rfl

theorem offer?_of_error {fault : Tick.Fault} (hdraw : draw w.noise = (size, noise))
    (htick : tickAround symbol (stepFrom price size) now = .error fault) :
    w.offer? draw now symbol price = none := by
  rw [offer?, hdraw, htick]
  rfl

/-- The first entry is left as it was, and so are all the others. -/
theorem Account.holds_stopped {refused? : Option Tick} {fault : Fault} {reached : Engine}
    (hstep : w.step draw refuses now e symbol price = ({ w with noise }, reached, .error fault))
    (hoffer : w.offer? draw now symbol price = refused?)
    (hengine : reached = e.run refuses (refused?.toList.map .ingest))
    (htaken : Engine.ended true refuses e (refused?.toList.map .ingest) = [])
    (hending : Ending now [] ((symbol, price) :: rest) refused? (.error fault))
    (h : w.prices.entries = before ++ (symbol, price) :: rest) :
    Account.Holds ⟨[], [], (symbol, price) :: rest, refused?⟩ draw refuses now w e before
      ((symbol, price) :: rest) where
  keys_eq := rfl
  kept_suffix := List.suffix_refl _
  moved_to := .nil
  entries_eq := by
    rw [steps, hstep, List.append_nil]
    exact h
  events_eq := by
    rw [steps, hstep]
    rfl
  offers_eq := by
    rw [offers, hstep, hoffer]
    exact List.append_nil _
  engine_eq := by
    rw [steps, hstep]
    exact hengine
  taken_eq := htaken
  ending := by
    rw [steps, hstep]
    exact hending

/-- What a step that succeeds leaves behind. -/
def moveTo (w : Walk σ) (noise : σ) (symbol : String) (price : Double) : Walk σ :=
  { { w with noise }.setPrice symbol price with events := w.events + 1 }

theorem Account.Holds.cons {a : Account} (hdraw : draw w.noise = (size, noise))
    (htick : tickAround symbol (stepFrom price size) now = .ok t)
    (hingest : (e.ingest refuses t).2 = .ok ())
    (hstep : w.step draw refuses now e symbol price =
      (w.moveTo noise symbol (stepFrom price size), (e.ingest refuses t).1, .ok t))
    (h : a.Holds draw refuses now (w.moveTo noise symbol (stepFrom price size))
      (e.ingest refuses t).1 (before ++ [(symbol, stepFrom price size)]) rest) :
    Account.Holds ⟨(symbol, stepFrom price size) :: a.moved, t :: a.taken, a.kept, a.refused?⟩
      draw refuses now w e before ((symbol, price) :: rest) where
  keys_eq := congrArg (symbol :: ·) h.keys_eq
  kept_suffix := h.kept_suffix.trans (List.suffix_cons _ _)
  moved_to := .cons ⟨movedTo_of_tickAround htick, (Tick.make_eq_ok_iff.mp htick).2.2.2⟩ h.moved_to
  entries_eq := by
    rw [steps, hstep]
    refine h.entries_eq.trans ?_
    rw [List.append_assoc before, List.singleton_append]
  events_eq := by
    rw [steps, hstep]
    refine h.events_eq.trans ?_
    exact Nat.succ_add_eq_add_succ w.events a.taken.length
  offers_eq := by
    rw [offers, hstep, offer?_of_ok hdraw htick]
    exact congrArg (t :: ·) h.offers_eq
  engine_eq := by
    rw [steps, hstep]
    exact h.engine_eq
  taken_eq := by
    have hfirst := Engine.ended_append true refuses e [.ingest t] (a.offered.map .ingest)
    rw [Engine.ended_ingest_ok hingest] at hfirst
    exact hfirst.trans (congrArg (Engine.Call.ingest t :: ·) h.taken_eq)
  ending := by
    rw [steps, hstep]
    exact h.ending.cons t

/-- Every row of steps has an account, wherever it ends. -/
theorem account_steps (draw : σ → Double × σ) (refuses : Refusals) (now : Int)
    {entries : List (String × Double)} (h : w.prices.entries = before ++ entries) :
    ∃ a : Account, a.Holds draw refuses now w e before entries := by
  induction entries generalizing w e before with
  | nil =>
      refine ⟨⟨[], [], [], none⟩, rfl, List.suffix_refl _, .nil, ?_, rfl, rfl, rfl, rfl, .returned⟩
      rw [List.append_nil]
      exact h
  | cons entry rest ih =>
      obtain ⟨symbol, price⟩ := entry
      obtain ⟨size, noise, hdraw, ⟨fault, htick, hstep⟩ |
        ⟨t, htick, ⟨fault, hingest, hstep⟩ | ⟨hingest, hstep⟩⟩⟩ :=
          step_cases draw refuses now w e symbol price
      · exact ⟨_, Account.holds_stopped hstep (offer?_of_error hdraw htick) rfl rfl
          (.invalid htick) h⟩
      · exact ⟨_, Account.holds_stopped hstep (offer?_of_ok hdraw htick) rfl
          (Engine.ended_ingest_error hingest) (.refused htick) h⟩
      · have hmoved : (w.moveTo noise symbol (stepFrom price size)).prices.entries =
            before ++ [(symbol, stepFrom price size)] ++ rest := by
          rw [List.append_assoc]
          exact Keyed.entries_put h
        obtain ⟨a, ha⟩ := ih hmoved
        exact ⟨_, ha.cons hdraw htick hingest hstep⟩

/-! ## Many rounds -/

/-- What a price is, given the last tick of its symbol that was taken in. -/
def PriceAfter (symbol : String) (price : Double) : Option Tick → Prop
  | none => price = basePrice symbol
  | some t => MovedTo symbol price t

/-- What the books of a walk say about the ticks that were offered to an engine. -/
structure Booked (refuses : Refusals) (e : Engine) (symbols : List String) (offered : List Tick)
    (w : Walk σ) (reached : Engine) : Prop where
  keys_eq : w.prices.keys = symbols
  engine_eq : reached = e.run refuses (offered.map .ingest)
  events_eq : w.events = (Engine.ended true refuses e (offered.map .ingest)).length
  price_after : ∀ symbol price, w.prices.get? symbol = some price → PriceAfter symbol price
    (Engine.ticksOf symbol (Engine.ended true refuses e (offered.map .ingest))).getLast?

theorem priceAfter_put {offered : List Engine.Call} (hmoved : MovedTo symbol price t)
    (h : ∀ query old, w.prices.get? query = some old →
      PriceAfter query old (Engine.ticksOf query offered).getLast?) :
    ∀ query value, (w.prices.put symbol price).get? query = some value →
      PriceAfter query value (Engine.ticksOf query (offered ++ [.ingest t])).getLast? := by
  intro query value hvalue
  rw [Keyed.get?_put] at hvalue
  rw [Engine.ticksOf_append, Engine.ticksOf_ingest, hmoved.symbol_eq]
  by_cases heq : symbol = query
  · rw [if_pos heq] at hvalue ⊢
    cases hvalue
    rw [List.getLast?_concat, ← heq]
    exact hmoved
  · rw [if_neg heq] at hvalue ⊢
    rw [List.append_nil]
    exact h query value hvalue

section Books

variable {start : Engine} {symbols : List String} {offered : List Tick}

theorem Booked.refused {fault : Engine.Fault} (h : Booked refuses start symbols offered w e)
    (noise : σ) (hingest : (e.ingest refuses t).2 = .error fault) :
    Booked refuses start symbols (offered ++ [t]) { w with noise } (e.ingest refuses t).1 := by
  have hended : Engine.ended true refuses start ((offered ++ [t]).map .ingest) =
      Engine.ended true refuses start (offered.map .ingest) := by
    rw [List.map_append, Engine.ended_append, ← h.engine_eq]
    exact (congrArg _ (Engine.ended_ingest_error hingest)).trans (List.append_nil _)
  constructor
  · exact h.keys_eq
  · rw [List.map_append, Engine.run_append, ← h.engine_eq]
    rfl
  · rw [hended]
    exact h.events_eq
  · rw [hended]
    exact h.price_after

theorem Booked.taken (h : Booked refuses start symbols offered w e) (noise : σ)
    (hsymbol : symbol ∈ w.prices.keys) (hingest : (e.ingest refuses t).2 = .ok ())
    (hmoved : MovedTo symbol price t) :
    Booked refuses start symbols (offered ++ [t]) (w.moveTo noise symbol price)
      (e.ingest refuses t).1 := by
  have hended : Engine.ended true refuses start ((offered ++ [t]).map .ingest) =
      Engine.ended true refuses start (offered.map .ingest) ++ [.ingest t] := by
    rw [List.map_append, Engine.ended_append, ← h.engine_eq]
    exact congrArg _ (Engine.ended_ingest_ok hingest)
  constructor
  · exact (keys_setPrice { w with noise } hsymbol price).trans h.keys_eq
  · rw [List.map_append, Engine.run_append, ← h.engine_eq]
    rfl
  · rw [hended, List.length_append, ← h.events_eq]
    rfl
  · rw [hended]
    exact priceAfter_put hmoved h.price_after

theorem Booked.steps (draw : σ → Double × σ) (now : Int) {entries : List (String × Double)}
    (hentries : ∀ entry ∈ entries, entry.1 ∈ symbols)
    (h : Booked refuses start symbols offered w e) :
    Booked refuses start symbols (offered ++ offers draw refuses now entries w e)
      (w.steps draw refuses now entries e).1 (w.steps draw refuses now entries e).2.1 := by
  induction entries generalizing w e offered with
  | nil =>
      rw [offers, List.append_nil]
      exact h
  | cons entry rest ih =>
      obtain ⟨symbol, price⟩ := entry
      obtain ⟨hsymbol, hrest⟩ := List.forall_mem_cons.mp hentries
      obtain ⟨size, noise, hdraw, ⟨fault, htick, hstep⟩ |
        ⟨t, htick, ⟨fault, hingest, hstep⟩ | ⟨hingest, hstep⟩⟩⟩ :=
          step_cases draw refuses now w e symbol price
      · rw [Walk.steps, offers, hstep, offer?_of_error hdraw htick, Option.toList_none,
          List.append_nil, List.append_nil]
        exact ⟨h.keys_eq, h.engine_eq, h.events_eq, h.price_after⟩
      · rw [Walk.steps, offers, hstep, offer?_of_ok hdraw htick]
        exact h.refused noise hingest
      · rw [Walk.steps, offers, hstep, offer?_of_ok hdraw htick]
        have hmoved := h.taken noise (h.keys_eq ▸ hsymbol) hingest (movedTo_of_tickAround htick)
        have hlater := ih hrest hmoved
        rw [List.append_assoc] at hlater
        exact hlater

end Books

/-- A walk, the engine that takes in its ticks, and the ticks that were offered so far. -/
structure Course (σ : Type) where
  walk : Walk σ
  engine : Engine
  offered : List Tick

namespace Course

def fresh (w : Walk σ) (e : Engine) : Course σ :=
  ⟨w, e, []⟩

def round (draw : σ → Double × σ) (refuses : Refusals) (c : Course σ) (now : Int) : Course σ where
  walk := (c.walk.round draw refuses now c.engine).1
  engine := (c.walk.round draw refuses now c.engine).2.1
  offered := c.offered ++ offers draw refuses now c.walk.prices.entries c.walk c.engine

/-- Several rounds, each at its moment. A round that is cut short does not keep the next one from
being made. -/
def rounds (draw : σ → Double × σ) (refuses : Refusals) (c : Course σ) (moments : List Int) :
    Course σ :=
  moments.foldl (round draw refuses) c

end Course

theorem eq_basePrice_of_get? {period : Int} {symbols : List String} :
    ∀ symbol price, (ofSymbols period symbols noise).prices.get? symbol = some price →
      price = basePrice symbol := by
  induction symbols using List.reverseRecOn with
  | nil => exact fun _ _ h ↦ nomatch h
  | append_singleton earlier last ih =>
      intro symbol price h
      rw [ofSymbols, List.foldl_concat, Keyed.get?_put] at h
      split at h
      · next heq => rw [← Option.some.inj h, heq]
      · exact ih symbol price h

theorem booked_fresh (refuses : Refusals) (period : Int) (symbols : List String) (noise : σ)
    (e : Engine) :
    Booked refuses e symbols.eraseDups [] (ofSymbols period symbols noise) e where
  keys_eq := keys_ofSymbols period symbols noise
  engine_eq := rfl
  events_eq := rfl
  price_after := eq_basePrice_of_get?

theorem booked_rounds (draw : σ → Double × σ) {start : Engine} {symbols : List String}
    {c : Course σ} (h : Booked refuses start symbols c.offered c.walk c.engine)
    (moments : List Int) :
    Booked refuses start symbols (c.rounds draw refuses moments).offered
      (c.rounds draw refuses moments).walk (c.rounds draw refuses moments).engine := by
  induction moments generalizing c with
  | nil => exact h
  | cons now later ih =>
      refine ih (c := c.round draw refuses now) ?_
      refine h.steps draw now ?_
      intro entry hentry
      rw [← h.keys_eq]
      exact List.mem_map_of_mem hentry

/-- The books of a walk are kept over any number of rounds, and every further round has an account,
whatever is drawn and whichever saves are refused. -/
theorem books_of_rounds (draw : σ → Double × σ) (refuses : Refusals) (period : Int)
    (symbols : List String) (noise : σ) (e : Engine) (moments : List Int) :
    let c := (Course.fresh (ofSymbols period symbols noise) e).rounds draw refuses moments
    Booked refuses e symbols.eraseDups c.offered c.walk c.engine ∧
      ∀ now, ∃ a : Account,
        a.Holds draw refuses now c.walk c.engine [] c.walk.prices.entries := by
  intro c
  constructor
  · exact booked_rounds draw (booked_fresh refuses period symbols noise e) moments
  · intro now
    exact account_steps draw refuses now rfl

/-- One round of a walk whose only price goes up by 504.4. -/
def oneRound : Course Unit :=
  (Course.fresh (ofSymbols 200 ["BTC-USD"] ()) (.fresh [.oneMinute])).rounds
    (fun _ ↦ (Decimal.toDouble ⟨false, 776, -5⟩, ())) .none [1620000000000]

/-- The midpoint of the last tick is not always the price. -/
theorem mid_of_last_off_price :
    oneRound.walk.prices.get? "BTC-USD" = some (Decimal.toDouble ⟨false, 655044, -1⟩) ∧
      (Engine.ticksOf "BTC-USD" (Engine.ended true .none (.fresh [.oneMinute])
        (oneRound.offered.map .ingest))).getLast?.map Tick.mid =
          some (Decimal.toDouble ⟨false, 65504399999999994, -12⟩) ∧
      Decimal.toDouble ⟨false, 655044, -1⟩ ≠ Decimal.toDouble ⟨false, 65504399999999994, -12⟩ := by
  decide +kernel

end Walk

end Candlestick

import Candlestick.Proofs.Bus.Subscriptions

/-!
# A consumer at work

A consumer before its broker and its engine, under any calls in any order. Every live subscription
takes in every message, and there is one for each start that has not been stopped
(`handled_by_each_live`). How many of them a stop leaves live depends on what a drain ends; those on
an earlier connection stay live in any case.
-/

namespace Candlestick

/-- A consumer with its broker and its engine. -/
structure Feed where
  consumer : Consumer
  broker : Broker Unit
  engine : Engine

namespace Feed

def fresh (conduct : Broker.Conduct) (connection : Connection) (queue : Option String)
    (e : Engine) : Feed :=
  ⟨.fresh connection queue, .fresh conduct, e⟩

/-- What a consumer and its client are asked to do, what connections report, and messages that are
published. -/
inductive Call where
  | start (outages : Outages)
  | stop (outages : Outages)
  | connect (outages : Outages)
  /-- The link was lost or is back, and the client hears of it. -/
  | notice (up : Bool)
  /-- The client hears that an earlier connection has lost its link or has it back. -/
  | noticeEarlier (up : Bool)
  | publish (bytes : List UInt8)

def start (outages : Outages) (f : Feed) : Feed × Except Client.Fault Unit :=
  let (consumer, broker, result) := f.consumer.start outages f.broker ()
  ({ f with consumer, broker }, result)

def stop (outages : Outages) (f : Feed) : Feed × Except Client.Fault Unit :=
  let (consumer, broker, result) := f.consumer.stop outages f.broker
  ({ f with consumer, broker }, result)

def connect (outages : Outages) (f : Feed) : Feed × Except Client.Fault Unit :=
  let (client, broker, result) := f.consumer.client.connect outages f.broker
  ({ f with consumer := { f.consumer with client }, broker }, result)

/-- A client does not tell its connections apart. -/
def noticeEarlier (up : Bool) (f : Feed) : Feed :=
  { f with consumer := { f.consumer with client := f.consumer.client.noticeLink up } }

def notice (up : Bool) (f : Feed) : Feed :=
  { f.noticeEarlier up with broker := f.broker.setLink up }

/-- Takes in a message on behalf of one subscription. -/
def receive (bytes : List UInt8) (_ : Unit) (state : Consumer × Engine) :
    (Consumer × Engine) × Except Engine.Fault Unit :=
  let (consumer, engine, result) := state.1.handle .none state.2 bytes
  ((consumer, engine), result)

/-- Hands a message to every live subscription and counts them. -/
def publish (bytes : List UInt8) (f : Feed) : Feed × Except Engine.Fault Nat :=
  let ((consumer, engine), result) := f.broker.deliver (receive bytes) (f.consumer, f.engine)
  ({ f with consumer, engine }, result)

def perform (f : Feed) : Call → Feed
  | .start outages => (f.start outages).1
  | .stop outages => (f.stop outages).1
  | .connect outages => (f.connect outages).1
  | .notice up => f.notice up
  | .noticeEarlier up => f.noticeEarlier up
  | .publish bytes => (f.publish bytes).1

def run (f : Feed) (calls : List Call) : Feed :=
  calls.foldl perform f

/-- The feed after its consumer has taken in several messages. -/
def handleAll (f : Feed) (messages : List (List UInt8)) : Feed :=
  let (consumer, engine) := Consumer.handleAll .none (f.consumer, f.engine) messages
  { f with consumer, engine }

/-- The marks that a call leaves. A start that fails may have got a connection all the same. -/
def marksOf (f : Feed) : Call → List Mark
  | .start outages =>
    f.consumer.client.renewal outages f.broker ++
      if (f.start outages).2.isOk then [.began] else []
  | .stop outages =>
    if (f.consumer.client.unsubscribe outages f.broker Subject.all).2.2.isOk then
      [.ended (f.consumer.client.drains outages f.broker)]
    else [.refused]
  | .connect outages => f.consumer.client.renewal outages f.broker
  | _ => []

def marks : Feed → List Call → List Mark
  | _, [] => []
  | f, call :: rest => f.marksOf call ++ marks (f.perform call) rest

def books (f : Feed) : Books :=
  f.consumer.books f.broker

variable {f : Feed}

/-! ## Messages -/

theorem deliverTo_receive (bytes : List UInt8) (receivers : List Unit) (c : Consumer) {e : Engine}
    (h : e.Sound) : Broker.deliverTo (receive bytes) receivers (c, e) =
      (Consumer.handleAll .none (c, e) (List.replicate receivers.length bytes), .ok ()) := by
  induction receivers generalizing c e with
  | nil => rfl
  | cons receiver rest ih =>
      obtain ⟨reached, engine, hhandle, hsound⟩ :
          ∃ reached engine, c.handle .none e bytes = (reached, engine, .ok ()) ∧ engine.Sound := by
        cases htick : Consumer.tick? bytes with
        | none => exact ⟨_, _, Consumer.handle_of_none htick .none c e, h⟩
        | some t => exact ⟨_, _, Consumer.handle_of_some htick h c, h.perform .none (.ingest t)⟩
      have hreceive : receive bytes receiver (c, e) = ((reached, engine), .ok ()) := by
        rw [receive, hhandle]
      rw [Broker.deliverTo, hreceive]
      dsimp only
      rw [ih reached hsound, List.length_cons, List.replicate_succ, Consumer.handleAll_cons,
        hhandle]

theorem publish_eq (h : f.engine.Sound) (bytes : List UInt8) :
    f.publish bytes =
      (f.handleAll (List.replicate f.broker.live.length bytes), .ok f.broker.live.length) := by
  unfold publish Broker.deliver handleAll
  rw [deliverTo_receive bytes _ f.consumer h, List.length_map]
  rfl

/-! ## What every call keeps -/

/-- The engine is sound, and the client is tied to the broker. -/
structure Holds (conduct : Broker.Conduct) (f : Feed) : Prop where
  sound : f.engine.Sound
  tied : f.consumer.client.Tied conduct f.broker

variable {conduct : Broker.Conduct}

theorem holds_fresh {e : Engine} (h : e.Sound) (conduct : Broker.Conduct) (connection : Connection)
    (queue : Option String) : (fresh conduct connection queue e).Holds conduct :=
  ⟨h, Client.tied_fresh conduct connection⟩

theorem Holds.handleAll (h : f.Holds conduct) (messages : List (List UInt8)) :
    (f.handleAll messages).Holds conduct ∧ (f.handleAll messages).books = f.books := by
  rw [Feed.handleAll, Consumer.handleAll_eq h.sound]
  exact ⟨⟨h.sound.run .none _, h.tied⟩, rfl⟩

theorem Holds.perform (h : f.Holds conduct) (call : Call) : (f.perform call).Holds conduct := by
  cases call with
  | publish bytes =>
      rw [Feed.perform, publish_eq h.sound]
      exact (h.handleAll _).1
  | start outages => exact ⟨h.sound, Consumer.tied_start h.tied outages ()⟩
  | stop outages => exact ⟨h.sound, Consumer.tied_stop h.tied outages⟩
  | connect outages => exact ⟨h.sound, h.tied.connect outages⟩
  | noticeEarlier up => exact ⟨h.sound, h.tied.noticeLink up⟩
  | notice up =>
      have htied := h.tied.noticeLink up
      exact ⟨h.sound, htied.conduct_eq, htied.live_eq_nil⟩

theorem Holds.run (h : f.Holds conduct) (calls : List Call) : (f.run calls).Holds conduct := by
  induction calls generalizing f with
  | nil => exact h
  | cons call rest ih => exact ih (h.perform call)

/-! ## Subscriptions -/

theorem books_perform (h : f.Holds conduct) (call : Call) :
    (f.perform call).books = (f.marksOf call).foldl Books.mark f.books := by
  cases call with
  | start outages =>
      rcases f.consumer.start_cases outages f.broker () with
        ⟨fault, herror, hbooks⟩ | ⟨hok, hbooks⟩
      · have hresult : (f.start outages).2 = .error fault := herror
        rw [marksOf, hresult]
        exact hbooks.trans (by rw [List.foldl_append]; rfl)
      · have hresult : (f.start outages).2 = .ok () := hok
        rw [marksOf, hresult]
        exact hbooks.trans (by rw [List.foldl_append]; rfl)
  | stop outages =>
      rcases f.consumer.stop_cases outages f.broker with
        ⟨hok, hbooks⟩ | ⟨fault, herror, _, hbooks⟩
      · rw [marksOf, hok]
        exact hbooks
      · rw [marksOf, herror]
        exact hbooks
  | connect outages => exact f.consumer.client.books_connect outages f.broker Subject.all
  | noticeEarlier up =>
      simp only [marksOf, List.foldl_nil, perform, noticeEarlier, books, Consumer.books,
        Client.books, Client.noticeLink]
      split <;> rfl
  | notice up =>
      simp only [marksOf, List.foldl_nil, perform, notice, noticeEarlier, books, Consumer.books,
        Client.books, Client.noticeLink, Broker.setLink]
      split <;> rfl
  | publish bytes =>
      rw [perform, publish_eq h.sound]
      exact (h.handleAll _).2

theorem books_run (h : f.Holds conduct) (calls : List Call) :
    (f.run calls).books = (f.marks calls).foldl Books.mark f.books := by
  induction calls generalizing f with
  | nil => rfl
  | cons call rest ih =>
      rw [marks, List.foldl_append, ← books_perform h]
      exact ih (h.perform call)

theorem live_eq_nil_iff : f.broker.live = [] ↔ f.books.live = [] :=
  List.map_eq_nil_iff.symm

theorem exists_start_of_mem_marksOf {call : Call} (h : .began ∈ f.marksOf call) :
    ∃ outages, call = .start outages := by
  have hrenewal : ∀ outages, .began ∉ f.consumer.client.renewal outages f.broker := by
    intro outages hmem
    unfold Client.renewal at hmem
    split at hmem <;> simp at hmem
  cases call with
  | start outages => exact ⟨outages, rfl⟩
  | stop outages =>
      rw [marksOf] at h
      split at h <;> simp at h
  | connect outages => exact absurd h (hrenewal outages)
  | notice up => cases h
  | noticeEarlier up => cases h
  | publish bytes => cases h

theorem engine_perform_of_live_eq_nil (h : f.Holds conduct) (hlive : f.broker.live = [])
    (call : Call) : (f.perform call).engine = f.engine := by
  cases call with
  | publish bytes =>
      rw [perform, publish_eq h.sound, hlive]
      rfl
  | start outages => rfl
  | stop outages => rfl
  | connect outages => rfl
  | notice up => rfl
  | noticeEarlier up => rfl

/-- Without a live subscription only a start can bring messages to the engine. -/
theorem run_of_live_eq_nil (h : f.Holds conduct) (hlive : f.broker.live = []) {calls : List Call}
    (hcalls : ∀ outages, .start outages ∉ calls) :
    (f.run calls).broker.live = [] ∧ (f.run calls).engine = f.engine := by
  induction calls generalizing f with
  | nil => exact ⟨hlive, rfl⟩
  | cons call rest ih =>
      have hrest : ∀ outages, .start outages ∉ rest :=
        fun outages hmem ↦ hcalls outages (List.mem_cons_of_mem call hmem)
      have hnext : (f.perform call).broker.live = [] := by
        rw [live_eq_nil_iff] at hlive ⊢
        rw [books_perform h]
        refine Books.live_foldl_eq_nil hlive fun hmem ↦ ?_
        obtain ⟨outages, rfl⟩ := exists_start_of_mem_marksOf hmem
        exact hcalls outages List.mem_cons_self
      obtain ⟨hlast, hsame⟩ := ih (h.perform call) hnext hrest
      exact ⟨hlast, hsame.trans (engine_perform_of_live_eq_nil h hlive call)⟩

variable {a : Starts}

theorem length_live (h : f.books.Fits a) :
    f.broker.live.length = a.stranded + a.lost + a.pending.isSome.toNat := by
  rw [← h.length_eq]
  exact (List.length_map _).symm

/-- What a stop that returns leaves live. -/
theorem length_live_stop (h : f.Holds conduct) (hfits : f.books.Fits a) {outages : Outages}
    (hreturns : (f.stop outages).2 = .ok ()) :
    (f.stop outages).1.broker.live.length =
      a.stranded + if conduct.drainEnds then 0 else a.lost := by
  have hdrains := Consumer.drains_of_stop hreturns
  rw [h.tied.conduct_eq] at hdrains
  rcases f.consumer.stop_cases outages f.broker with ⟨_, hbooks⟩ | ⟨_, _, herror, _⟩
  · have hended : (f.stop outages).1.books =
        f.books.mark (.ended (f.consumer.client.opened && conduct.drainEnds)) :=
      hdrains ▸ hbooks
    have hafter := hfits.mark (.ended (f.consumer.client.opened && conduct.drainEnds))
    rw [← hended] at hafter
    rw [length_live hafter]
    cases hopened : f.consumer.client.opened with
    | true => rfl
    | false =>
        -- There never was a connection, so nothing was left on one.
        have hnone := length_live hfits
        rw [h.tied.live_eq_nil hopened, List.length_nil] at hnone
        have hlost : a.lost = 0 := by omega
        simp [Starts.mark, hlost]
  · have hfails : (f.stop outages).2 = .error _ := herror
    rw [hreturns] at hfails
    cases hfails

/-- Every live subscription takes in every message. There is one for each start that has not been
stopped: the last one, unless a stop came after it, and those that were left behind. A stop that
returns ends the last one, and with it those that were left on the same connection, if a drain ends
them; it never ends one that is stranded on an earlier connection. If each start is stopped before
the next one, and just then, no start is ever left behind. Then a message is taken in once at most;
and after a stop that returns nothing is live, and no message changes the engine until the consumer
is started again. -/
theorem handled_by_each_live {e : Engine} (hreachable : e.Reachable) (conduct : Broker.Conduct)
    (connection : Connection) (queue : Option String) (calls : List Call) :
    let f := (fresh conduct connection queue e).run calls
    let marks := (fresh conduct connection queue e).marks calls
    let starts := Starts.ofMarks marks
    f.broker.live.length = starts.stranded + starts.lost + starts.pending.isSome.toNat ∧
    (∀ bytes, f.publish bytes =
      (f.handleAll (List.replicate f.broker.live.length bytes), .ok f.broker.live.length)) ∧
    (∀ outages, (f.stop outages).2 = .ok () → (f.stop outages).1.broker.live.length =
      starts.stranded + if conduct.drainEnds then 0 else starts.lost) ∧
    (Starts.Settled marks ↔ ∀ past, past <+: marks → (Starts.ofMarks past).Clear) ∧
    (Starts.Settled marks →
      (∀ bytes, (f.publish bytes).1 = f ∨ (f.publish bytes).1 = f.handleAll [bytes]) ∧
      ∀ outages later, (f.stop outages).2 = .ok () → (∀ others, .start others ∉ later) →
        ((f.stop outages).1.run later).broker.live = [] ∧
          ((f.stop outages).1.run later).engine = f.engine) := by
  intro f marks starts
  have hfresh := holds_fresh hreachable.sound conduct connection queue
  have hholds : f.Holds conduct := hfresh.run calls
  have hfits : f.books.Fits starts := by
    have hbooks : f.books = marks.foldl Books.mark Books.empty := books_run hfresh calls
    rw [hbooks]
    exact Books.fits_empty.foldl marks
  have hlength := length_live hfits
  refine ⟨hlength, publish_eq hholds.sound, fun outages ↦ length_live_stop hholds hfits,
    Starts.settled_iff marks, ?_⟩
  intro hsettled
  obtain ⟨hlost, hstranded⟩ : starts.Clear :=
    (Starts.settled_iff marks).mp hsettled marks List.prefix_rfl
  constructor
  · intro bytes
    rw [publish_eq hholds.sound, hlength, hstranded, hlost]
    cases starts.pending with
    | none => exact Or.inl rfl
    | some place => exact Or.inr rfl
  · intro outages later hreturns hlater
    have hstopped : (f.stop outages).1.broker.live = [] := by
      apply List.length_eq_zero_iff.mp
      rw [length_live_stop hholds hfits hreturns, hstranded, hlost, ite_self]
    exact run_of_live_eq_nil (hholds.perform (.stop outages)) hstopped hlater

def newTick : List UInt8 :=
  Text.Utf8.encode "\x7b\"symbol\": \"A\", \"bid\": 21, \"ask\": 23, \"timestamp\": 10000\x7d"

/-- The consumer is started twice, with a stop in between that also closes a lost connection. -/
def restarted : List Call :=
  [.start .none, .publish newTick, .notice false, .stop .none, .start .none, .publish newTick]

theorem handled_by_each_live_restarted :
    (Engine.fresh [.oneMinute]).Reachable ∧
      ((fresh .separate .standard none (.fresh [.oneMinute])).run restarted).consumer.accepted =
        2 ∧
      ((((fresh .separate .standard none (.fresh [.oneMinute])).run restarted).stop .none).1.run
        [.connect .none, .publish newTick]).broker.live = [] := by
  have hreachable : (Engine.fresh [.oneMinute]).Reachable := .fresh _
  obtain ⟨_, _, _, _, honce⟩ :=
    handled_by_each_live hreachable .separate .standard none restarted
  have hmarks : (fresh .separate .standard none (.fresh [.oneMinute])).marks restarted =
      [.renewed, .began, .ended true, .renewed, .began] := by
    decide +kernel
  have hreturns : (((fresh .separate .standard none (.fresh [.oneMinute])).run restarted).stop
      .none).2 = .ok () := by
    decide +kernel
  have hlater : ∀ others, Call.start others ∉ [.connect .none, .publish newTick] := by simp
  rw [hmarks] at honce
  obtain ⟨_, hstopped⟩ := honce (by simp [Starts.Settled, Starts.Stops])
  exact ⟨hreachable, by decide +kernel, (hstopped .none _ hreturns hlater).1⟩

/-- Without a stop in between, a tick that is published once is taken in twice. If the link was
lost in between, a tick is taken in after the stop. -/
example :
    let f := fresh .separate .standard none (.fresh [.oneMinute])
    let tick := Text.Utf8.encode
      "\x7b\"symbol\": \"A\", \"bid\": 21, \"ask\": 23, \"timestamp\": 10000\x7d"
    (f.run [.start .none, .start .none, .publish tick]).consumer.accepted = 2 ∧
      (f.run [.start .none, .notice false, .start .none, .stop .none,
        .publish tick]).consumer.accepted = 1 := by
  decide +kernel

end Feed

end Candlestick

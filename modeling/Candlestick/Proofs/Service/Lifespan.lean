import Candlestick.Proofs.Engine.Retry
import Candlestick.Proofs.Service.Run
import Candlestick.Proofs.Sweeper.Drain

/-!
# Leaving a service

Between its starts and stops a service takes in ticks, sweeps, and loses its link, and its sources
may fail: the run of the walk may end early, and the consumer may refuse to start or to stop. None
of this reaches the sweeper, which is due for a drain from every start to the next stop
(`Service.steady_undergoAll`). Since saves are not refused, the drain itself cannot fail, and it
stores whatever the sources have left open (`Service.stop_drains`).
-/

namespace Candlestick

namespace Engine

variable {e : Engine} {key : String × Interval}

/-- A shutdown without refusals stores each open candle. -/
theorem Sound.get?_store_shutdown (h : e.Sound) {c : OpenCandle}
    (hopen : (e.held key).current = some c) :
    ∃ candle, (e.perform .none .shutdown).1.store.get? ⟨key.1, key.2.label, c.bucketStart⟩ =
      some candle ∧ c.ClosesTo candle :=
  h.get?_store_round (rfl : Call.shutdown.round? = some .flush) hopen

end Engine

theorem Sweeper.running_stop (refuses : Refusals) (s : Sweeper) (e : Engine) :
    (s.stop refuses e).1.running = false := by
  unfold stop
  dsimp only
  split <;> rfl

namespace Service

/-- What a service goes through, what its client hears from the connection, and the end of a run of
the walk by an error of whatever kind. -/
inductive Incident where
  | event (event : Event)
  | notice (up : Bool)
  | crash

def undergo (s : Service) : Incident → Service
  | .event event => s.perform event
  | .notice up =>
    { s with
      consumer := s.consumer.map fun consumer ↦
        { consumer with client := consumer.client.noticeLink up }
      broker := s.broker.setLink up }
  | .crash => s.stopWalk

def undergoAll (s : Service) (incidents : List Incident) : Service :=
  incidents.foldl undergo s

/-- Whether there has been a stop, and no start since. -/
def Incident.stopped (before : Bool) : Incident → Bool
  | .event (.start _ _) => false
  | .event (.stop _) => true
  | _ => before

/-- The flags of the sweeper agree with the past, and the engine is sound. -/
structure Steady (s : Service) (stopped : Bool) : Prop where
  fits : s.sweeper.Fits stopped
  sound : s.engine.Sound

variable {s reached : Service} {stopped : Bool}

theorem Follows.sound (h : Follows (fun _ ↦ True) s reached) (hs : s.engine.Sound) :
    reached.engine.Sound := by
  obtain ⟨_, calls, hcalls, _⟩ := h fun _ _ _ _ ↦ trivial
  rw [hcalls]
  exact hs.run .none calls

theorem sweeper_startWalk (now : Int) (s : Service) : (s.startWalk now).sweeper = s.sweeper := by
  unfold startWalk
  split <;> rfl

theorem sweeper_continueWalk (now : Int) (s : Service) :
    (s.continueWalk now).sweeper = s.sweeper := by
  unfold continueWalk
  split
  · rfl
  · split <;> rfl

theorem sweeper_deliver (bytes : List UInt8) (s : Service) :
    (s.deliver bytes).1.sweeper = s.sweeper := by
  refine Broker.deliver_invariant
    (motive := fun reached : Service ↦ reached.sweeper = s.sweeper) ?_ rfl
  intro receiver reached h
  rw [← h]
  unfold receive
  split <;> rfl

theorem Steady.sweeper_perform (h : s.Steady stopped) (event : Event) :
    (s.perform event).sweeper.Fits ((Incident.event event).stopped stopped) := by
  cases event with
  | start outages now =>
      have hsweeper : (s.start outages now).sweeper = s.sweeper.start :=
        (startConsumer_parts outages _).2.2.trans (sweeper_startWalk now _)
      rw [perform, hsweeper]
      exact (h.fits.perform .none s.engine .start).1
  | request r =>
      rcases Http.respond_cases s r with heq | ⟨t, _, heq⟩
      · rw [perform, heq]
        exact h.fits
      · rw [perform, heq]
        exact h.fits
  | message bytes =>
      rw [perform, sweeper_deliver]
      exact h.fits
  | link up => exact h.fits
  | round now =>
      rw [perform, sweeper_continueWalk]
      exact h.fits
  | sweep now => exact (h.fits.perform .none s.engine (.sweepNow now)).1
  | stop outages =>
      obtain ⟨_, _, hsweeper⟩ := stopConsumer_parts outages s.stopWalk
      have hfits : (s.stopWalk.stopConsumer outages).sweeper.Fits stopped := by
        rw [hsweeper]
        exact h.fits
      exact (hfits.perform .none (s.stopWalk.stopConsumer outages).engine .stop).1

theorem Steady.undergo (h : s.Steady stopped) (incident : Incident) :
    (s.undergo incident).Steady (incident.stopped stopped) := by
  cases incident with
  | event event => exact ⟨h.sweeper_perform event, (follows_perform event s).sound h.sound⟩
  | notice up => exact ⟨h.fits, h.sound⟩
  | crash => exact ⟨h.fits, h.sound⟩

theorem Steady.undergoAll (h : s.Steady stopped) (incidents : List Incident) :
    (s.undergoAll incidents).Steady (incidents.foldl Incident.stopped stopped) := by
  induction incidents generalizing s stopped with
  | nil => exact h
  | cons incident rest ih => exact ih (h.undergo incident)

theorem foldl_stopped_of_not_mem {incidents : List Incident}
    (h : ∀ outages, .event (.stop outages) ∉ incidents) :
    incidents.foldl Incident.stopped false = false := by
  induction incidents with
  | nil => rfl
  | cons incident rest ih =>
      have hkeeps : incident.stopped false = false := by
        cases incident with
        | event event =>
            cases event with
            | stop outages => exact absurd List.mem_cons_self (h outages)
            | _ => rfl
        | notice up => rfl
        | crash => rfl
      rw [List.foldl_cons, hkeeps]
      exact ih fun outages hmem ↦ h outages (List.mem_cons_of_mem incident hmem)

variable {settings : Settings} {entropy : Int} {conduct : Broker.Conduct}

theorem steady_ofSettings?
    (h : ofSettings? entropy settings conduct = some s) : s.Steady false := by
  unfold ofSettings? at h
  cases hperiod : Period.seconds? settings.flush.interval.val with
  | none =>
      rw [hperiod] at h
      cases h
  | some period =>
      rw [hperiod] at h
      cases h
      exact ⟨⟨rfl, fun hrunning ↦ nomatch hrunning⟩, Engine.sound_fresh Interval.catalog⟩

/-- Whatever a service has been through, and whatever it goes through from a start to the next stop:
when the sources have been stopped, as well as they can be, the drain returns. Then the sweep does
not run, no aggregator has a candle open, and each candle that was open is stored under its symbol,
its label and its bucket, with its values. -/
theorem stop_drains
    (h : ofSettings? entropy settings conduct = some s) (past during : List Incident)
    (hduring : ∀ others, .event (.stop others) ∉ during) (outages later : Outages) (now : Int) :
    let left := s.undergoAll (past ++ .event (.start outages now) :: during)
    let halted := left.stopWalk.stopConsumer later
    let final := left.stop later
    (halted.sweeper.stop .none halted.engine).2.2 = .ok () ∧
    final.sweeper.running = false ∧
    (∀ key a, final.engine.pool.get? key = some a → a.current = none) ∧
    ∀ key a c, halted.engine.pool.get? key = some a → a.current = some c →
      ∃ candle, final.engine.store.get? ⟨key.1, key.2.label, c.bucketStart⟩ = some candle ∧
        c.ClosesTo candle := by
  intro left halted final
  have hleft : left.Steady false := by
    have hsteady := (steady_ofSettings? h).undergoAll
      (past ++ .event (.start outages now) :: during)
    rw [List.foldl_append, List.foldl_cons] at hsteady
    have hdue : during.foldl Incident.stopped false = false := foldl_stopped_of_not_mem hduring
    exact hdue ▸ hsteady
  obtain ⟨_, hengine, hsweeper⟩ := stopConsumer_parts later left.stopWalk
  have hfits : halted.sweeper.Fits false := by
    rw [hsweeper]
    exact hleft.fits
  have hsound : halted.engine.Sound := by
    rw [hengine]
    exact hleft.sound
  have hfinal : final.engine = (halted.engine.perform .none .shutdown).1 :=
    (hfits.perform .none halted.engine .stop).2
  refine ⟨?_, ?_, ?_, ?_⟩
  · exact (hfits.perform_stop .none halted.engine).trans (hsound.perform_returns .shutdown)
  · exact halted.sweeper.running_stop .none halted.engine
  · intro key a ha
    have hclosed := hsound.current_eq_none_of_shutdown (hsound.perform_returns .shutdown) key
    rw [← hfinal, Engine.held, ha] at hclosed
    exact hclosed
  · intro key a c ha hopen
    have hheld : (halted.engine.held key).current = some c := by
      rw [Engine.held, ha]
      exact hopen
    rw [hfinal]
    exact hsound.get?_store_shutdown hheld

/-- Settings of a service whose only source is the message bus. -/
def onBus : Settings :=
  { Settings.standard with
    generator := { Settings.Generator.standard with enabled := false }
    bus := { Settings.Bus.standard with enabled := true } }

/-- Every drain of a connection is turned down. -/
def undrained : Outages
  | .drain => some "connection closed"
  | _ => none

def busTick : List UInt8 :=
  Text.Utf8.encode "\x7b\"symbol\": \"A\", \"bid\": 21, \"ask\": 23, \"timestamp\": 10000\x7d"

/-- A first stay, left with a consumer that cannot be stopped. -/
def firstStay : List Incident :=
  [.event (.start .none 0), .event (.message busTick), .event (.stop undrained)]

/-- In the second one the link is lost. -/
def secondStay : List Incident :=
  [.event (.message busTick), .notice false]

theorem stop_drains_secondStay :
    ∃ s candle, ofSettings? 0 onBus = some s ∧
      (∀ others, Incident.event (.stop others) ∉ secondStay) ∧
      ((s.undergoAll (firstStay ++ .event (.start .none 20000) :: secondStay)).stop
        undrained).engine.store.get? ⟨"A", "1m", 0⟩ = some candle := by
  have hopen : (ofSettings? 0 onBus).map (fun s ↦
      let left := s.undergoAll (firstStay ++ .event (.start .none 20000) :: secondStay)
      ((left.stopWalk.stopConsumer undrained).engine.pool.get? ("A", .oneMinute)).bind
        Aggregator.bucket?) = some (some 0) := by
    decide +kernel
  obtain ⟨s, hs, hbucket⟩ := Option.map_eq_some_iff.mp hopen
  obtain ⟨a, ha, hstart⟩ := Option.bind_eq_some_iff.mp hbucket
  obtain ⟨c, hc, hzero⟩ := Option.map_eq_some_iff.mp hstart
  have hduring : ∀ others, Incident.event (.stop others) ∉ secondStay := by simp [secondStay]
  obtain ⟨_, _, _, hstored⟩ := stop_drains hs firstStay secondStay hduring .none undrained 20000
  obtain ⟨candle, hfound, _⟩ := hstored _ a c ha hc
  rw [hzero] at hfound
  exact ⟨s, candle, hs, hduring, hfound⟩

end Service

end Candlestick

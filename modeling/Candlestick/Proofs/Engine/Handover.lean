import Candlestick.Proofs.Aggregator.Completion
import Candlestick.Proofs.Engine.Acceptance

/-!
# Candles that are handed over

Every candle that an aggregator hands over is one attempt to save it, and some attempts are refused.
The record kept here is of all of them (`attempts_run`), the candles that were saved are among them
(`log_sublist`), and each entry says which visits to the same key had been carried out before. Since
every aggregator holds the block that these visits have left unfinished (`Recalls`), nothing is
handed over before its bucket has ended, unless a call forces it.
-/

namespace Candlestick.Engine

/-- The moment that comes with a call. Calls that force candles out have none. -/
def Call.moment? : Call → Option Int
  | .ingest t => some t.second
  | .sweep now => some now
  | .shutdown => none
  | .flush _ => none
  | .flushStale _ now => some now

/-- The candle that the aggregator of a key hands over when it is visited. -/
def handedOver? (e : Engine) (v : Visit) : Option Candle :=
  match (e.held v.key).answer v.call with
  | .ok move => move.completed
  | .error _ => none

/-- The candles handed over in a row of visits, each with its key, after those visits that had been
carried out before the row. The last one may have been refused. -/
def handovers (refuses : Refusals) (moment? : Option Int) :
    List Visit → List Visit → Engine → List ((String × Interval) × Aggregator.Handover)
  | _, [], _ => []
  | past, v :: rest, e =>
    ((e.handedOver? v).toList.map fun candle ↦ (v.key, ⟨moment?, asked v.key past, candle⟩)) ++
      match e.attend refuses v with
      | (_, .error _) => []
      | (reached, .ok _) => handovers refuses moment? (past ++ [v]) rest reached

def handoversIn (refuses : Refusals) :
    List Visit → Engine → List Call → List ((String × Interval) × Aggregator.Handover)
  | _, _, [] => []
  | past, e, call :: rest =>
    handovers refuses call.moment? past (e.visits call) e ++
      handoversIn refuses (past ++ carriedOut refuses (e.visits call) e)
        (e.perform refuses call).1 rest

/-- Every aggregator holds the block that is left unfinished by what it was asked in the past. -/
def Recalls (e : Engine) (past : List Visit) : Prop :=
  ∀ key : String × Interval,
    (e.held key).Holds ((Segmentation.empty : Segmentation key.2).run (asked key past)).unfinished

variable {refuses : Refusals} {moment? : Option Int} {e : Engine} {past : List Visit}

theorem recalls_fresh (intervals : List Interval) : (fresh intervals).Recalls [] :=
  fun key ↦ Aggregator.holds_fresh key.2

theorem Recalls.sound (h : e.Recalls past) : e.Sound :=
  fun key ↦ ⟨_, h key⟩

/-! ## One visit -/

theorem handovers_cons_error {reached : Engine} {v : Visit} {fault : Fault}
    (h : e.attend refuses v = (reached, .error fault)) (rest : List Visit) :
    handovers refuses moment? past (v :: rest) e =
      (e.handedOver? v).toList.map fun candle ↦ (v.key, ⟨moment?, asked v.key past, candle⟩) := by
  rw [handovers, h, List.append_nil]

theorem handovers_cons_ok {reached : Engine} {v : Visit} {candle : Option Candle}
    (h : e.attend refuses v = (reached, .ok candle)) (rest : List Visit) :
    handovers refuses moment? past (v :: rest) e =
      ((e.handedOver? v).toList.map fun candle ↦ (v.key, ⟨moment?, asked v.key past, candle⟩)) ++
        handovers refuses moment? (past ++ [v]) rest reached := by
  rw [handovers, h]

/-- A visit tries to save what is handed over in it, and saves nothing else. -/
theorem handedOver?_attend (refuses : Refusals) (e : Engine) (v : Visit) :
    (e.attend refuses v).1.attempts = e.attempts + (e.handedOver? v).toList.length ∧
      ∀ candle, (e.attend refuses v).2 = .ok candle → e.handedOver? v = candle := by
  have hattempts := attempts_ensure e v.key
  rcases attend_cases refuses e v with ⟨fault, hanswer, h⟩ | ⟨next, hanswer, h⟩ |
    ⟨candle, next, hanswer, _, h⟩ | ⟨candle, next, hanswer, _, h⟩
  · have hnone : e.handedOver? v = none := by rw [handedOver?, hanswer]
    rw [h, hnone]
    exact ⟨hattempts, fun _ hok ↦ nomatch hok⟩
  · have hnone : e.handedOver? v = none := by rw [handedOver?, hanswer]
    rw [h, hnone]
    exact ⟨hattempts, fun _ hok ↦ Except.ok.inj hok⟩
  · have hsome : e.handedOver? v = some candle := by rw [handedOver?, hanswer]
    rw [h, hsome]
    exact ⟨congrArg (· + 1) hattempts, fun _ hok ↦ nomatch hok⟩
  · have hsome : e.handedOver? v = some candle := by rw [handedOver?, hanswer]
    rw [h, hsome]
    exact ⟨congrArg (· + 1) hattempts, fun _ hok ↦ Except.ok.inj hok⟩

theorem Recalls.attend_error (h : e.Recalls past) {v : Visit} {reached : Engine} {fault : Fault}
    (hattend : e.attend refuses v = (reached, .error fault)) : reached.Recalls past := by
  intro key
  rcases held_attend refuses e v with ⟨_, _, hheld⟩ | ⟨_, _, hresult, _⟩
  · rw [hattend] at hheld
    rw [hheld key]
    exact h key
  · rw [hattend] at hresult
    cases hresult

theorem Recalls.attend_ok (h : e.Recalls past) {v : Visit} {reached : Engine}
    {candle : Option Candle} (hattend : e.attend refuses v = (reached, .ok candle)) :
    reached.Recalls (past ++ [v]) := by
  intro key
  rcases held_attend refuses e v with ⟨_, hresult, _⟩ | ⟨move, hanswer, _, hheld⟩
  · rw [hattend] at hresult
    cases hresult
  · rw [hattend] at hheld
    rw [hheld key, asked_append]
    -- The visit is in the past of the aggregator that was visited, and of no other.
    by_cases hkey : v.key = key
    · subst hkey
      rw [if_pos rfl, asked_cons_self rfl, Segmentation.run_append]
      exact (h v.key).of_answer hanswer
    · rw [if_neg hkey, asked_cons_other hkey]
      simpa [asked] using h key

/-! ## Rows of visits -/

theorem Recalls.attendAll (h : e.Recalls past) (refuses : Refusals) (visits : List Visit) :
    (Engine.attendAll refuses visits e).engine.Recalls
      (past ++ carriedOut refuses visits e) := by
  induction visits generalizing e past with
  | nil => simpa [carriedOut, Engine.attendAll] using h
  | cons v rest ih =>
      cases hattend : e.attend refuses v with
      | mk reached result =>
          cases result with
          | error fault =>
              rw [attendAll_cons_error hattend, carriedOut_cons_error hattend, List.append_nil]
              exact h.attend_error hattend
          | ok candle =>
              have hrest := ih (h.attend_ok hattend)
              rw [attendAll_cons_ok hattend, carriedOut_cons_ok hattend]
              rw [List.append_assoc] at hrest
              exact hrest

theorem attempts_attendAll (visits : List Visit) (e : Engine) (past : List Visit) :
    (attendAll refuses visits e).engine.attempts =
      e.attempts + (handovers refuses moment? past visits e).length := by
  induction visits generalizing e past with
  | nil => rfl
  | cons v rest ih =>
      have hnow := (handedOver?_attend refuses e v).1
      cases hattend : e.attend refuses v with
      | mk reached result =>
          rw [hattend] at hnow
          cases result with
          | error fault =>
              rw [attendAll_cons_error hattend, handovers_cons_error hattend, List.length_map]
              exact hnow
          | ok candle =>
              rw [attendAll_cons_ok hattend, handovers_cons_ok hattend, List.length_append,
                List.length_map, ← Nat.add_assoc, ← hnow]
              exact ih reached (past ++ [v])

theorem saved_sublist (visits : List Visit) (e : Engine) (past : List Visit) :
    (attendAll refuses visits e).saved.Sublist
      ((handovers refuses moment? past visits e).map fun x ↦ (x.1, x.2.candle)) := by
  induction visits generalizing e past with
  | nil => exact List.Sublist.refl _
  | cons v rest ih =>
      cases hattend : e.attend refuses v with
      | mk reached result =>
          cases result with
          | error fault =>
              rw [attendAll_cons_error hattend]
              exact List.nil_sublist _
          | ok candle =>
              have hcandle := (handedOver?_attend refuses e v).2 candle (by rw [hattend])
              rw [attendAll_cons_ok hattend, handovers_cons_ok hattend, List.map_append,
                List.map_map, hcandle]
              exact (List.Sublist.refl _).append (ih reached (past ++ [v]))

/-- A candle is handed over by an aggregator that holds the block of its past, at a visit of the
row. -/
theorem Recalls.exists_visit (h : e.Recalls past) {visits : List Visit}
    {x : (String × Interval) × Aggregator.Handover}
    (hx : x ∈ handovers refuses moment? past visits e) :
    x.2.moment? = moment? ∧ ∃ v ∈ visits, v.key = x.1 ∧ ∃ (a next : Aggregator),
      a.Holds ((Segmentation.empty : Segmentation x.1.2).run x.2.past).unfinished ∧
        a.answer v.call = .ok ⟨some x.2.candle, next⟩ := by
  induction visits generalizing e past with
  | nil => cases hx
  | cons v rest ih =>
      have hfirst : x ∈ (e.handedOver? v).toList.map
          (fun candle ↦ (v.key, (⟨moment?, asked v.key past, candle⟩ : Aggregator.Handover))) →
          x.2.moment? = moment? ∧ ∃ w ∈ v :: rest, w.key = x.1 ∧ ∃ (a next : Aggregator),
            a.Holds ((Segmentation.empty : Segmentation x.1.2).run x.2.past).unfinished ∧
              a.answer w.call = .ok ⟨some x.2.candle, next⟩ := by
        intro hnow
        obtain ⟨candle, hcandle, rfl⟩ := List.mem_map.mp hnow
        rw [Option.mem_toList, handedOver?] at hcandle
        split at hcandle
        · next move hanswer =>
            obtain ⟨completed, next⟩ := move
            obtain rfl : completed = some candle := hcandle
            exact ⟨rfl, v, List.mem_cons_self, rfl, _, next, h v.key, hanswer⟩
        · cases hcandle
      cases hattend : e.attend refuses v with
      | mk reached result =>
          cases result with
          | error fault =>
              rw [handovers_cons_error hattend] at hx
              exact hfirst hx
          | ok candle =>
              rw [handovers_cons_ok hattend] at hx
              rcases List.mem_append.mp hx with hnow | hlater
              · exact hfirst hnow
              · obtain ⟨hmoment, w, hw, hfound⟩ := ih (h.attend_ok hattend) hlater
                exact ⟨hmoment, w, List.mem_cons_of_mem v hw, hfound⟩

/-! ## Calls and runs -/

theorem Recalls.perform (h : e.Recalls past) (refuses : Refusals) (call : Call) :
    (e.perform refuses call).1.Recalls (past ++ carriedOut refuses (e.visits call) e) := by
  rw [engine_perform]
  exact h.attendAll refuses _

/-- Every attempt to save a candle is on record. -/
theorem attempts_run (refuses : Refusals) (past : List Visit) (e : Engine) (calls : List Call) :
    (e.run refuses calls).attempts =
      e.attempts + (handoversIn refuses past e calls).length := by
  induction calls generalizing e past with
  | nil => rfl
  | cons call rest ih =>
      have hnow :=
        @attempts_attendAll refuses call.moment? (e.visits call) e past
      rw [← engine_perform] at hnow
      rw [run_cons, handoversIn, List.length_append, ← Nat.add_assoc, ← hnow]
      exact ih _ _

/-- What was saved had been handed over. -/
theorem log_sublist (refuses : Refusals) (past : List Visit) (e : Engine) (calls : List Call) :
    (log refuses e calls).Sublist
      ((handoversIn refuses past e calls).map fun x ↦ (x.1, x.2.candle)) := by
  induction calls generalizing e past with
  | nil => exact List.Sublist.refl _
  | cons call rest ih =>
      rw [log, handoversIn, List.map_append]
      exact (saved_sublist _ e past).append (ih _ _)

/-- Every visit of a call comes at the moment of the call. -/
theorem moment?_of_mem_visits {call : Call} {v : Visit} (hv : v ∈ e.visits call) :
    v.call.moment? = call.moment? := by
  have hsingle : ∀ (key : String × Interval) (c : Aggregator.Call),
      v ∈ (if key ∈ e.pool.keys then [(⟨key, c⟩ : Visit)] else []) →
        v.call.moment? = c.moment? := by
    intro key c hmem
    split at hmem
    · rw [List.mem_singleton.mp hmem]
    · cases hmem
  cases call with
  | ingest t =>
      obtain ⟨_, _, rfl⟩ := List.mem_map.mp hv
      rfl
  | sweep now =>
      obtain ⟨_, _, rfl⟩ := List.mem_map.mp hv
      rfl
  | shutdown =>
      obtain ⟨_, _, rfl⟩ := List.mem_map.mp hv
      rfl
  | flush key => exact hsingle key .flush hv
  | flushStale key now => exact hsingle key (.stale now) hv

/-- Where a candle of a run comes from. -/
theorem Recalls.exists_call (h : e.Recalls past) {calls : List Call}
    {x : (String × Interval) × Aggregator.Handover} (hx : x ∈ handoversIn refuses past e calls) :
    ∃ call ∈ calls, x.2.moment? = call.moment? ∧ ∃ (a next : Aggregator) (c : Aggregator.Call),
      c.moment? = call.moment? ∧
      a.Holds ((Segmentation.empty : Segmentation x.1.2).run x.2.past).unfinished ∧
        a.answer c = .ok ⟨some x.2.candle, next⟩ := by
  induction calls generalizing e past with
  | nil => cases hx
  | cons call rest ih =>
      rcases List.mem_append.mp hx with hnow | hlater
      · obtain ⟨hmoment, v, hv, _, a, next, hholds, hanswer⟩ := h.exists_visit hnow
        exact ⟨call, List.mem_cons_self, hmoment, a, next, v.call, moment?_of_mem_visits hv, hholds,
          hanswer⟩
      · obtain ⟨other, hother, hfound⟩ := ih (h.perform refuses call) hlater
        exact ⟨other, List.mem_cons_of_mem call hother, hfound⟩

/-- No candle is handed over before its bucket has ended, and it is made of ticks of this bucket
only. This is so for one aggregator, whichever of its candles are refused, and for an engine, whose
attempts to save are the candles handed over by its aggregators. -/
theorem handovers_timely :
    (∀ (i : Interval) (attempts : List Aggregator.Attempt),
      (∀ x ∈ attempts, x.call ≠ .flush) →
        ∀ h ∈ Aggregator.handovers [] (.fresh i) attempts, h.Timely i) ∧
    (∀ (intervals : List Interval) (refuses : Refusals) (calls : List Call),
      (∀ call ∈ calls, call.moment? ≠ none) →
        (∀ x ∈ handoversIn refuses [] (fresh intervals) calls, x.2.Timely x.1.2) ∧
        (log refuses (fresh intervals) calls).Sublist
          ((handoversIn refuses [] (fresh intervals) calls).map fun x ↦ (x.1, x.2.candle)) ∧
        ((fresh intervals).run refuses calls).attempts =
          (handoversIn refuses [] (fresh intervals) calls).length) := by
  refine ⟨?_, ?_⟩
  · intro i attempts hattempts h hh
    refine Aggregator.timely_of_mem_handovers (Aggregator.holds_fresh i) ?_ hh
    intro x hx
    have hforced := hattempts x hx
    cases hcall : x.call with
    | process t => exact Option.some_ne_none _
    | stale now => exact Option.some_ne_none _
    | flush => exact absurd hcall hforced
  · intro intervals refuses calls hcalls
    refine ⟨?_, log_sublist refuses [] _ calls, ?_⟩
    · rintro ⟨key, handed⟩ hx
      obtain ⟨call, hcall, hfrom, a, next, c, hmoment, hholds, hanswer⟩ :=
        (recalls_fresh intervals).exists_call hx
      obtain ⟨moment, hsome⟩ := Option.ne_none_iff_exists'.mp (hcalls call hcall)
      have htimely := Aggregator.timely_of_completes hholds hanswer (hmoment.trans hsome)
      rw [hsome] at hfrom
      rw [← hfrom] at htimely
      exact htimely
    · rw [attempts_run refuses [] _ calls]
      exact Nat.zero_add _

/-- A minute that is refused twice, by a tick and by a sweep, and saved by the next tick. -/
def refusedMinute : List Call :=
  [.ingest (.whole "A" 64 66 10500 (by decide +kernel)),
    .ingest (.whole "A" 70 72 59999 (by decide +kernel)),
    .ingest (.whole "A" 90 92 61000 (by decide +kernel)), .sweep 60,
    .ingest (.whole "A" 80 82 185000 (by decide +kernel))]

theorem handovers_timely_refusedMinute :
    (∀ call ∈ refusedMinute, call.moment? ≠ none) ∧
      (handoversIn (· < 3) [] (fresh [.oneMinute]) refusedMinute).length = 3 ∧
      ∀ x ∈ handoversIn (· < 3) [] (fresh [.oneMinute]) refusedMinute, x.2.Timely x.1.2 := by
  have hmoments : ∀ call ∈ refusedMinute, call.moment? ≠ none := by decide +kernel
  exact ⟨hmoments, by decide +kernel, (handovers_timely.2 [.oneMinute] (· < 3) _ hmoments).1⟩

end Candlestick.Engine

import Candlestick.Proofs.Engine.Soundness

/-!
# Calls that are cut short

Only a refused save can end a call early, and it does so in the middle of a row of visits. The
visits before it have been made, and they have done what they do when every save is taken. The
visit that failed has changed nothing but the number of saves tried, and the visits after it are
not made. So a row of visits either comes out as if no save were ever refused or there is an
`Interruption` that says where it was cut (`Sound.attendAll_eq_or_interrupted`).
-/

namespace Candlestick.Engine

/-- The engines that can come about, whatever saves were refused on the way. The store is not the
engine's own, others may write to it between two calls. -/
inductive Reachable : Engine → Prop
  | fresh (intervals : List Interval) : Reachable (.fresh intervals)
  | perform {e : Engine} (h : Reachable e) (refuses : Refusals) (call : Call) :
      Reachable (e.perform refuses call).1
  | restock {e : Engine} (h : Reachable e) (store : Store) : Reachable { e with store := store }

theorem Reachable.sound {e : Engine} (h : e.Reachable) : e.Sound := by
  induction h with
  | fresh intervals => exact sound_fresh intervals
  | perform _ refuses call ih => exact ih.perform refuses call
  | restock _ store ih => exact ih

theorem Reachable.run {e : Engine} (h : e.Reachable) (refuses : Refusals) (calls : List Call) :
    (e.run refuses calls).Reachable := by
  induction calls generalizing e with
  | nil => exact h
  | cons call rest ih => exact ih (h.perform refuses call)

/-! ## One visit -/

section Attend

variable {refuses : Refusals} {e : Engine} {v : Visit}

@[simp] theorem pool_countAttempt (e : Engine) : e.countAttempt.pool = e.pool :=
  rfl

@[simp] theorem store_countAttempt (e : Engine) : e.countAttempt.store = e.store :=
  rfl

@[simp] theorem held_countAttempt (e : Engine) (key : String × Interval) :
    e.countAttempt.held key = e.held key :=
  rfl

theorem attempts_le_attend (refuses : Refusals) (e : Engine) (v : Visit) :
    e.attempts ≤ (e.attend refuses v).1.attempts := by
  have hensure := attempts_ensure e v.key
  rcases attend_cases refuses e v with ⟨_, _, h⟩ | ⟨_, _, h⟩ | ⟨_, _, _, _, h⟩ | ⟨_, _, _, _, h⟩
  · rw [h]
    exact hensure.ge
  · rw [h]
    exact hensure.ge
  · rw [h]
    exact hensure.ge.trans (Nat.le_succ _)
  · rw [h]
    exact hensure.ge.trans (Nat.le_succ _)

theorem get?_attend_of_ne {key : String × Interval} (hkey : v.key ≠ key) :
    (e.attend refuses v).1.pool.get? key = e.pool.get? key := by
  have hensure : (e.ensure v.key).pool.get? key = e.pool.get? key := by
    rw [get?_ensure, if_neg hkey]
  have hput : ∀ a, ((e.ensure v.key).pool.put v.key a).get? key = e.pool.get? key := by
    intro a
    rw [Keyed.get?_put, if_neg hkey, hensure]
  rcases attend_cases refuses e v with ⟨_, _, h⟩ | ⟨next, _, h⟩ | ⟨_, _, _, _, h⟩ |
    ⟨_, next, _, _, h⟩
  · rw [h]
    exact hensure
  · rw [h]
    exact hput next
  · rw [h]
    exact hensure
  · rw [h]
    exact hput next

theorem keys_attend_of_mem (hkey : v.key ∈ e.pool.keys) :
    (e.attend refuses v).1.pool.keys = e.pool.keys := by
  have hput : ∀ a, (e.pool.put v.key a).keys = e.pool.keys := by
    intro a
    rw [Keyed.keys_put, if_pos hkey]
  rcases attend_cases refuses e v with ⟨_, _, h⟩ | ⟨next, _, h⟩ | ⟨_, _, _, _, h⟩ |
    ⟨_, next, _, _, h⟩
  · rw [h, ensure_of_mem e v.key hkey]
  · rw [h, ensure_of_mem e v.key hkey]
    exact hput next
  · rw [h, ensure_of_mem e v.key hkey]
    rfl
  · rw [h, ensure_of_mem e v.key hkey]
    exact hput next

/-- An aggregator that has not come into being has nothing to hand over. -/
theorem mem_keys_of_completes {key : String × Interval} {call : Aggregator.Call} {candle : Candle}
    {next : Aggregator} (h : (e.held key).answer call = .ok ⟨some candle, next⟩) :
    key ∈ e.pool.keys := by
  by_contra habsent
  rw [held_eq_fresh habsent] at h
  cases call <;> cases h

theorem ne_none_of_completes {a next : Aggregator} {call : Aggregator.Call} {candle : Candle}
    (h : a.answer call = .ok ⟨some candle, next⟩) : a.current ≠ none := by
  intro hnone
  cases call <;>
    simp [Aggregator.answer, Aggregator.process, Aggregator.flushStale, Aggregator.flush,
      Aggregator.quietly, hnone] at h

/-- A visit to a sound engine goes as if no save were ever refused, unless its own save is. -/
theorem Sound.attend_eq_or_refused (h : e.Sound) (refuses : Refusals) (v : Visit) :
    (∃ next candle, e.attend refuses v = (next, .ok candle) ∧
      e.attend .none v = (next, .ok candle) ∧
      ∀ n, e.attempts < n → n ≤ next.attempts → refuses n = false) ∨
    (refuses (e.attempts + 1) = true ∧
      ∃ candle next, (e.held v.key).answer v.call = .ok ⟨some candle, next⟩) := by
  have hattempts := attempts_ensure e v.key
  rcases attend_cases refuses e v with ⟨fault, hfault, _⟩ | ⟨next, hanswer, hattend⟩ |
    ⟨candle, next, hanswer, hrefused, _⟩ | ⟨candle, next, hanswer, haccepted, hattend⟩
  · obtain ⟨past, hholds⟩ := h v.key
    obtain ⟨move, hmove, _⟩ := Aggregator.answer_of_holds hholds v.call
    rw [hfault] at hmove
    cases hmove
  · refine Or.inl ⟨_, _, hattend, attend_quiet hanswer, ?_⟩
    intro n hlt hle
    exact absurd (hle.trans hattempts.le) (Nat.not_le.mpr hlt)
  · exact Or.inr ⟨hrefused, candle, next, hanswer⟩
  · refine Or.inl ⟨_, _, hattend, attend_saved hanswer rfl, ?_⟩
    intro n hlt hle
    have hlast : n ≤ e.attempts + 1 := hle.trans (Nat.succ_le_succ hattempts.le)
    rw [Nat.le_antisymm hlast hlt]
    exact haccepted

end Attend

/-! ## Rows of visits -/

section Rows

variable {refuses : Refusals} {e : Engine}

theorem attempts_le_attendAll (refuses : Refusals) (visits : List Visit) (e : Engine) :
    e.attempts ≤ (attendAll refuses visits e).engine.attempts := by
  refine attendAll_invariant (motive := fun reached ↦ e.attempts ≤ reached.attempts) ?_ le_rfl
  intro v _ reached h
  exact h.trans (attempts_le_attend refuses reached v)

/-- A row goes on where a row before it that has not failed has ended. -/
theorem attendAll_append {visits : List Visit} (h : (attendAll refuses visits e).fault? = none)
    (rest : List Visit) :
    attendAll refuses (visits ++ rest) e =
      { attendAll refuses rest (attendAll refuses visits e).engine with
        saved := (attendAll refuses visits e).saved ++
          (attendAll refuses rest (attendAll refuses visits e).engine).saved } := by
  induction visits generalizing e with
  | nil => rfl
  | cons v others ih =>
      cases hattend : e.attend refuses v with
      | mk reached result =>
          cases result with
          | error fault =>
              rw [attendAll_cons_error hattend] at h
              cases h
          | ok candle =>
              rw [attendAll_cons_ok hattend] at h ⊢
              rw [List.cons_append, attendAll_cons_ok hattend, ih h, List.append_assoc]

theorem get?_attendAll_of_not_mem {visits : List Visit} {key : String × Interval}
    (h : key ∉ visits.map Visit.key) :
    (attendAll refuses visits e).engine.pool.get? key = e.pool.get? key := by
  induction visits generalizing e with
  | nil => rfl
  | cons v rest ih =>
      rw [List.map_cons, List.mem_cons, not_or] at h
      obtain ⟨hne, hrest⟩ := h
      have hother : (e.attend refuses v).1.pool.get? key = e.pool.get? key :=
        get?_attend_of_ne (Ne.symm hne)
      cases hattend : e.attend refuses v with
      | mk reached result =>
          rw [hattend] at hother
          cases result with
          | error fault =>
              rw [attendAll_cons_error hattend]
              exact hother
          | ok candle =>
              rw [attendAll_cons_ok hattend]
              exact (ih hrest).trans hother

theorem mem_keys_of_mem_saved {visits : List Visit} {entry : (String × Interval) × Candle}
    (h : entry ∈ (attendAll refuses visits e).saved) : entry.1 ∈ visits.map Visit.key := by
  induction visits generalizing e with
  | nil => cases h
  | cons v rest ih =>
      rw [List.map_cons]
      cases hattend : e.attend refuses v with
      | mk reached result =>
          cases result with
          | error fault =>
              rw [attendAll_cons_error hattend] at h
              cases h
          | ok candle =>
              rw [attendAll_cons_ok hattend] at h
              rcases List.mem_append.mp h with hnow | hlater
              · obtain ⟨_, _, rfl⟩ := List.mem_map.mp hnow
                exact List.mem_cons_self
              · exact List.mem_cons_of_mem _ (ih hlater)

theorem get?_storeLog_of_forall_ne {s : Store} {saved : List ((String × Interval) × Candle)}
    {found : CandleKey}
    (h : ∀ entry ∈ saved, Store.keyOf entry.1.1 entry.1.2.label entry.2 ≠ found) :
    (storeLog s saved).get? found = s.get? found := by
  induction saved generalizing s with
  | nil => rfl
  | cons entry rest ih =>
      obtain ⟨hne, hrest⟩ := List.forall_mem_cons.mp h
      have hsaved : (s.save entry.1.1 entry.1.2.label entry.2).get? found = s.get? found := by
        rw [Store.get?_save, if_neg hne]
      exact (ih hrest).trans hsaved

/-- Where a row of visits is cut: the visits that were made, none of whose saves was refused, the
one whose save was, and the ones that were not made any more. -/
structure Interruption (refuses : Refusals) (e : Engine) (visits : List Visit) where
  made : List Visit
  failing : Visit
  skipped : List Visit
  visits_eq : visits = made ++ failing :: skipped
  made_eq : attendAll refuses made e = attendAll .none made e
  unfailing : (attendAll .none made e).fault? = none
  refused : refuses ((attendAll .none made e).engine.attempts + 1) = true
  completes : ∃ candle next,
    ((attendAll .none made e).engine.held failing.key).answer failing.call =
      .ok ⟨some candle, next⟩

namespace Interruption

variable {visits : List Visit}

/-- The engine at the moment of the refusal. -/
def reached (i : Interruption refuses e visits) : Engine :=
  (attendAll .none i.made e).engine

theorem attend_failing (i : Interruption refuses e visits) :
    i.reached.attend refuses i.failing = (i.reached.countAttempt, .error .saveRefused) := by
  obtain ⟨candle, next, hanswer⟩ := i.completes
  have hmem := mem_keys_of_completes hanswer
  have hattend := attend_refused hanswer i.refused
  rw [ensure_of_mem _ _ hmem] at hattend
  exact hattend

theorem attendAll_eq (i : Interruption refuses e visits) :
    attendAll refuses visits e =
      ⟨i.reached.countAttempt, (attendAll .none i.made e).saved, some .saveRefused⟩ := by
  have hmade : (attendAll refuses i.made e).fault? = none := by
    rw [i.made_eq]
    exact i.unfailing
  have hfailing := attendAll_cons_error i.attend_failing i.skipped
  have happend := attendAll_append hmade (i.failing :: i.skipped)
  rw [i.made_eq] at happend
  rw [reached] at hfailing
  rw [← i.visits_eq, hfailing, List.append_nil] at happend
  exact happend

def cons {next : Engine} {v : Visit} {candle : Option Candle}
    (hattend : e.attend refuses v = (next, .ok candle))
    (hnone : e.attend .none v = (next, .ok candle)) (i : Interruption refuses next visits) :
    Interruption refuses e (v :: visits) where
  made := v :: i.made
  failing := i.failing
  skipped := i.skipped
  visits_eq := by
    rw [List.cons_append, ← i.visits_eq]
  made_eq := by
    rw [attendAll_cons_ok hattend, attendAll_cons_ok hnone, i.made_eq]
  unfailing := by
    rw [attendAll_cons_ok hnone]
    exact i.unfailing
  refused := by
    rw [attendAll_cons_ok hnone]
    exact i.refused
  completes := by
    rw [attendAll_cons_ok hnone]
    exact i.completes

end Interruption

/-- A row of visits to a sound engine comes out as if no save were ever refused or is cut short by
a refusal. -/
theorem Sound.attendAll_eq_or_interrupted (h : e.Sound) (refuses : Refusals)
    (visits : List Visit) :
    (Engine.attendAll refuses visits e = Engine.attendAll .none visits e ∧
      ∀ n, e.attempts < n → n ≤ (Engine.attendAll .none visits e).engine.attempts →
        refuses n = false) ∨
    Nonempty (Interruption refuses e visits) := by
  induction visits generalizing e with
  | nil => exact Or.inl ⟨rfl, fun n hlt hle ↦ absurd hle (Nat.not_le.mpr hlt)⟩
  | cons v rest ih =>
      -- The row is cut at its first visit or where the rest of it is cut.
      rcases h.attend_eq_or_refused refuses v with
        ⟨next, candle, hattend, hnone, haccepted⟩ | ⟨hrefused, hcompletes⟩
      · have hnext : next.Sound := by
          have hsound := h.attend .none v
          rw [hnone] at hsound
          exact hsound
        rcases ih hnext with ⟨heq, hlater⟩ | hinterrupted
        · left
          rw [attendAll_cons_ok hattend, attendAll_cons_ok hnone, heq]
          refine ⟨rfl, ?_⟩
          intro n hlt hle
          rcases Nat.lt_or_ge next.attempts n with hbeyond | hnow
          · exact hlater n hbeyond hle
          · exact haccepted n hlt hnow
        · obtain ⟨i⟩ := hinterrupted
          exact Or.inr ⟨i.cons hattend hnone⟩
      · exact Or.inr ⟨⟨[], v, rest, rfl, rfl, rfl, hrefused, hcompletes⟩⟩

end Rows

/-! ## Calls -/

/-- What a call that fails leaves behind: it has made the visits `made` as a call whose saves are
all taken makes them, it was stopped at the visit `failing`, and the visits `skipped` have not been
made. -/
structure CutShort (e : Engine) (call : Call) (made : List Visit) (failing : Visit)
    (skipped : List Visit) (final : Engine) : Prop where
  visits_eq : e.visits call = made ++ failing :: skipped
  /-- A call without refusals gets to the same engine before it goes on. -/
  goes_on : (e.perform .none call).1 =
    (attendAll .none (failing :: skipped) (attendAll .none made e).engine).engine
  pool_eq : final.pool = (attendAll .none made e).engine.pool
  store_eq : final.store = (attendAll .none made e).engine.store
  intervals_eq : final.intervals = e.intervals
  /-- The aggregator that was asked still has the candle that could not be saved. -/
  still_open : (final.held failing.key).current ≠ none
  /-- No other aggregators have changed or come into being. -/
  pool_elsewhere : ∀ key ∉ made.map Visit.key, final.pool.get? key = e.pool.get? key
  /-- No other candles have been stored. -/
  store_elsewhere : ∀ found, (∀ entry ∈ (attendAll .none made e).saved,
    Store.keyOf entry.1.1 entry.1.2.label entry.2 ≠ found) →
      final.store.get? found = e.store.get? found

theorem Interruption.cutShort {refuses : Refusals} {e : Engine} {call : Call}
    (i : Interruption refuses e (e.visits call)) :
    CutShort e call i.made i.failing i.skipped i.reached.countAttempt where
  visits_eq := i.visits_eq
  goes_on := by
    have hcall := attendAll_append i.unfailing (i.failing :: i.skipped)
    rw [← i.visits_eq] at hcall
    rw [engine_perform, hcall]
  pool_eq := rfl
  store_eq := rfl
  intervals_eq := by
    refine attendAll_invariant (motive := fun reached ↦ reached.intervals = e.intervals) ?_ rfl
    intro v _ reached h
    exact (intervals_attend .none reached v).trans h
  still_open := by
    obtain ⟨candle, next, hanswer⟩ := i.completes
    exact ne_none_of_completes hanswer
  pool_elsewhere := fun key hkey ↦ get?_attendAll_of_not_mem hkey
  store_elsewhere := by
    intro found hfound
    rw [store_countAttempt, reached, store_attendAll]
    exact get?_storeLog_of_forall_ne hfound

theorem Sound.perform_eq_or_interrupted {e : Engine} (h : e.Sound) (refuses : Refusals)
    (call : Call) :
    (e.perform refuses call = e.perform .none call ∧ (e.perform refuses call).2 = .ok () ∧
      e.saves refuses call = e.saves .none call ∧
      ∀ n, e.attempts < n → n ≤ (e.perform refuses call).1.attempts → refuses n = false) ∨
    ∃ i : Interruption refuses e (e.visits call),
      e.perform refuses call = (i.reached.countAttempt, .error .saveRefused) ∧
        e.saves refuses call = (Engine.attendAll .none i.made e).saved := by
  rw [perform_eq_attendAll, perform_eq_attendAll, saves, saves]
  rcases h.attendAll_eq_or_interrupted refuses (e.visits call) with ⟨heq, haccepted⟩ | hinterrupted
  · have hfault := h.fault_attendAll (e.visits call)
    rw [heq]
    refine Or.inl ⟨rfl, ?_, rfl, haccepted⟩
    rw [Outcome.result, hfault]
  · obtain ⟨i⟩ := hinterrupted
    refine Or.inr ⟨i, ?_⟩
    rw [i.attendAll_eq]
    exact ⟨rfl, rfl⟩

theorem symbol_of_mem_visits_ingest {e : Engine} {t : Tick} {v : Visit}
    (h : v ∈ e.visits (.ingest t)) : v.key.1 = t.symbol := by
  obtain ⟨_, _, rfl⟩ := List.mem_map.mp h
  rfl

/-- A call ends with a fault exactly if one of the saves that it tries is refused. If it does not,
it does what it does when no save is ever refused. If it does, it has been cut short at the refused
save, and for a tick nothing has happened to other symbols. -/
theorem perform_error_iff_and_cutShort {e : Engine} (h : e.Reachable) (refuses : Refusals)
    (call : Call) :
    ((∃ fault, (e.perform refuses call).2 = .error fault) ↔
      ∃ n, e.attempts < n ∧ n ≤ (e.perform refuses call).1.attempts ∧ refuses n = true) ∧
    ((e.perform refuses call).2 = .ok () → e.perform refuses call = e.perform .none call) ∧
    ∀ fault, (e.perform refuses call).2 = .error fault → fault = .saveRefused ∧
      (∃ made failing skipped,
        CutShort e call made failing skipped (e.perform refuses call).1) ∧
      ∀ t, call = .ingest t → ∀ key : String × Interval, key.1 ≠ t.symbol →
        (e.perform refuses call).1.pool.get? key = e.pool.get? key := by
  rcases h.sound.perform_eq_or_interrupted refuses call with
    ⟨heq, hok, _, haccepted⟩ | ⟨i, hcut, _⟩
  · refine ⟨⟨?_, ?_⟩, fun _ ↦ heq, ?_⟩
    · rintro ⟨fault, herror⟩
      rw [hok] at herror
      cases herror
    · rintro ⟨n, hlt, hle, hrefused⟩
      rw [haccepted n hlt hle] at hrefused
      cases hrefused
    · intro fault herror
      rw [hok] at herror
      cases herror
  · have hbefore : e.attempts ≤ i.reached.attempts := attempts_le_attendAll .none i.made e
    rw [hcut]
    refine ⟨⟨?_, ?_⟩, ?_, ?_⟩
    · intro _
      exact ⟨i.reached.attempts + 1, Nat.lt_succ_of_le hbefore, le_rfl, i.refused⟩
    · intro _
      exact ⟨.saveRefused, rfl⟩
    · intro hok
      cases hok
    · intro fault herror
      cases herror
      have hcutShort := i.cutShort
      refine ⟨rfl, ⟨i.made, i.failing, i.skipped, hcutShort⟩, ?_⟩
      rintro t rfl key hkey
      refine hcutShort.pool_elsewhere key ?_
      intro hmade
      obtain ⟨v, hv, rfl⟩ := List.mem_map.mp hmade
      have hvisit : v ∈ e.visits (.ingest t) := by
        rw [i.visits_eq]
        exact List.mem_append_left _ hv
      exact hkey (symbol_of_mem_visits_ingest hvisit)

/-- A symbol with a candle of a minute and one of five minutes that began together. -/
def twoTimeframes : Engine :=
  (fresh [.oneMinute, .fiveMinutes, .oneHour]).run .none
    [.ingest (.whole "A" 41 43 9500 (by decide +kernel))]

/-- The next tick ends both, and the save of the second is refused. -/
theorem perform_error_iff_and_cutShort_twoTimeframes :
    twoTimeframes.Reachable ∧
      (twoTimeframes.perform (· == 2)
        (.ingest (.whole "A" 98 100 310000 (by decide +kernel)))).2 = .error .saveRefused ∧
      ∃ made failing skipped, CutShort twoTimeframes
        (.ingest (.whole "A" 98 100 310000 (by decide +kernel))) made failing skipped
        (twoTimeframes.perform (· == 2)
          (.ingest (.whole "A" 98 100 310000 (by decide +kernel)))).1 := by
  have hreachable : twoTimeframes.Reachable := (Reachable.fresh _).run .none _
  have herror : (twoTimeframes.perform (· == 2)
      (.ingest (.whole "A" 98 100 310000 (by decide +kernel)))).2 = .error .saveRefused := by
    decide +kernel
  have heffect := (perform_error_iff_and_cutShort hreachable (· == 2)
    (.ingest (.whole "A" 98 100 310000 (by decide +kernel)))).2.2 _ herror
  exact ⟨hreachable, herror, heffect.2.1⟩

end Candlestick.Engine

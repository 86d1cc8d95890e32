import Candlestick.Proofs.Engine.Pool
import Candlestick.Proofs.Engine.Retry

/-!
# What a sweep closes

A sweep compares the bucket of its clock with the open buckets. Both are aligned, so it finds the
open candles whose buckets have ended (`expired`), and no others. Each of these is saved once, in
the order of the aggregators (`Sound.saved_attendAll`), and is no longer open afterwards. Whatever
stays open ends after the clock of the sweep, so an earlier clock finds nothing more to do.
-/

namespace Candlestick

theorem Aggregator.due_stale_eq_none {a : Aggregator} {now earlier : Int}
    (h : a.due (.stale now) = none) (hearlier : earlier ≤ now) :
    a.due (.stale earlier) = none := by
  rw [due, Option.filter_eq_none_iff] at h ⊢
  intro c hc hended
  apply h c hc
  rw [decide_eq_true_eq] at hended ⊢
  exact hended.trans hearlier

namespace Engine

/-- The open candles whose buckets have ended by the given second, in the order of their
aggregators. -/
def expired (e : Engine) (now : Int) : List ((String × Interval) × OpenCandle) :=
  e.pool.entries.flatMap fun (key, a) ↦
    (a.current.filter fun c ↦ c.bucketStart + key.2.seconds ≤ now).toList.map (key, ·)

/-- Where an open candle is stored once it has been completed. -/
def storageKey (opened : (String × Interval) × OpenCandle) : CandleKey :=
  ⟨opened.1.1, opened.1.2.label, opened.2.bucketStart⟩

/-- What was saved has the key and the values of what was open. -/
def Completes (saved : (String × Interval) × Candle) (opened : (String × Interval) × OpenCandle) :
    Prop :=
  saved.1 = opened.1 ∧ opened.2.ClosesTo saved.2

variable {e : Engine} {now : Int} {key : String × Interval}

theorem Completes.keyOf_eq {saved : (String × Interval) × Candle}
    {opened : (String × Interval) × OpenCandle} (h : Completes saved opened) :
    Store.keyOf saved.1.1 saved.1.2.label saved.2 = storageKey opened := by
  rw [Store.keyOf, h.1, h.2.1]
  rfl

/-! ## Candles whose buckets have ended -/

theorem mem_expired_iff {c : OpenCandle} :
    (key, c) ∈ e.expired now ↔
      ∃ a, e.pool.get? key = some a ∧ a.current = some c ∧ c.bucketStart + key.2.seconds ≤ now := by
  simp only [expired, List.mem_flatMap, List.mem_map, Option.mem_toList,
    Option.filter_eq_some_iff, decide_eq_true_eq, Prod.mk.injEq]
  constructor
  · rintro ⟨⟨other, a⟩, hentry, d, ⟨hcurrent, hended⟩, rfl, rfl⟩
    exact ⟨a, Keyed.mem_entries_iff.mp hentry, hcurrent, hended⟩
  · rintro ⟨a, hget, hcurrent, hended⟩
    exact ⟨(key, a), Keyed.mem_entries_iff.mpr hget, c, ⟨hcurrent, hended⟩, rfl, rfl⟩

theorem nodup_map_fst_expired (e : Engine) (now : Int) : ((e.expired now).map Prod.fst).Nodup := by
  have hsublist : ((e.expired now).map Prod.fst).Sublist (e.pool.entries.map Prod.fst) := by
    unfold expired
    -- An aggregator has one open candle at most, so each key is kept or left out.
    induction e.pool.entries with
    | nil => exact List.Sublist.refl []
    | cons entry rest ih =>
        obtain ⟨key, a⟩ := entry
        rw [List.flatMap_cons, List.map_append, List.map_cons]
        dsimp only
        cases a.current.filter fun c ↦ c.bucketStart + key.2.seconds ≤ now with
        | none => exact ih.cons key
        | some c => exact ih.cons_cons key
  exact hsublist.nodup e.pool.nodup

theorem Sound.due_stale_eq_some_iff (h : e.Sound) {a : Aggregator} (ha : e.pool.get? key = some a)
    {c : OpenCandle} : a.due (.stale now) = some c ↔ (key, c) ∈ e.expired now := by
  obtain ⟨_, rfl⟩ := get?_eq_some_iff.mp ha
  rw [mem_expired_iff, Aggregator.due, Option.filter_eq_some_iff, h.interval_held key,
    decide_eq_true_eq]
  constructor
  · rintro ⟨hcurrent, hended⟩
    exact ⟨_, ha, hcurrent, hended⟩
  · rintro ⟨_, hb, hcurrent, hended⟩
    obtain rfl := Option.some.inj (ha.symm.trans hb)
    exact ⟨hcurrent, hended⟩

theorem Sound.settled_eq (h : e.Sound) {a : Aggregator} (ha : e.pool.get? key = some a) :
    a.settled (.stale now) =
      if key ∈ (e.expired now).map Prod.fst then { a with current := none } else a := by
  cases hdue : a.due (.stale now) with
  | none =>
      rw [Aggregator.settled_of_none hdue, if_neg]
      intro hmem
      obtain ⟨⟨_, c⟩, hc, rfl⟩ := List.mem_map.mp hmem
      rw [(h.due_stale_eq_some_iff ha).mpr hc] at hdue
      cases hdue
  | some c =>
      rw [Aggregator.settled_of_some hdue, if_pos]
      exact List.mem_map.mpr ⟨(key, c), (h.due_stale_eq_some_iff ha).mp hdue, rfl⟩

theorem Sound.expired_eq (h : e.Sound) (now : Int) :
    e.expired now =
      e.pool.keys.flatMap fun key ↦ ((e.held key).due (.stale now)).toList.map (key, ·) := by
  rw [expired, Keyed.keys, List.flatMap_map]
  apply List.flatMap_congr
  rintro ⟨key, a⟩ hentry
  obtain ⟨_, rfl⟩ := get?_eq_some_iff.mp (Keyed.mem_entries_iff.mp hentry)
  simp only [Aggregator.due, h.interval_held key]

/-! ## Asking for them -/

/-- Each candle that is due is saved once, in the order in which the aggregators are asked. -/
theorem Sound.saved_attendAll (h : e.Sound) {c : Aggregator.Call} (hc : c.tick? = none)
    {keys : List (String × Interval)} (hkeys : keys.Nodup) :
    List.Forall₂ Completes (Engine.attendAll .none (keys.map fun key ↦ ⟨key, c⟩) e).saved
      (keys.flatMap fun key ↦ ((e.held key).due c).toList.map (key, ·)) := by
  induction keys generalizing e with
  | nil => exact .nil
  | cons key rest ih =>
      obtain ⟨hfresh, hrest⟩ := List.nodup_cons.mp hkeys
      obtain ⟨move, hanswer, hresult, hheld⟩ := h.attend_none ⟨key, c⟩
      obtain ⟨past, hholds⟩ := h key
      obtain ⟨completed, hsettled, hclosed⟩ := hholds.answer_due hc
      obtain rfl : move = ⟨completed, (e.held key).settled c⟩ :=
        Except.ok.inj (hanswer.symm.trans hsettled)
      have hattend : e.attend .none ⟨key, c⟩ = ((e.attend .none ⟨key, c⟩).1, .ok completed) :=
        Prod.ext rfl hresult
      -- The aggregators that are asked later are still as they were.
      have hlater : (rest.flatMap fun other ↦ ((e.held other).due c).toList.map (other, ·)) =
          rest.flatMap fun other ↦
            (((e.attend .none ⟨key, c⟩).1.held other).due c).toList.map (other, ·) := by
        apply List.flatMap_congr
        intro other hother
        rw [hheld other, if_neg]
        rintro rfl
        exact hfresh hother
      rw [List.map_cons, attendAll_cons_ok hattend, List.flatMap_cons, hlater]
      apply List.rel_append
      · generalize (e.held key).due c = due at hclosed
        cases hclosed with
        | none => exact .nil
        | some hclose => exact .cons ⟨rfl, OpenCandle.closesTo_of_close hclose⟩ .nil
      · exact ih (h.attend .none ⟨key, c⟩) hrest

theorem keys_sweep (refuses : Refusals) (e : Engine) (now : Int) :
    (e.perform refuses (.sweep now)).1.pool.keys = e.pool.keys := by
  rw [engine_perform]
  exact keys_attendAll fun _ hkey ↦ hkey

theorem Sound.get?_pool_sweep (h : e.Sound) (now : Int) (key : String × Interval) :
    (e.perform .none (.sweep now)).1.pool.get? key =
      (e.pool.get? key).map (Aggregator.settled · (.stale now)) := by
  have hafter : (e.perform .none (.sweep now)).1.pool.get? key = _ := aggregator?_eq_ite _ key
  have hbefore : e.pool.get? key = _ := aggregator?_eq_ite e key
  rw [hafter, hbefore, keys_sweep, (h.perform_round rfl key).2]
  split <;> rfl

theorem Sound.sweep_eq (h : e.Sound) (now : Int) :
    e.sweep .none now =
      ((e.perform .none (.sweep now)).1, .ok (e.saves .none (.sweep now)).length) := by
  have hcounted : e.sweep .none now = _ :=
    visitEach_eq .none (.stale now) e.pool.keys e fun _ hkey ↦ hkey
  rw [hcounted, Outcome.result, h.fault_attendAll, engine_perform]
  rfl

/-- A sweep that finds nothing due changes nothing, whatever saves would be refused. -/
theorem Sound.sweep_of_due_none (h : e.Sound) (refuses : Refusals)
    (hdue : ∀ key, (e.held key).due (.stale now) = none) : e.sweep refuses now = (e, .ok 0) := by
  have hcounted : e.sweep refuses now = _ :=
    visitEach_eq refuses (.stale now) e.pool.keys e fun _ hkey ↦ hkey
  rw [hcounted, h.attendAll_of_due_none refuses rfl fun key hkey ↦ ⟨hkey, hdue key⟩]
  rfl

/-- A sweep completes exactly the open candles whose buckets have ended at its clock, and it returns
their number. Each of them is saved once, with its values, under its own key; no other aggregator
changes, no count of dropped ticks does, and nothing else is stored. Afterwards every open bucket
ends after the clock, so a sweep with the same or an earlier clock returns zero and changes nothing,
whatever saves would be refused. -/
theorem sweep_completes_expired {e : Engine} (h : e.Reachable) (now : Int) :
    ∃ swept saved,
      e.sweep .none now = (swept, .ok (e.expired now).length) ∧
      ((e.expired now).map Prod.fst).Nodup ∧
      (swept.intervals = e.intervals ∧ swept.pool.keys = e.pool.keys ∧
        ∀ key a, e.pool.get? key = some a → swept.pool.get? key =
          some (if key ∈ (e.expired now).map Prod.fst then { a with current := none } else a)) ∧
      (List.Forall₂ Completes saved (e.expired now) ∧ swept.store = storeLog e.store saved) ∧
      (∀ opened ∈ e.expired now, ∃ candle,
        swept.store.get? (storageKey opened) = some candle ∧ opened.2.ClosesTo candle) ∧
      (∀ found, found ∉ (e.expired now).map storageKey →
        swept.store.get? found = e.store.get? found) ∧
      (∀ key a c, swept.pool.get? key = some a → a.current = some c →
        now < c.bucketStart + key.2.seconds) ∧
      ∀ refuses, ∀ earlier ≤ now, swept.sweep refuses earlier = (swept, .ok 0) := by
  have hsound := h.sound
  set swept := (e.perform .none (.sweep now)).1 with hswept
  have hnext : swept.Sound := hsound.perform .none (.sweep now)
  have hsaved : List.Forall₂ Completes (e.saves .none (.sweep now)) (e.expired now) := by
    rw [hsound.expired_eq]
    exact hsound.saved_attendAll rfl e.pool.nodup
  have hstore : swept.store = storeLog e.store (e.saves .none (.sweep now)) := by
    rw [hswept, engine_perform, store_attendAll]
    rfl
  have hidle : ∀ key, (swept.held key).due (.stale now) = none := by
    intro key
    rw [hswept, (hsound.perform_round rfl key).2]
    exact Aggregator.due_settled _ _
  refine ⟨swept, e.saves .none (.sweep now), ?_, nodup_map_fst_expired e now, ⟨?_, ?_, ?_⟩,
    ⟨hsaved, hstore⟩, ?_, ?_, ?_, ?_⟩
  · rw [hsound.sweep_eq, hsaved.length_eq]
  · exact intervals_perform .none e (.sweep now)
  · exact keys_sweep .none e now
  · intro key a ha
    rw [hswept, hsound.get?_pool_sweep, ha, Option.map_some, hsound.settled_eq ha]
  · rintro ⟨key, c⟩ hmem
    obtain ⟨a, ha, _⟩ := mem_expired_iff.mp hmem
    have hdue := (hsound.due_stale_eq_some_iff ha).mpr hmem
    obtain ⟨_, rfl⟩ := get?_eq_some_iff.mp ha
    exact hsound.get?_store_round (rfl : (Call.sweep now).round? = some (.stale now)) hdue
  · intro found hfound
    rw [hstore]
    apply get?_storeLog_of_forall_ne
    intro entry hentry heq
    obtain ⟨opened, hopened, hcompletes⟩ := Aggregator.Trace.exists_mem_of_forall₂ hsaved hentry
    apply hfound
    rw [← heq, hcompletes.keyOf_eq]
    exact List.mem_map_of_mem hopened
  · intro key a c ha hcurrent
    have hnot : (key, c) ∉ swept.expired now := by
      intro hmem
      have hdue := (hnext.due_stale_eq_some_iff ha).mpr hmem
      obtain ⟨_, rfl⟩ := get?_eq_some_iff.mp ha
      rw [hidle] at hdue
      cases hdue
    by_contra hended
    exact hnot (mem_expired_iff.mpr ⟨a, ha, hcurrent, Int.not_lt.mp hended⟩)
  · intro refuses earlier hearlier
    exact hnext.sweep_of_due_none refuses fun key ↦
      Aggregator.due_stale_eq_none (hidle key) hearlier

/-- Two symbols; the minute of the first one should have been completed, but that was refused. -/
def overdue : Engine :=
  (fresh [.oneMinute, .fiveMinutes]).run (· == 1)
    [.ingest (.whole "A" 81 83 10400 (by decide +kernel)),
      .ingest (.whole "A" 85 87 61000 (by decide +kernel)),
      .ingest (.whole "B" 27 29 60500 (by decide +kernel))]

/-- The minute of the second symbol ends at 120, and not a second earlier. -/
theorem sweep_completes_expired_overdue :
    overdue.Reachable ∧ (overdue.sweep .none 119).2 = .ok 1 ∧
      ∃ swept, overdue.sweep .none 120 = (swept, .ok 2) ∧
        (∃ candle, swept.store.get? ⟨"B", "1m", 60⟩ = some candle) ∧
        swept.sweep (fun _ ↦ true) 119 = (swept, .ok 0) := by
  have hreachable : overdue.Reachable := (Reachable.fresh _).run _ _
  have hearly : (overdue.expired 119).length = 1 := by decide +kernel
  have hlate : (overdue.expired 120).map storageKey = [⟨"A", "1m", 0⟩, ⟨"B", "1m", 60⟩] := by
    decide +kernel
  have hcount : (overdue.expired 120).length = 2 := by
    rw [← List.length_map storageKey, hlate]
    rfl
  obtain ⟨_, _, hbefore, _⟩ := sweep_completes_expired hreachable 119
  obtain ⟨swept, _, hafter, _, _, _, hstored, _, _, hidle⟩ :=
    sweep_completes_expired hreachable 120
  rw [hearly] at hbefore
  rw [hcount] at hafter
  have hmem : ⟨"B", "1m", 60⟩ ∈ (overdue.expired 120).map storageKey := by
    rw [hlate]
    exact List.mem_cons_of_mem _ List.mem_cons_self
  obtain ⟨opened, hopened, hkey⟩ := List.mem_map.mp hmem
  obtain ⟨candle, hfound, _⟩ := hstored opened hopened
  exact ⟨hreachable, congrArg Prod.snd hbefore, swept, hafter, ⟨candle, hkey ▸ hfound⟩,
    hidle _ 119 (by decide)⟩

end Engine

end Candlestick

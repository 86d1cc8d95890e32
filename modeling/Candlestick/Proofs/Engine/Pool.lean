import Candlestick.Proofs.Engine.Acceptance
import Candlestick.Proofs.Engine.Symbols

/-!
# The pool of aggregators

A symbol comes into the pool with its first tick, and with it the aggregators of all listed
intervals. They come into being one by one, but nothing can stop the call in between: an aggregator
that has seen no other tick than this one has nothing to hand over, so no save is tried that could
be refused (`fault_ingest_of_new`). A later tick of the symbol creates nothing. So after every call,
however it ended, the pool is a rectangle of symbols and intervals (`pool_rectangular`).
-/

namespace Candlestick

namespace Aggregator

/-- From one state an aggregator has got to another, and these are the candles that it has handed
over on the way. -/
def Becomes (a b : Aggregator) (handed : List Candle) : Prop :=
  ∃ asked : List Call, (⟨[], a⟩ : Trace).run asked = .ok ⟨handed, b⟩

/-- Nothing but the bucket of the tick has been opened, so the tick completes nothing. -/
theorem process_of_same_bucket {a : Aggregator} {t : Tick}
    (h : ∀ c ∈ a.current, c.bucketStart = a.interval.bucketStart t.second) :
    ∃ c, c.bucketStart = a.interval.bucketStart t.second ∧
      a.process t = .ok ⟨none, { a with current := some c }⟩ := by
  cases hcurrent : a.current with
  | none =>
      refine ⟨.start (a.interval.bucketStart t.second) t.mid, rfl, ?_⟩
      simp [process, hcurrent, quietly]
  | some c =>
      have hbucket := h c hcurrent
      refine ⟨c.add t.mid, hbucket, ?_⟩
      simp [process, hcurrent, hbucket, quietly]

end Aggregator

namespace Engine

variable {refuses : Refusals} {e : Engine} {t : Tick}

/-! ## The first tick of a symbol -/

/-- The aggregators of a tick's symbol have been given no tick of another bucket than its own. -/
def Awaits (e : Engine) (t : Tick) : Prop :=
  ∀ i : Interval, (e.held (t.symbol, i)).interval = i ∧
    ∀ c ∈ (e.held (t.symbol, i)).current, c.bucketStart = i.bucketStart t.second

theorem awaits_of_new (hnew : ∀ i, (t.symbol, i) ∉ e.pool.keys) : e.Awaits t := by
  intro i
  rw [held_eq_fresh (hnew i)]
  refine ⟨rfl, ?_⟩
  intro c hc
  cases hc

theorem Awaits.attend (h : e.Awaits t) (refuses : Refusals) (i : Interval) :
    (e.attend refuses ⟨(t.symbol, i), .process t⟩).2 = .ok none ∧
      (e.attend refuses ⟨(t.symbol, i), .process t⟩).1.Awaits t := by
  obtain ⟨hinterval, hcurrent⟩ := h i
  obtain ⟨c, hbucket, hprocess⟩ :=
    Aggregator.process_of_same_bucket (a := e.held (t.symbol, i)) (t := t) (by rwa [hinterval])
  have hattend : e.attend refuses ⟨(t.symbol, i), .process t⟩ = _ := attend_quiet hprocess
  rw [hattend]
  refine ⟨rfl, ?_⟩
  intro j
  rw [held_put, held_ensure]
  split
  · next hkey =>
      obtain rfl : i = j := (Prod.mk.inj hkey).2
      refine ⟨hinterval, ?_⟩
      rintro _ ⟨⟩
      rw [hbucket, hinterval]
  · exact h j

/-- A tick that waits for nothing but its own candles meets no fault, whatever is refused. -/
theorem Awaits.fault_attendAll (h : e.Awaits t) (refuses : Refusals) (intervals : List Interval) :
    (attendAll refuses (intervals.map fun i ↦ ⟨(t.symbol, i), .process t⟩) e).fault? = none := by
  induction intervals generalizing e with
  | nil => rfl
  | cons i rest ih =>
      obtain ⟨hresult, hreached⟩ := h.attend refuses i
      have hattend : e.attend refuses ⟨(t.symbol, i), .process t⟩ =
          ((e.attend refuses ⟨(t.symbol, i), .process t⟩).1, .ok none) := Prod.ext rfl hresult
      rw [List.map_cons, attendAll_cons_ok hattend]
      exact ih hreached

/-- No save can be refused while a symbol is registered, for none is tried. -/
theorem fault_ingest_of_new (hnew : ∀ i, (t.symbol, i) ∉ e.pool.keys) (refuses : Refusals) :
    (attendAll refuses (e.visits (.ingest t)) e).fault? = none :=
  (awaits_of_new hnew).fault_attendAll refuses e.intervals

/-! ## Keys -/

/-- A visit leaves the keys as they are, or it adds the one that it goes to. -/
theorem keys_attend (refuses : Refusals) (e : Engine) (v : Visit) :
    (e.attend refuses v).1.pool.keys =
      if v.key ∈ e.pool.keys then e.pool.keys else e.pool.keys ++ [v.key] := by
  by_cases hkey : v.key ∈ e.pool.keys
  · rw [if_pos hkey]
    exact keys_attend_of_mem hkey
  · have hself : v.key ∈ (e.ensure v.key).pool.keys := (mem_keys_ensure e v.key _).mpr (Or.inl rfl)
    -- A visit begins by bringing the aggregator into being, and that can be done ahead of it.
    have hagain : e.attend refuses v = (e.ensure v.key).attend refuses v := by
      rw [attend, attend, ensure_of_mem _ _ hself]
    rw [if_neg hkey, hagain, keys_attend_of_mem hself, ensure, Keyed.get?_eq_none_iff.mpr hkey]
    exact (Keyed.keys_put _ _ _).trans (if_neg hkey)

theorem keys_prefix_run (refuses : Refusals) (e : Engine) (calls : List Call) :
    e.pool.keys <+: (e.run refuses calls).pool.keys := by
  refine run_invariant (motive := fun reached ↦ e.pool.keys <+: reached.pool.keys) ?_ calls
    (List.prefix_refl _)
  intro reached v h
  rw [keys_attend]
  split
  · exact h
  · exact h.trans (List.prefix_append _ _)

/-- Visits to aggregators that exist create none, wherever they are cut short. -/
theorem keys_attendAll_of_mem {visits : List Visit} (h : ∀ v ∈ visits, v.key ∈ e.pool.keys) :
    (attendAll refuses visits e).engine.pool.keys = e.pool.keys := by
  refine attendAll_invariant (motive := fun reached ↦ reached.pool.keys = e.pool.keys) ?_ rfl
  intro v hv reached hreached
  have hkey : v.key ∈ reached.pool.keys := hreached ▸ h v hv
  rw [keys_attend_of_mem hkey, hreached]

/-! ## Rectangles -/

/-- There is one aggregator for each registered symbol and each listed interval. -/
def Rectangular (registered : String → Prop) (e : Engine) : Prop :=
  ∀ key : String × Interval, key ∈ e.pool.keys ↔ registered key.1 ∧ key.2 ∈ e.intervals

variable {registered : String → Prop}

theorem rectangular_fresh (intervals : List Interval) :
    (fresh intervals).Rectangular fun _ ↦ False :=
  fun _ ↦ iff_of_false List.not_mem_nil fun h ↦ h.1

theorem Rectangular.perform (h : e.Rectangular registered) (refuses : Refusals) (call : Call) :
    (e.perform refuses call).1.Rectangular fun s ↦
      registered s ∨ ∃ t, call.tick? = some t ∧ t.symbol = s := by
  intro key
  rw [intervals_perform, engine_perform]
  cases hcall : call.tick? with
  | none =>
      have hvisits : ∀ v ∈ e.visits call, v.key ∈ e.pool.keys := by
        intro v hv
        have hkey := (mem_visits_or_mem_keys_iff e v.key call).mp (Or.inl (List.mem_map_of_mem hv))
        apply hkey.resolve_left
        intro hcreates
        cases call <;> cases hcall <;> cases hcreates
      rw [keys_attendAll_of_mem hvisits, h key]
      simp
  | some t =>
      obtain rfl := eq_ingest_of_tick? hcall
      by_cases hknown : registered t.symbol
      · -- All aggregators of the symbol exist, so it does not matter where the call is cut short.
        have hvisits : ∀ v ∈ e.visits (.ingest t), v.key ∈ e.pool.keys := by
          intro v hv
          obtain ⟨i, hi, rfl⟩ := List.mem_map.mp hv
          exact (h (t.symbol, i)).mpr ⟨hknown, hi⟩
        rw [keys_attendAll_of_mem hvisits, h key]
        constructor
        · rintro ⟨hregistered, hlisted⟩
          exact ⟨Or.inl hregistered, hlisted⟩
        · rintro ⟨hregistered | ⟨u, ⟨⟩, hsymbol⟩, hlisted⟩
          · exact ⟨hregistered, hlisted⟩
          · exact ⟨hsymbol ▸ hknown, hlisted⟩
      · have hnew : ∀ i, (t.symbol, i) ∉ e.pool.keys := fun i hi ↦ hknown ((h _).mp hi).1
        rw [mem_keys_attendAll _ (fault_ingest_of_new hnew refuses), mem_visits_or_mem_keys_iff,
          h key]
        simp only [Call.creates, decide_eq_true_eq, Option.some.injEq, exists_eq_left']
        tauto

theorem Rectangular.of_iff {others : String → Prop} (h : e.Rectangular registered)
    (hothers : ∀ s, registered s ↔ others s) : e.Rectangular others :=
  fun key ↦ (h key).trans (and_congr_left fun _ ↦ hothers key.1)

theorem Rectangular.run (h : e.Rectangular registered) (refuses : Refusals) (calls : List Call) :
    (e.run refuses calls).Rectangular fun s ↦
      registered s ∨ ∃ t ∈ calls.filterMap Call.tick?, t.symbol = s := by
  induction calls generalizing e registered with
  | nil =>
      apply h.of_iff
      intro s
      simp
  | cons call rest ih =>
      apply (ih (h.perform refuses call)).of_iff
      intro s
      cases hcall : call.tick? <;> simp [hcall, or_assoc]

theorem intervals_run (refuses : Refusals) (e : Engine) (calls : List Call) :
    (e.run refuses calls).intervals = e.intervals := by
  refine run_invariant (motive := fun reached ↦ reached.intervals = e.intervals) ?_ calls rfl
  intro reached v h
  exact (intervals_attend refuses reached v).trans h

/-- The pool after a run: the symbols of all ticks, each with every listed interval. -/
theorem mem_keys_run_fresh_iff (intervals : List Interval) (refuses : Refusals)
    (calls : List Call) (key : String × Interval) :
    key ∈ ((fresh intervals).run refuses calls).pool.keys ↔
      key.1 ∈ (calls.filterMap Call.tick?).map Tick.symbol ∧ key.2 ∈ intervals := by
  have hrect := (rectangular_fresh intervals).run refuses calls key
  simp only [intervals_run, false_or] at hrect
  rw [hrect, List.mem_map]
  rfl

theorem mem_activeSymbols_iff {s : String} :
    s ∈ e.activeSymbols ↔ ∃ i, (s, i) ∈ e.pool.keys := by
  rw [activeSymbols, Text.mem_distinctAscending, List.mem_map]
  constructor
  · rintro ⟨⟨_, i⟩, hkey, rfl⟩
    exact ⟨i, hkey⟩
  · rintro ⟨i, hkey⟩
    exact ⟨(s, i), hkey, rfl⟩

theorem Rectangular.aggregatorCount_eq (h : e.Rectangular registered) :
    e.aggregatorCount = e.activeSymbols.length * e.intervals.dedup.length := by
  have hsymbols : e.activeSymbols.Nodup :=
    (Text.pairwise_distinctAscending _).imp fun hlt ↦ ne_of_lt hlt
  have hsides : (e.activeSymbols ×ˢ e.intervals.dedup).Nodup :=
    hsymbols.product e.intervals.nodup_dedup
  have hperm : e.pool.keys.Perm (e.activeSymbols ×ˢ e.intervals.dedup) := by
    apply (List.perm_ext_iff_of_nodup e.pool.nodup hsides).mpr
    rintro ⟨s, i⟩
    change (s, i) ∈ e.pool.keys ↔ (s, i) ∈ List.product _ _
    rw [List.pair_mem_product, List.mem_dedup, mem_activeSymbols_iff]
    constructor
    · intro hkey
      exact ⟨⟨i, hkey⟩, ((h _).mp hkey).2⟩
    · rintro ⟨⟨j, hkey⟩, hlisted⟩
      exact (h _).mpr ⟨((h _).mp hkey).1, hlisted⟩
  calc
    e.aggregatorCount = e.pool.keys.length := (List.length_map _).symm
    _ = (e.activeSymbols ×ˢ e.intervals.dedup).length := hperm.length_eq
    _ = e.activeSymbols.length * e.intervals.dedup.length := List.length_product _ _

/-! ## Aggregators and what they store -/

theorem get?_eq_some_iff {key : String × Interval} {a : Aggregator} :
    e.pool.get? key = some a ↔ key ∈ e.pool.keys ∧ a = e.held key := by
  have hlookup : e.pool.get? key = if key ∈ e.pool.keys then some (e.held key) else none :=
    aggregator?_eq_ite e key
  rw [hlookup]
  split
  · next hkey => simp [hkey, eq_comm]
  · next hkey => simp [hkey]

/-- An aggregator goes on from where it was, it is never put in place of another. -/
theorem Sound.becomes_run (h : e.Sound) (refuses : Refusals) (calls : List Call)
    (key : String × Interval) :
    (e.held key).Becomes ((e.run refuses calls).held key)
      (savedAt key (log refuses e calls)) := by
  have hstate : (⟨[], e.held key⟩ : Aggregator.Trace).state = e.held key := rfl
  exact ⟨_, h.trace_carriedOutIn refuses hstate calls⟩

theorem Sound.interval_held (h : e.Sound) (key : String × Interval) :
    (e.held key).interval = key.2 := by
  obtain ⟨past, hholds⟩ := h key
  exact hholds.interval_eq

/-- Every stored candle is under the key of an aggregator. -/
theorem exists_key_of_mem_store (intervals : List Interval) (refuses : Refusals)
    (calls : List Call) : ∀ found ∈ ((fresh intervals).run refuses calls).store.candles.keys,
      ∃ key ∈ ((fresh intervals).run refuses calls).pool.keys,
        found.symbol = key.1 ∧ found.label = key.2.label := by
  refine run_invariant (motive := fun reached ↦ ∀ found ∈ reached.store.candles.keys,
    ∃ key ∈ reached.pool.keys, found.symbol = key.1 ∧ found.label = key.2.label) ?_ calls
    fun _ hfound ↦ nomatch hfound
  intro reached v h found hfound
  have hold : found ∈ reached.store.candles.keys →
      ∃ key ∈ (reached.attend refuses v).1.pool.keys,
        found.symbol = key.1 ∧ found.label = key.2.label := by
    intro hmem
    obtain ⟨key, hkey, hnames⟩ := h found hmem
    exact ⟨key, (mem_keys_attend refuses reached v key).mpr (Or.inr hkey), hnames⟩
  rcases store_attend_cases refuses reached v with hstore | ⟨candle, hstore⟩
  · rw [hstore] at hfound
    exact hold hfound
  · rw [hstore] at hfound
    rcases Keyed.mem_keys_put.mp hfound with rfl | hmem
    · exact ⟨v.key, (mem_keys_attend refuses reached v v.key).mpr (Or.inl rfl), rfl, rfl⟩
    · exact hold hmem

/-- After every call of a run, whether it returned or not, there is one aggregator for each symbol
that a tick has come in for and each listed interval, and there is no other. Each of them is of the
interval of its key, it is what has become of the one that was created there, and what it has
handed over is all that is stored under its symbol and label. Later calls take none of them away
and put no other in its place. -/
theorem pool_rectangular (intervals : List Interval) (refuses : Refusals) (calls : List Call) :
    let e := (fresh intervals).run refuses calls
    let symbols := (calls.filterMap Call.tick?).map Tick.symbol
    (e.pool.keys.Nodup ∧
      ∀ key, key ∈ e.pool.keys ↔ key.1 ∈ symbols ∧ key.2 ∈ intervals) ∧
    (∀ key a, e.pool.get? key = some a → a.interval = key.2 ∧
      ∃ handed, (Aggregator.fresh key.2).Becomes a handed ∧
        e.store.only key.1 key.2.label = Store.saveAll key.1 key.2.label .empty handed) ∧
    (∀ found ∈ e.store.candles.keys, ∃ key ∈ e.pool.keys,
      found.symbol = key.1 ∧ found.label = key.2.label) ∧
    (∀ (others : Refusals) (later : List Call),
      e.pool.keys <+: (e.run others later).pool.keys ∧
      ∀ key a, e.pool.get? key = some a → ∃ b handed,
        (e.run others later).pool.get? key = some b ∧ a.Becomes b handed) ∧
    e.aggregatorCount = e.activeSymbols.length * intervals.dedup.length ∧
    e.activeSymbols.Pairwise (· < ·) ∧
    ∀ s, s ∈ e.activeSymbols ↔ s ∈ symbols ∧ intervals ≠ [] := by
  intro e symbols
  have hsound : e.Sound := (sound_fresh intervals).run refuses calls
  have hkeys : ∀ key : String × Interval, key ∈ e.pool.keys ↔ key.1 ∈ symbols ∧ key.2 ∈ intervals :=
    mem_keys_run_fresh_iff intervals refuses calls
  have hintervals : e.intervals = intervals := intervals_run refuses _ calls
  refine ⟨⟨e.pool.nodup, hkeys⟩, ?_, exists_key_of_mem_store intervals refuses calls, ?_, ?_,
    Text.pairwise_distinctAscending _, ?_⟩
  · intro key a ha
    obtain ⟨_, rfl⟩ := get?_eq_some_iff.mp ha
    refine ⟨hsound.interval_held key, _,
      (sound_fresh intervals).becomes_run refuses calls key, ?_⟩
    rw [store_run, only_storeLog]
    rfl
  · intro others later
    refine ⟨keys_prefix_run others e later, ?_⟩
    intro key a ha
    obtain ⟨hkey, rfl⟩ := get?_eq_some_iff.mp ha
    have hstays : key ∈ (e.run others later).pool.keys :=
      (keys_prefix_run others e later).subset hkey
    exact ⟨_, _, get?_eq_some_iff.mpr ⟨hstays, rfl⟩, hsound.becomes_run others later key⟩
  · have hrect : e.Rectangular (· ∈ symbols) := by
      intro key
      rw [hintervals]
      exact hkeys key
    rw [hrect.aggregatorCount_eq, hintervals]
  · intro s
    rw [mem_activeSymbols_iff]
    constructor
    · rintro ⟨i, hkey⟩
      obtain ⟨hsymbol, hlisted⟩ := (hkeys _).mp hkey
      exact ⟨hsymbol, List.ne_nil_of_mem hlisted⟩
    · rintro ⟨hsymbol, hnonempty⟩
      obtain ⟨i, hlisted⟩ := List.exists_mem_of_ne_nil _ hnonempty
      exact ⟨i, (hkeys _).mpr ⟨hsymbol, hlisted⟩⟩

end Engine

end Candlestick

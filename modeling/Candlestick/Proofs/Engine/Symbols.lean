import Candlestick.Proofs.Engine.Projection
import Candlestick.Proofs.Keyed.Restriction
import Candlestick.Proofs.Store.Query

/-!
# Where symbols come from

An engine learns symbols from ticks alone: what its aggregators and its stored candles are called
has come in with a tick (`Knows.run`). So whatever holds of the symbols of all ticks holds of all
symbols that an engine has candles for. Runs without refused saves are put together by `LeadsTo`.
-/

namespace Candlestick

namespace Engine

variable {known : String → Prop} {refuses : Refusals} {e : Engine}

/-- The symbols of all aggregators and of all stored candles are among the known ones. -/
structure Knows (known : String → Prop) (e : Engine) : Prop where
  pool : ∀ key ∈ e.pool.keys, known key.1
  store : ∀ key ∈ e.store.candles.keys, known key.symbol

theorem knows_fresh (known : String → Prop) (intervals : List Interval) :
    (fresh intervals).Knows known := by
  constructor
  · intro key hkey
    cases hkey
  · intro key hkey
    cases hkey

theorem mem_keys_save {s : Store} {symbol label : String} {candle : Candle} {key : CandleKey}
    (h : key ∈ (s.save symbol label candle).candles.keys) :
    key ∈ s.candles.keys ∨ key.symbol = symbol := by
  rcases Keyed.mem_keys_put.mp h with rfl | hold
  · exact Or.inr rfl
  · exact Or.inl hold

theorem store_attend_cases (refuses : Refusals) (e : Engine) (v : Visit) :
    (e.attend refuses v).1.store = e.store ∨
      ∃ candle, (e.attend refuses v).1.store = e.store.save v.key.1 v.key.2.label candle := by
  rcases attend_cases refuses e v with ⟨fault, _, h⟩ | ⟨next, _, h⟩ | ⟨candle, next, _, _, h⟩ |
    ⟨candle, next, _, _, h⟩
  · exact Or.inl (by rw [h, store_ensure])
  · exact Or.inl (by rw [h]; exact store_ensure e v.key)
  · exact Or.inl (by rw [h]; exact store_ensure e v.key)
  · exact Or.inr ⟨candle, by rw [h]⟩

theorem Knows.attend (h : e.Knows known) (refuses : Refusals) {v : Visit} (hv : known v.key.1) :
    (e.attend refuses v).1.Knows known := by
  constructor
  · intro key hkey
    rcases (mem_keys_attend refuses e v key).mp hkey with rfl | hold
    · exact hv
    · exact h.pool key hold
  · intro key hkey
    rcases store_attend_cases refuses e v with hstore | ⟨candle, hstore⟩
    · rw [hstore] at hkey
      exact h.store key hkey
    · rw [hstore] at hkey
      rcases mem_keys_save hkey with hold | hsymbol
      · exact h.store key hold
      · rw [hsymbol]
        exact hv

theorem Knows.perform (h : e.Knows known) (refuses : Refusals) {call : Call}
    (hcall : ∀ t, call.tick? = some t → known t.symbol) :
    (e.perform refuses call).1.Knows known := by
  have hvisits : ∀ v ∈ e.visits call, known v.key.1 := by
    intro v hv
    have hkey : v.key ∈ (e.visits call).map Visit.key := List.mem_map_of_mem hv
    rcases (mem_visits_or_mem_keys_iff e v.key call).mp (Or.inl hkey) with hcreates | hold
    · cases call with
      | ingest t =>
          obtain ⟨hsymbol, _⟩ := of_decide_eq_true hcreates
          rw [← hsymbol]
          exact hcall t rfl
      | sweep now => cases hcreates
      | shutdown => cases hcreates
      | flush key => cases hcreates
      | flushStale key now => cases hcreates
    · exact h.pool v.key hold
  rw [engine_perform]
  exact attendAll_invariant (fun v hv _ hknows ↦ hknows.attend refuses (hvisits v hv)) h

theorem Knows.run (h : e.Knows known) (refuses : Refusals) {calls : List Call}
    (hcalls : ∀ t ∈ calls.filterMap Call.tick?, known t.symbol) :
    (e.run refuses calls).Knows known := by
  induction calls generalizing e with
  | nil => exact h
  | cons call rest ih =>
      rw [run_cons]
      refine ih (h.perform refuses fun t ht ↦ hcalls t ?_) fun t ht ↦ hcalls t ?_
      · exact List.mem_filterMap.mpr ⟨call, List.mem_cons_self, ht⟩
      · obtain ⟨other, hother, htick⟩ := List.mem_filterMap.mp ht
        exact List.mem_filterMap.mpr ⟨other, List.mem_cons_of_mem call hother, htick⟩

/-! ## Putting runs together -/

/-- Calls by which an engine gets from one state to another, all of whose ticks are admitted and
none of whose saves are refused. -/
def LeadsTo (admits : Tick → Prop) (e reached : Engine) : Prop :=
  ∃ calls, reached = e.run .none calls ∧ ∀ t ∈ calls.filterMap Call.tick?, admits t

namespace LeadsTo

variable {admits : Tick → Prop} {middle reached : Engine}

theorem refl (admits : Tick → Prop) (e : Engine) : LeadsTo admits e e :=
  ⟨[], rfl, fun _ ht ↦ nomatch ht⟩

theorem mono {others : Tick → Prop} (h : LeadsTo admits e reached)
    (hadmits : ∀ t, admits t → others t) : LeadsTo others e reached := by
  obtain ⟨calls, hreached, hcalls⟩ := h
  exact ⟨calls, hreached, fun t ht ↦ hadmits t (hcalls t ht)⟩

theorem trans (h : LeadsTo admits e middle) (hlater : LeadsTo admits middle reached) :
    LeadsTo admits e reached := by
  obtain ⟨calls, rfl, hcalls⟩ := h
  obtain ⟨later, rfl, hadmits⟩ := hlater
  refine ⟨calls ++ later, List.foldl_append.symm, ?_⟩
  intro t ht
  rw [List.filterMap_append, List.mem_append] at ht
  exact ht.elim (hcalls t) (hadmits t)

theorem perform (call : Call) (hcall : ∀ t, call.tick? = some t → admits t) (e : Engine) :
    LeadsTo admits e (e.perform .none call).1 := by
  refine ⟨[call], rfl, ?_⟩
  intro t ht
  obtain ⟨other, hother, htick⟩ := List.mem_filterMap.mp ht
  rw [List.mem_singleton.mp hother] at htick
  exact hcall t htick

theorem ingest {t : Tick} (ht : admits t) (e : Engine) :
    LeadsTo admits e (e.ingest .none t).1 := by
  refine perform (.ingest t) ?_ e
  rintro _ ⟨⟩
  exact ht

theorem sweep (admits : Tick → Prop) (e : Engine) (now : Int) :
    LeadsTo admits e (e.sweep .none now).1 :=
  perform (.sweep now) (fun _ ht ↦ nomatch ht) e

theorem shutdown (admits : Tick → Prop) (e : Engine) :
    LeadsTo admits e (e.shutdown .none).1 :=
  perform .shutdown (fun _ ht ↦ nomatch ht) e

end LeadsTo

end Engine

end Candlestick

import Candlestick.Proofs.Aggregator.Simulation
import Candlestick.Proofs.Engine.Visit

/-!
# Aggregators of an engine

A visit that ends with a fault leaves every aggregator as it was, and any other puts the answer in
the place of the one that was visited (`held_attend`). The aggregators of an engine always hold
blocks, so none of them can be asked for a candle that breaks a rule: only a refused save can end
a call (`Sound.refused_of_error`).
-/

namespace Candlestick.Engine

/-- Every aggregator holds the unfinished block of some past. -/
def Sound (e : Engine) : Prop :=
  ∀ key, ∃ past : Segmentation key.2, (e.held key).Holds past.unfinished

theorem sound_fresh (intervals : List Interval) : (fresh intervals).Sound :=
  fun key ↦ ⟨.empty, Aggregator.holds_fresh key.2⟩

/-! ## What a visit leaves behind -/

section Held

variable {refuses : Refusals} {e : Engine} {v : Visit}

theorem held_ensure (e : Engine) (key query : String × Interval) :
    (e.ensure key).held query = e.held query := by
  rw [held, get?_ensure]
  split
  · next heq =>
      subst heq
      rfl
  · rfl

theorem held_put (e : Engine) (key query : String × Interval) (a : Aggregator) (s : Store)
    (attempts : Nat) :
    held ⟨e.intervals, e.pool.put key a, s, attempts⟩ query =
      if key = query then a else e.held query := by
  rw [held, Keyed.get?_put]
  split <;> rfl

theorem held_eq_fresh {key : String × Interval} (h : key ∉ e.pool.keys) :
    e.held key = .fresh key.2 := by
  rw [held, Keyed.get?_eq_none_iff.mpr h]
  rfl

/-- A visit that ends with a fault changes no aggregator; any other puts the answer at its key. -/
theorem held_attend (refuses : Refusals) (e : Engine) (v : Visit) :
    (∃ fault, (e.attend refuses v).2 = .error fault ∧
      ∀ key, (e.attend refuses v).1.held key = e.held key) ∨
    (∃ move, (e.held v.key).answer v.call = .ok move ∧
      (e.attend refuses v).2 = .ok move.completed ∧
      ∀ key, (e.attend refuses v).1.held key = if v.key = key then move.next else e.held key) := by
  rcases attend_cases refuses e v with ⟨fault, _, h⟩ | ⟨next, hanswer, h⟩ |
    ⟨candle, next, _, _, h⟩ | ⟨candle, next, hanswer, _, h⟩
  · rw [h]
    exact Or.inl ⟨_, rfl, held_ensure e v.key⟩
  · rw [h]
    refine Or.inr ⟨_, hanswer, rfl, ?_⟩
    intro key
    rw [held_put, held_ensure]
  · rw [h]
    exact Or.inl ⟨_, rfl, held_ensure e v.key⟩
  · rw [h]
    refine Or.inr ⟨_, hanswer, rfl, ?_⟩
    intro key
    rw [← held_ensure e v.key key]
    exact held_put _ v.key key next _ _

theorem Sound.attend (h : e.Sound) (refuses : Refusals) (v : Visit) :
    (e.attend refuses v).1.Sound := by
  intro key
  rcases held_attend refuses e v with ⟨_, _, hsame⟩ | ⟨move, hanswer, _, hheld⟩
  · rw [hsame key]
    exact h key
  · rw [hheld key]
    split
    · next heq =>
        subst heq
        obtain ⟨past, hholds⟩ := h v.key
        obtain ⟨move', hanswer', hanswers⟩ := Aggregator.answer_of_holds hholds v.call
        rw [hanswer] at hanswer'
        cases hanswer'
        exact ⟨_, hanswers.holds⟩
    · exact h key

/-- In a sound engine only a refused save can end a call. -/
theorem Sound.refused_of_error (h : e.Sound) {fault : Fault}
    (herror : (e.attend refuses v).2 = .error fault) :
    fault = .saveRefused ∧ refuses (e.attempts + 1) = true := by
  rcases attend_cases refuses e v with ⟨_, hinvalid, _⟩ | ⟨_, _, hattend⟩ |
    ⟨_, _, _, hrefused, hattend⟩ | ⟨_, _, _, _, hattend⟩
  · obtain ⟨past, hholds⟩ := h v.key
    obtain ⟨move, hanswer, _⟩ := Aggregator.answer_of_holds hholds v.call
    rw [hanswer] at hinvalid
    cases hinvalid
  · rw [hattend] at herror
    cases herror
  · rw [hattend] at herror
    cases herror
    exact ⟨rfl, hrefused⟩
  · rw [hattend] at herror
    cases herror

/-- If every save is taken, a visit to a sound engine carries the answer out. -/
theorem Sound.attend_none (h : e.Sound) (v : Visit) :
    ∃ move, (e.held v.key).answer v.call = .ok move ∧
      (e.attend .none v).2 = .ok move.completed ∧
      ∀ key, (e.attend .none v).1.held key = if v.key = key then move.next else e.held key := by
  rcases held_attend .none e v with ⟨fault, herror, _⟩ | hcarried
  · have hrefused := (h.refused_of_error herror).2
    cases hrefused
  · exact hcarried

theorem aggregator?_eq_ite (e : Engine) (key : String × Interval) :
    e.aggregator? key.1 key.2 = if key ∈ e.pool.keys then some (e.held key) else none := by
  split
  · next h =>
      obtain ⟨a, ha⟩ := Keyed.mem_keys_iff.mp h
      rw [held, ha]
      exact ha
  · next h => exact Keyed.get?_eq_none_iff.mpr h

end Held

/-! ## Rows of visits and runs -/

section Rows

variable {e : Engine}

/-- Aggregators that have been visited exist. -/
theorem mem_keys_attendAll {refuses : Refusals} (visits : List Visit)
    (h : (attendAll refuses visits e).fault? = none) (key : String × Interval) :
    key ∈ (attendAll refuses visits e).engine.pool.keys ↔
      key ∈ visits.map Visit.key ∨ key ∈ e.pool.keys := by
  induction visits generalizing e with
  | nil => simp [attendAll]
  | cons v rest ih =>
      have hkeys := mem_keys_attend refuses e v key
      cases hattend : e.attend refuses v with
      | mk reached result =>
          rw [hattend] at hkeys
          cases result with
          | error fault =>
              rw [attendAll_cons_error hattend] at h
              cases h
          | ok candle =>
              rw [attendAll_cons_ok hattend] at h ⊢
              rw [ih h, hkeys, List.map_cons, List.mem_cons]
              constructor
              · rintro (hrest | hself | hold)
                · exact Or.inl (Or.inr hrest)
                · exact Or.inl (Or.inl hself.symm)
                · exact Or.inr hold
              · rintro ((hself | hrest) | hold)
                · exact Or.inr (Or.inl hself.symm)
                · exact Or.inl hrest
                · exact Or.inr (Or.inr hold)

theorem Sound.attendAll (h : e.Sound) (refuses : Refusals) (visits : List Visit) :
    (attendAll refuses visits e).engine.Sound :=
  attendAll_invariant (fun v _ _ hsound ↦ hsound.attend refuses v) h

theorem Sound.fault_attendAll (h : e.Sound) (visits : List Visit) :
    (Engine.attendAll .none visits e).fault? = none := by
  induction visits generalizing e with
  | nil => rfl
  | cons v rest ih =>
      obtain ⟨move, _, hresult, _⟩ := h.attend_none v
      have hattend : e.attend .none v = ((e.attend .none v).1, .ok move.completed) :=
        Prod.ext rfl hresult
      rw [attendAll_cons_ok hattend]
      exact ih (h.attend .none v)

theorem Sound.perform_returns (h : e.Sound) (call : Call) :
    (e.perform .none call).2 = .ok () := by
  rw [perform_eq_attendAll, Outcome.result, h.fault_attendAll]

theorem Sound.perform (h : e.Sound) (refuses : Refusals) (call : Call) :
    (e.perform refuses call).1.Sound := by
  rw [engine_perform]
  exact h.attendAll refuses _

theorem Sound.run (h : e.Sound) (refuses : Refusals) (calls : List Call) :
    (e.run refuses calls).Sound :=
  run_invariant (fun _ v hsound ↦ hsound.attend refuses v) calls h

end Rows

end Candlestick.Engine

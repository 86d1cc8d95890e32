import Candlestick.Proofs.Bus.Consumption

/-!
# Subscriptions of a consumer

A consumer has the number of its last subscription on the books, and only this one can it give up.
So a start takes the earlier subscription off the books without ending it, and a stop whose request
is turned down does the same. Such a subscription stays live unless a drain ends it together with
its connection; and a client drains its current connection only.

Which calls left something behind is read off their marks (`Starts`); what is live then, and where,
follows from it (`Books.Fits`).
-/

namespace Candlestick

/-- What a call has come to: a subscription was made; the one on the books was given up, and perhaps
the connection drained; it was kept although it was to be given up; or a connection of its own took
the place of the one before. -/
inductive Mark where
  | began
  | ended (drained : Bool)
  | refused
  | renewed
deriving DecidableEq

/-! ## Starts -/

/-- Whether a subscription was made on the current connection. -/
inductive Place where
  | current
  | earlier
deriving DecidableEq

/-- The starts that have not been stopped: where the last one was made, if it is still to be
stopped, and how many others were not stopped before the next start, or could not be. The `lost`
ones were made on the current connection, the `stranded` ones on earlier ones. -/
structure Starts where
  pending : Option Place
  lost : Nat
  stranded : Nat

namespace Starts

/-- The last start will not be stopped any more. -/
def lose (a : Starts) : Starts :=
  match a.pending with
  | none => a
  | some .current => ⟨none, a.lost + 1, a.stranded⟩
  | some .earlier => ⟨none, a.lost, a.stranded + 1⟩

def mark (a : Starts) : Mark → Starts
  | .began => { a.lose with pending := some .current }
  | .ended drained => ⟨none, if drained then 0 else a.lost, a.stranded⟩
  | .refused => a.lose
  | .renewed => ⟨a.pending.map fun _ ↦ .earlier, 0, a.stranded + a.lost⟩

def ofMarks (marks : List Mark) : Starts :=
  marks.foldl mark ⟨none, 0, 0⟩

/-- The starts at a place that have not been stopped, the last one included. -/
def count (a : Starts) : Place → Nat
  | .current => a.lost + if a.pending = some .current then 1 else 0
  | .earlier => a.stranded + if a.pending = some .earlier then 1 else 0

theorem pending_lose (a : Starts) : a.lose.pending = none := by
  obtain ⟨pending, lost, stranded⟩ := a
  rcases pending with _ | _ | _ <;> rfl

theorem count_lose (a : Starts) (place : Place) : a.lose.count place = a.count place := by
  obtain ⟨pending, lost, stranded⟩ := a
  rcases pending with _ | _ | _ <;> cases place <;> rfl

theorem count_eq_add {a : Starts} {made : Place} (h : a.pending = some made) (place : Place) :
    a.count place =
      { a with pending := none }.count place + if made = place then 1 else 0 := by
  obtain ⟨pending, lost, stranded⟩ := a
  obtain rfl : pending = some made := h
  cases made <;> cases place <;> rfl

/-- If a mark is that of a start, then the next one is that of the stop that ends it. -/
def Stops (m next : Mark) : Prop :=
  m = .began → ∃ drained, next = .ended drained

/-- Every start was stopped before the next one. A connection may have been renewed in between. -/
def Settled (marks : List Mark) : Prop :=
  (marks.filter (· ≠ .renewed)).IsChain Stops

/-- No start was left behind. -/
def Clear (a : Starts) : Prop :=
  a.lost = 0 ∧ a.stranded = 0

theorem forall_prefix_cons {α : Type} {p : List α → Prop} {x : α} {rest : List α} :
    (∀ past, past <+: x :: rest → p past) ↔ p [] ∧ ∀ past, past <+: rest → p (x :: past) := by
  constructor
  · intro h
    exact ⟨h [] List.nil_prefix, fun past hpast ↦ h _ ((List.prefix_cons_inj x).mpr hpast)⟩
  · rintro ⟨hnil, hcons⟩ past hpast
    rcases List.prefix_cons_iff.mp hpast with rfl | ⟨shorter, rfl, hshorter⟩
    · exact hnil
    · exact hcons shorter hshorter

theorem clear_foldl_iff (a : Starts) (marks : List Mark) :
    (∀ past, past <+: marks → (past.foldl mark a).Clear) ↔
      a.Clear ∧ (a.pending ≠ none → ∀ next ∈ (marks.filter (· ≠ .renewed)).head?,
        ∃ drained, next = .ended drained) ∧ Settled marks := by
  induction marks generalizing a with
  | nil => simp [Settled]
  | cons m rest ih =>
      rw [forall_prefix_cons]
      simp only [List.foldl_nil, List.foldl_cons, ih]
      obtain ⟨pending, lost, stranded⟩ := a
      cases m with
      | began =>
          rcases pending with _ | _ | _ <;>
            simp [mark, lose, Clear, Settled, List.isChain_cons, Stops]
      | ended drained =>
          rcases pending with _ | _ | _ <;> cases drained <;>
            simp +contextual [mark, Clear, Settled, List.isChain_cons, Stops]
      | refused =>
          rcases pending with _ | _ | _ <;>
            simp [mark, lose, Clear, Settled, List.isChain_cons, Stops]
      | renewed =>
          rcases pending with _ | _ | _ <;> simp +contextual [mark, Clear, Settled]

/-- Every start was stopped before the next one exactly if none was ever left behind. -/
theorem settled_iff (marks : List Mark) :
    Settled marks ↔ ∀ past, past <+: marks → (ofMarks past).Clear := by
  refine ((clear_foldl_iff ⟨none, 0, 0⟩ marks).trans ?_).symm
  simp [Clear]

end Starts

/-! ## Books -/

/-- The subscription on the books, those that are live, the number of those ever made, and how many
of them were made on an earlier connection. -/
structure Books where
  booked : Option Nat
  live : List Nat
  issued : Nat
  earlier : Nat

namespace Books

def empty : Books :=
  ⟨none, [], 0, 0⟩

def giveUp (s : Books) : Books :=
  match s.booked with
  | none => s
  | some number => { s with booked := none, live := s.live.filter (· != number) }

theorem booked_giveUp (s : Books) : s.giveUp.booked = none := by
  unfold giveUp
  split
  · assumption
  · rfl

/-- What was made on the current connection is no longer live. -/
def drain (s : Books) : Books :=
  { s with live := s.live.filter (· ≤ s.earlier) }

def mark (s : Books) : Mark → Books
  | .began =>
    { s with
      booked := some (s.issued + 1)
      live := s.live ++ [s.issued + 1]
      issued := s.issued + 1 }
  | .ended drained => if drained then s.giveUp.drain else s.giveUp
  | .refused => { s with booked := none }
  | .renewed => { s with earlier := s.issued }

def placeOf (s : Books) (number : Nat) : Place :=
  if number ≤ s.earlier then .earlier else .current

theorem placeOf_eq_earlier_iff {s : Books} {number : Nat} :
    s.placeOf number = .earlier ↔ number ≤ s.earlier := by
  unfold placeOf
  split <;> simp_all

theorem placeOf_eq_current_iff {s : Books} {number : Nat} :
    s.placeOf number = .current ↔ ¬ number ≤ s.earlier := by
  unfold placeOf
  split <;> simp_all

def count (s : Books) (place : Place) : Nat :=
  s.live.countP fun number ↦ s.placeOf number = place

theorem length_live (s : Books) : s.live.length = s.count .earlier + s.count .current := by
  rw [List.length_eq_countP_add_countP fun number ↦ decide (s.placeOf number = .earlier)]
  congr 1
  apply List.countP_congr
  intro number _
  simp [placeOf_eq_earlier_iff, placeOf_eq_current_iff]

/-- Only a start makes a subscription live. -/
theorem live_mark_eq_nil {s : Books} (h : s.live = []) {m : Mark} (hm : m ≠ .began) :
    (s.mark m).live = [] := by
  have hgiven : s.giveUp.live = [] := by
    unfold giveUp
    split
    · exact h
    · rw [h]
      rfl
  cases m with
  | began => exact absurd rfl hm
  | ended drained =>
      cases drained with
      | false => exact hgiven
      | true => exact (congrArg _ hgiven).trans rfl
  | refused => exact h
  | renewed => exact h

theorem live_foldl_eq_nil {s : Books} (h : s.live = []) {marks : List Mark}
    (hmarks : .began ∉ marks) : (marks.foldl mark s).live = [] := by
  induction marks generalizing s with
  | nil => exact h
  | cons m rest ih =>
      obtain ⟨hm, hrest⟩ := List.ne_and_not_mem_of_not_mem_cons hmarks
      exact ih (live_mark_eq_nil h hm.symm) hrest

/-- There is a live subscription for each start that has not been stopped, at its place, and no
other. The one on the books is that of the last start. -/
structure Fits (s : Books) (a : Starts) : Prop where
  nodup : s.live.Nodup
  le_issued : ∀ number ∈ s.live, number ≤ s.issued
  earlier_le : s.earlier ≤ s.issued
  booked_live : ∀ number ∈ s.booked, number ∈ s.live
  pending_eq : a.pending = s.booked.map s.placeOf
  count_eq : ∀ place, s.count place = a.count place

theorem fits_empty : empty.Fits ⟨none, 0, 0⟩ := by
  constructor
  case nodup => exact List.nodup_nil
  case le_issued => exact List.forall_mem_nil _
  case earlier_le => exact le_rfl
  case booked_live => rintro _ ⟨⟩
  case pending_eq => rfl
  case count_eq => rintro (_ | _) <;> rfl

variable {s : Books} {a : Starts}

theorem Fits.length_eq (h : s.Fits a) :
    s.live.length = a.stranded + a.lost + a.pending.isSome.toNat := by
  rw [s.length_live, h.count_eq, h.count_eq]
  obtain ⟨pending, lost, stranded⟩ := a
  rcases pending with _ | _ | _ <;> simp [Starts.count] <;> omega

theorem Fits.began (h : s.Fits a) : (s.mark .began).Fits (a.mark .began) := by
  have hnew : s.issued + 1 ∉ s.live := fun hmem ↦ absurd (h.le_issued _ hmem) (by omega)
  have hplace : s.placeOf (s.issued + 1) = .current :=
    if_neg (Nat.not_le.mpr (Nat.lt_succ_of_le h.earlier_le))
  constructor
  case nodup =>
    change (s.live ++ [s.issued + 1]).Nodup
    rw [← List.concat_eq_append]
    exact h.nodup.concat hnew
  case le_issued =>
    intro number hmem
    rcases List.mem_append.mp hmem with hold | hself
    · exact (h.le_issued number hold).trans (Nat.le_succ _)
    · exact (List.mem_singleton.mp hself).le
  case earlier_le => exact h.earlier_le.trans (Nat.le_succ _)
  case booked_live =>
    rintro _ ⟨⟩
    exact List.mem_append_right _ List.mem_cons_self
  case pending_eq => exact congrArg some hplace.symm
  case count_eq =>
    intro place
    have hcount : (s.mark .began).count place =
        s.count place + if .current = place then 1 else 0 := by
      change (s.live ++ [s.issued + 1]).countP (fun number ↦ decide (s.placeOf number = place)) = _
      rw [List.countP_append, List.countP_singleton, hplace]
      cases place <;> rfl
    have hbegan : (a.mark .began).count place =
        { a.lose with pending := none }.count place + if .current = place then 1 else 0 :=
      Starts.count_eq_add rfl place
    rw [hcount, h.count_eq, hbegan, ← a.count_lose, ← a.pending_lose]

theorem Fits.giveUp (h : s.Fits a) : s.giveUp.Fits { a with pending := none } := by
  unfold Books.giveUp
  split
  · next hbooked =>
      have hnone : a.pending = none := by rw [h.pending_eq, hbooked, Option.map_none]
      rw [← hnone]
      exact h
  · next number hbooked =>
      have hpending : a.pending = some (s.placeOf number) := by
        rw [h.pending_eq, hbooked, Option.map_some]
      have hmem : number ∈ s.live := h.booked_live number hbooked
      rw [← h.nodup.erase_eq_filter]
      constructor
      case nodup => exact h.nodup.erase number
      case le_issued => exact fun other hother ↦ h.le_issued other (List.mem_of_mem_erase hother)
      case earlier_le => exact h.earlier_le
      case booked_live => rintro _ ⟨⟩
      case pending_eq => rfl
      case count_eq =>
        intro place
        have hcount := (h.count_eq place).trans (Starts.count_eq_add hpending place)
        change (s.live.erase number).countP (fun other ↦ decide (s.placeOf other = place)) = _
        rw [List.countP_erase]
        change s.count place - _ = _
        simp only [hcount, hmem, true_and, decide_eq_true_eq, Nat.add_sub_cancel]

/-- With nothing on the books, a drain leaves what was made on earlier connections. -/
theorem Fits.drain (h : s.Fits a) (hnone : a.pending = none) :
    s.drain.Fits { a with lost := 0 } := by
  have hbooked : s.booked = none := by
    rw [h.pending_eq] at hnone
    exact Option.map_eq_none_iff.mp hnone
  constructor
  case nodup => exact h.nodup.filter _
  case le_issued => exact fun number hmem ↦ h.le_issued number (List.mem_filter.mp hmem).1
  case earlier_le => exact h.earlier_le
  case booked_live =>
    intro number hnumber
    rw [Books.drain, hbooked] at hnumber
    cases hnumber
  case pending_eq => exact h.pending_eq
  case count_eq =>
    intro place
    have hcount := h.count_eq place
    change (s.live.filter _).countP (fun number ↦ decide (s.placeOf number = place)) = _
    rw [List.countP_filter]
    cases place with
    | current =>
        have hnever : (fun number ↦ decide (s.placeOf number = .current) &&
            decide (number ≤ s.earlier)) = fun _ ↦ false := by
          funext number
          simp [placeOf_eq_current_iff]
        rw [hnever, List.countP_false]
        simp [Starts.count, hnone]
    | earlier =>
        have hsame : (fun number ↦ decide (s.placeOf number = .earlier) &&
            decide (number ≤ s.earlier)) = fun number ↦ decide (s.placeOf number = .earlier) := by
          funext number
          simp [placeOf_eq_earlier_iff]
        rw [hsame]
        exact hcount

theorem Fits.renewed (h : s.Fits a) : (s.mark .renewed).Fits (a.mark .renewed) := by
  have hplace : ∀ number ∈ s.live, (s.mark .renewed).placeOf number = .earlier :=
    fun number hmem ↦ if_pos (h.le_issued number hmem)
  constructor
  case nodup => exact h.nodup
  case le_issued => exact h.le_issued
  case earlier_le => exact le_rfl
  case booked_live => exact h.booked_live
  case pending_eq =>
    change a.pending.map _ = s.booked.map _
    rw [h.pending_eq, Option.map_map]
    refine Option.map_congr fun number hnumber ↦ ?_
    exact (hplace number (h.booked_live number hnumber)).symm
  case count_eq =>
    rintro (_ | _)
    · have hnone : (s.mark .renewed).count .current = 0 := by
        refine List.countP_eq_zero.mpr fun number hmem ↦ ?_
        simp [hplace number hmem]
      rw [hnone]
      cases hpending : a.pending <;> simp [Starts.mark, Starts.count, hpending]
    · have hall : (s.mark .renewed).count .earlier = s.live.length := by
        refine List.countP_eq_length.mpr fun number hmem ↦ ?_
        simp [hplace number hmem]
      rw [hall, h.length_eq]
      cases hpending : a.pending <;> simp [Starts.mark, Starts.count, hpending]

theorem Fits.mark (h : s.Fits a) (m : Mark) : (s.mark m).Fits (a.mark m) := by
  cases m with
  | began => exact h.began
  | ended drained =>
      cases drained with
      | false => exact h.giveUp
      | true => exact h.giveUp.drain rfl
  | refused =>
      have hnone : ∀ number ∈ (none : Option Nat), number ∈ s.live := by rintro _ ⟨⟩
      exact ⟨h.nodup, h.le_issued, h.earlier_le, hnone, a.pending_lose,
        fun place ↦ (h.count_eq place).trans (a.count_lose place).symm⟩
  | renewed => exact h.renewed

theorem Fits.foldl (h : s.Fits a) (marks : List Mark) :
    (marks.foldl Books.mark s).Fits (marks.foldl Starts.mark a) := by
  induction marks generalizing s a with
  | nil => exact h
  | cons m rest ih => exact ih (h.mark m)

end Books

/-! ## What the calls of a client do to the books -/

namespace Client

variable {ρ : Type} {c : Client} {b : Broker ρ}

def books (c : Client) (b : Broker ρ) (subject : String) : Books :=
  ⟨c.subscriptions.get? subject, b.live.map Prod.fst, b.issued, b.earlier⟩

/-- The mark of a connect that gets a connection of its own. -/
def renewal (outages : Outages) (c : Client) (b : Broker ρ) : List Mark :=
  if !c.linked && (outages (.connect c.connection)).isNone && b.conduct.renews then [.renewed]
  else []

/-- Whether a close ends the subscriptions of the connection. -/
def drains (outages : Outages) (c : Client) (b : Broker ρ) : Bool :=
  c.opened && (outages .drain).isNone && b.conduct.drainEnds

theorem books_connect (outages : Outages) (c : Client) (b : Broker ρ) (subject : String) :
    (c.connect outages b).1.books (c.connect outages b).2.1 subject =
      (c.renewal outages b).foldl Books.mark (c.books b subject) := by
  unfold connect renewal Broker.connect Broker.ask
  cases c.linked with
  | true => rfl
  | false =>
      cases outages (.connect c.connection) with
      | some words => rfl
      | none => cases hrenews : b.conduct.renews <;> simp [books, Books.mark, hrenews]

theorem books_close (outages : Outages) {subject : String}
    (h : c.subscriptions.get? subject = none) :
    (c.close outages b).1.books (c.close outages b).2.1 subject =
      if c.drains outages b then (c.books b subject).drain else c.books b subject := by
  unfold close drains Broker.drain Broker.ask
  cases c.opened with
  | false => rfl
  | true =>
      cases outages .drain with
      | some words => rfl
      | none =>
          cases hends : b.conduct.drainEnds <;>
            simp [books, Books.drain, h, hends, List.filter_map, Function.comp_def]

theorem subscribe_cases (outages : Outages) (c : Client) (b : Broker ρ) (subject : String)
    (queue : Option String) (receiver : ρ) :
    (∃ fault, (c.subscribe outages b subject queue receiver).2.2 = .error fault ∧
      (c.subscribe outages b subject queue receiver).1.books
        (c.subscribe outages b subject queue receiver).2.1 subject = c.books b subject) ∨
    ((c.subscribe outages b subject queue receiver).2.2 = .ok () ∧
      (c.subscribe outages b subject queue receiver).1.books
        (c.subscribe outages b subject queue receiver).2.1 subject =
          (c.books b subject).mark .began) := by
  unfold subscribe Broker.subscribe Broker.ask
  split
  · cases outages (.subscribe subject (queue.getD "")) with
    | none =>
        refine Or.inr ⟨rfl, ?_⟩
        simp [books, Books.mark]
    | some words => exact Or.inl ⟨_, rfl, rfl⟩
  · exact Or.inl ⟨_, rfl, rfl⟩

theorem granted_of_close {outages : Outages} (h : (c.close outages b).2.2 = .ok ())
    (hopened : c.opened = true) : outages .drain = none := by
  rw [close, if_pos hopened, Broker.drain, Broker.ask] at h
  cases hdrain : outages .drain with
  | none => rfl
  | some words =>
      rw [hdrain] at h
      cases h

theorem opened_unsubscribe (outages : Outages) (c : Client) (b : Broker ρ) (subject : String) :
    (c.unsubscribe outages b subject).1.opened = c.opened := by
  unfold unsubscribe
  split <;> rfl

/-- A close after an unsubscribe drains what a close before it would. -/
theorem drains_unsubscribe (outages : Outages) (c : Client) (b : Broker ρ) (subject : String) :
    (c.unsubscribe outages b subject).1.drains outages (c.unsubscribe outages b subject).2.1 =
      c.drains outages b := by
  unfold unsubscribe Broker.unsubscribe Broker.ask
  split
  · rfl
  · next number _ => cases outages (.unsubscribe number) <;> rfl

theorem unsubscribe_cases (outages : Outages) (c : Client) (b : Broker ρ) (subject : String) :
    ((c.unsubscribe outages b subject).2.2 = .ok () ∧
      (c.unsubscribe outages b subject).1.books (c.unsubscribe outages b subject).2.1 subject =
        (c.books b subject).giveUp) ∨
    (∃ fault, (c.unsubscribe outages b subject).2.2 = .error fault ∧
      (c.unsubscribe outages b subject).1.books (c.unsubscribe outages b subject).2.1 subject =
        (c.books b subject).mark .refused) := by
  unfold unsubscribe Broker.unsubscribe Broker.ask
  cases hbooked : c.subscriptions.get? subject with
  | none =>
      refine Or.inl ⟨rfl, ?_⟩
      simp [books, Books.giveUp, hbooked]
  | some number =>
      cases houtage : outages (.unsubscribe number) with
      | none =>
          refine Or.inl ⟨?_, ?_⟩
          · simp [houtage, Except.mapError]
          · simp [books, Books.giveUp, hbooked, houtage, List.filter_map, Function.comp_def]
      | some words =>
          refine Or.inr ⟨.outage words, ?_, ?_⟩
          · simp [houtage, Except.mapError]
          · simp [books, Books.mark, houtage]

/-- The broker deals with connections in a given way, and nothing is live on it before the client
has opened a connection. -/
structure Tied (conduct : Broker.Conduct) (c : Client) (b : Broker ρ) : Prop where
  conduct_eq : b.conduct = conduct
  live_eq_nil : c.opened = false → b.live = []

variable {conduct : Broker.Conduct}

theorem tied_fresh (conduct : Broker.Conduct) (connection : Connection) :
    (fresh connection).Tied conduct (.fresh conduct : Broker ρ) :=
  ⟨rfl, fun _ ↦ rfl⟩

theorem Tied.connect (h : c.Tied conduct b) (outages : Outages) :
    (c.connect outages b).1.Tied conduct (c.connect outages b).2.1 := by
  unfold Client.connect Broker.connect Broker.ask
  split
  · exact h
  · cases outages (.connect c.connection) with
    | none => exact ⟨h.conduct_eq, fun hopened ↦ absurd hopened (by simp)⟩
    | some words => exact ⟨h.conduct_eq, h.live_eq_nil⟩

theorem Tied.close (h : c.Tied conduct b) (outages : Outages) :
    (c.close outages b).1.Tied conduct (c.close outages b).2.1 := by
  unfold Client.close Broker.drain Broker.ask
  split
  · next hopened =>
      have hnever : c.opened = false → ∀ {live : List (Nat × ρ)}, live = [] := by simp [hopened]
      cases outages .drain with
      | none => exact ⟨h.conduct_eq, fun hclosed ↦ hnever hclosed⟩
      | some words => exact ⟨h.conduct_eq, h.live_eq_nil⟩
  · exact h

theorem Tied.subscribe (h : c.Tied conduct b) (outages : Outages) (subject : String)
    (queue : Option String) (receiver : ρ) :
    (c.subscribe outages b subject queue receiver).1.Tied conduct
      (c.subscribe outages b subject queue receiver).2.1 := by
  unfold Client.subscribe Broker.subscribe Broker.ask
  split
  · next hconnected =>
      have hopened : c.opened = true := by
        simp only [isConnected, Bool.and_eq_true] at hconnected
        exact hconnected.1.2
      cases outages (.subscribe subject (queue.getD "")) with
      | none => exact ⟨h.conduct_eq, fun hclosed ↦ absurd hclosed (by simp [hopened])⟩
      | some words => exact ⟨h.conduct_eq, h.live_eq_nil⟩
  · exact h

theorem Tied.unsubscribe (h : c.Tied conduct b) (outages : Outages) (subject : String) :
    (c.unsubscribe outages b subject).1.Tied conduct
      (c.unsubscribe outages b subject).2.1 := by
  unfold Client.unsubscribe Broker.unsubscribe Broker.ask
  split
  · exact h
  · next number _ =>
      cases outages (.unsubscribe number) with
      | none =>
          refine ⟨h.conduct_eq, fun hclosed ↦ ?_⟩
          exact List.filter_eq_nil_iff.mpr (by simp [h.live_eq_nil hclosed])
      | some words => exact ⟨h.conduct_eq, h.live_eq_nil⟩

theorem Tied.noticeLink (h : c.Tied conduct b) (up : Bool) : (c.noticeLink up).Tied conduct b := by
  unfold Client.noticeLink
  split
  · exact ⟨h.conduct_eq, h.live_eq_nil⟩
  · exact h

end Client

namespace Consumer

variable {ρ : Type} {c : Consumer} {b : Broker ρ} {conduct : Broker.Conduct}

/-- The books of a consumer. All its subscriptions are to the ticks of all symbols. -/
def books (c : Consumer) (b : Broker ρ) : Books :=
  c.client.books b Subject.all

/-- A start connects, for a connect asks for nothing if the client is connected. -/
theorem connect_eq (outages : Outages) (c : Client) (b : Broker ρ) :
    (if c.isConnected b then (c, b, .ok ()) else c.connect outages b) = c.connect outages b := by
  split
  · next hconnected =>
      have hlinked : c.linked = true := by
        simp only [Client.isConnected, Bool.and_eq_true] at hconnected
        exact hconnected.1.1
      rw [Client.connect, if_pos hlinked]
  · rfl

theorem start_cases (outages : Outages) (c : Consumer) (b : Broker ρ) (receiver : ρ) :
    (∃ fault, (c.start outages b receiver).2.2 = .error fault ∧
      (c.start outages b receiver).1.books (c.start outages b receiver).2.1 =
        (c.client.renewal outages b).foldl Books.mark (c.books b)) ∨
    ((c.start outages b receiver).2.2 = .ok () ∧
      (c.start outages b receiver).1.books (c.start outages b receiver).2.1 =
        ((c.client.renewal outages b).foldl Books.mark (c.books b)).mark .began) := by
  have hbooks : (c.client.connect outages b).1.books (c.client.connect outages b).2.1 Subject.all =
      (c.client.renewal outages b).foldl Books.mark (c.books b) :=
    c.client.books_connect outages b Subject.all
  unfold start
  rw [connect_eq, ← hbooks]
  generalize c.client.connect outages b = linked
  obtain ⟨client, broker, result⟩ := linked
  cases result with
  | error fault => exact Or.inl ⟨fault, rfl, rfl⟩
  | ok => exact client.subscribe_cases outages broker Subject.all c.queue receiver

theorem stop_cases (outages : Outages) (c : Consumer) (b : Broker ρ) :
    ((c.client.unsubscribe outages b Subject.all).2.2 = .ok () ∧
      (c.stop outages b).1.books (c.stop outages b).2.1 =
        (c.books b).mark (.ended (c.client.drains outages b))) ∨
    (∃ fault, (c.client.unsubscribe outages b Subject.all).2.2 = .error fault ∧
      (c.stop outages b).2.2 = .error fault ∧
      (c.stop outages b).1.books (c.stop outages b).2.1 = (c.books b).mark .refused) := by
  have hcases := c.client.unsubscribe_cases outages b Subject.all
  have hdrains := c.client.drains_unsubscribe outages b Subject.all
  unfold stop
  generalize c.client.unsubscribe outages b Subject.all = given at hcases hdrains ⊢
  obtain ⟨client, broker, result⟩ := given
  rcases hcases with ⟨hok, hbooks⟩ | ⟨fault, herror, hbooks⟩
  · obtain rfl : result = .ok () := hok
    refine Or.inl ⟨rfl, ?_⟩
    have hnone : client.subscriptions.get? Subject.all = none :=
      (congrArg Books.booked hbooks).trans (Books.booked_giveUp _)
    have hclosed := client.books_close (b := broker) outages hnone
    rw [hdrains, hbooks] at hclosed
    exact hclosed
  · obtain rfl : result = .error fault := herror
    exact Or.inr ⟨fault, rfl, rfl, hbooks⟩

/-- A stop that returns has drained the connection, if there ever was one. -/
theorem drains_of_stop {outages : Outages} (h : (c.stop outages b).2.2 = .ok ()) :
    c.client.drains outages b = (c.client.opened && b.conduct.drainEnds) := by
  have hopened := c.client.opened_unsubscribe outages b Subject.all
  have hgranted : c.client.opened = true → outages .drain = none := by
    unfold stop at h
    generalize c.client.unsubscribe outages b Subject.all = given at h hopened
    obtain ⟨client, broker, result⟩ := given
    intro hclient
    cases result with
    | error fault => cases h
    | ok => exact Client.granted_of_close h (hopened.trans hclient)
  unfold Client.drains
  cases hclient : c.client.opened with
  | false => rfl
  | true => rw [hgranted hclient]; rfl

theorem tied_start (h : c.client.Tied conduct b) (outages : Outages) (receiver : ρ) :
    (c.start outages b receiver).1.client.Tied conduct (c.start outages b receiver).2.1 := by
  have hconnect := h.connect outages
  unfold start
  rw [connect_eq]
  generalize c.client.connect outages b = linked at hconnect ⊢
  obtain ⟨client, broker, result⟩ := linked
  cases result with
  | error fault => exact hconnect
  | ok => exact Client.Tied.subscribe hconnect outages Subject.all c.queue receiver

theorem tied_stop (h : c.client.Tied conduct b) (outages : Outages) :
    (c.stop outages b).1.client.Tied conduct (c.stop outages b).2.1 := by
  have hgiven := h.unsubscribe outages Subject.all
  unfold stop
  generalize c.client.unsubscribe outages b Subject.all = given at hgiven ⊢
  obtain ⟨client, broker, result⟩ := given
  cases result with
  | error fault => exact hgiven
  | ok => exact Client.Tied.close hgiven outages

end Consumer

end Candlestick

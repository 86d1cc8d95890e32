import Candlestick.Bus.Consumer

/-!
# What a connect brings about

A client is connected if it believes in its link and the link is up. By that it decides whether it
can subscribe, and a consumer whether it has to connect first; but a connect asks for the belief
alone. What a client is told of its link keeps the two together. A link that goes down unheard, or a
report that is not true, parts them (`exists_deceives_of_run`), and then a connect returns without a
connection and a consumer cannot be started (`connect_establishes_unless_deceived`).
-/

namespace Candlestick

namespace Client

variable {ρ : Type} {outages : Outages} {c : Client} {b : Broker ρ}

/-! ## The outcomes of a call -/

theorem connect_of_linked (h : c.linked = true) (outages : Outages) (b : Broker ρ) :
    c.connect outages b = (c, b, .ok ()) := by
  rw [connect, if_pos h]

theorem connect_of_granted (h : c.linked = false)
    (hgranted : outages (.connect c.connection) = none) (b : Broker ρ) :
    c.connect outages b =
      ({ c with linked := true, opened := true },
        { b with
          linkUp := true
          earlier := if b.conduct.renews then b.issued else b.earlier
          requests := b.requests ++ [.connect c.connection] }, .ok ()) := by
  have hnot : ¬ c.linked = true := by simp [h]
  rw [connect, if_neg hnot]
  simp only [Broker.connect, Broker.ask, hgranted]

theorem connect_of_refused (h : c.linked = false) {words : String}
    (hrefused : outages (.connect c.connection) = some words) (b : Broker ρ) :
    c.connect outages b =
      (c, { b with requests := b.requests ++ [.connect c.connection] },
        .error (.outage words)) := by
  have hnot : ¬ c.linked = true := by simp [h]
  rw [connect, if_neg hnot]
  simp only [Broker.connect, Broker.ask, hrefused]

theorem subscribe_of_granted (h : c.isConnected b = true) {subject : String}
    {queue : Option String} (hgranted : outages (.subscribe subject (queue.getD "")) = none)
    (receiver : ρ) :
    c.subscribe outages b subject queue receiver =
      ({ c with subscriptions := c.subscriptions.put subject (b.issued + 1) },
        { b with
          live := b.live ++ [(b.issued + 1, receiver)]
          issued := b.issued + 1
          requests := b.requests ++ [.subscribe subject (queue.getD "")] }, .ok ()) := by
  rw [subscribe, if_pos h]
  simp only [Broker.subscribe, Broker.ask, hgranted]

/-- What a client believes of its link, whether it ever had one, and whether the link is up. -/
structure Flags where
  linked : Bool
  opened : Bool
  linkUp : Bool
deriving DecidableEq

namespace Flags

def tell (f : Flags) (up : Bool) : Flags :=
  if f.opened then { f with linked := up } else f

def setLink (f : Flags) (up : Bool) : Flags :=
  { f with linkUp := up }

/-- There was a link if one is believed in. -/
def Grounded (f : Flags) : Prop :=
  f.linked = true → f.opened = true

/-- A link is believed in that is down. -/
def Deceived (f : Flags) : Prop :=
  f.linked = true ∧ f.linkUp = false

instance (f : Flags) : Decidable f.Deceived :=
  inferInstanceAs (Decidable (_ ∧ _))

variable {f : Flags}

theorem Grounded.tell (h : f.Grounded) (up : Bool) : (f.tell up).Grounded := by
  unfold Flags.tell
  split
  · next hopened => exact fun _ ↦ hopened
  · exact h

theorem Grounded.eq_true_of_tell (h : f.Grounded) {up : Bool}
    (hlinked : (f.tell up).linked = true) : up = true := by
  unfold Flags.tell at hlinked
  split at hlinked
  · exact hlinked
  · next hopened =>
      -- Nobody was told, so the belief is an old one.
      exact absurd (h hlinked) hopened

theorem linkUp_tell (f : Flags) (up : Bool) : (f.tell up).linkUp = f.linkUp := by
  unfold Flags.tell
  split <;> rfl

end Flags

def flags (c : Client) (b : Broker ρ) : Flags :=
  ⟨c.linked, c.opened, b.linkUp⟩

theorem flags_connect (outages : Outages) (c : Client) (b : Broker ρ) :
    (c.connect outages b).1.flags (c.connect outages b).2.1 = c.flags b ∨
      (c.connect outages b).1.flags (c.connect outages b).2.1 = ⟨true, true, true⟩ := by
  cases hlinked : c.linked with
  | true =>
      rw [connect_of_linked hlinked]
      exact Or.inl rfl
  | false =>
      cases hrequest : outages (.connect c.connection) with
      | none =>
          rw [connect_of_granted hlinked hrequest]
          exact Or.inr rfl
      | some words =>
          rw [connect_of_refused hlinked hrequest]
          exact Or.inl rfl

theorem flags_close (outages : Outages) (c : Client) (b : Broker ρ) :
    (c.close outages b).1.flags (c.close outages b).2.1 = c.flags b ∨
      (c.close outages b).1.flags (c.close outages b).2.1 = ⟨false, c.opened, false⟩ := by
  unfold close Broker.drain Broker.ask
  split
  · cases outages .drain with
    | none => exact Or.inr rfl
    | some words => exact Or.inl rfl
  · exact Or.inl rfl

theorem flags_subscribe (outages : Outages) (c : Client) (b : Broker ρ) (subject : String)
    (queue : Option String) (receiver : ρ) :
    (c.subscribe outages b subject queue receiver).1.flags
      (c.subscribe outages b subject queue receiver).2.1 = c.flags b := by
  unfold subscribe Broker.subscribe Broker.ask
  split
  · cases outages (.subscribe subject (queue.getD "")) <;> rfl
  · rfl

theorem flags_unsubscribe (outages : Outages) (c : Client) (b : Broker ρ) (subject : String) :
    (c.unsubscribe outages b subject).1.flags (c.unsubscribe outages b subject).2.1 =
      c.flags b := by
  unfold unsubscribe Broker.unsubscribe Broker.ask
  split
  · rfl
  · next number _ => cases outages (.unsubscribe number) <;> rfl

theorem flags_noticeLink (up : Bool) (c : Client) (b : Broker ρ) :
    (c.noticeLink up).flags b = (c.flags b).tell up := by
  unfold noticeLink Flags.tell flags
  dsimp only
  split <;> rfl

/-! ## Runs -/

/-- A client and the broker that it talks to. -/
structure Session (ρ : Type) where
  client : Client
  broker : Broker ρ

namespace Session

def fresh (conduct : Broker.Conduct) (connection : Connection) : Session ρ :=
  ⟨.fresh connection, .fresh conduct⟩

/-- What a client is asked to do, what becomes of its link, and what it is told of it. -/
inductive Move (ρ : Type) where
  | connect (outages : Outages)
  | close (outages : Outages)
  | subscribe (outages : Outages) (subject : String) (queue : Option String) (receiver : ρ)
  | unsubscribe (outages : Outages) (subject : String)
  /-- The link is lost or is back, and the client is told. -/
  | change (up : Bool)
  /-- The link is lost or is back, and the client is not told. -/
  | silentChange (up : Bool)
  /-- The client is told that the link was lost or is back, whether or not it is so. -/
  | notice (up : Bool)
  /-- The client is told of an error. -/
  | report

def perform (s : Session ρ) : Move ρ → Session ρ
  | .connect outages =>
    let (client, broker, _) := s.client.connect outages s.broker
    ⟨client, broker⟩
  | .close outages =>
    let (client, broker, _) := s.client.close outages s.broker
    ⟨client, broker⟩
  | .subscribe outages subject queue receiver =>
    let (client, broker, _) := s.client.subscribe outages s.broker subject queue receiver
    ⟨client, broker⟩
  | .unsubscribe outages subject =>
    let (client, broker, _) := s.client.unsubscribe outages s.broker subject
    ⟨client, broker⟩
  | .change up => ⟨s.client.noticeLink up, s.broker.setLink up⟩
  | .silentChange up => { s with broker := s.broker.setLink up }
  | .notice up => { s with client := s.client.noticeLink up }
  | .report => s

def run (s : Session ρ) (moves : List (Move ρ)) : Session ρ :=
  moves.foldl perform s

def flags (s : Session ρ) : Flags :=
  s.client.flags s.broker

/-- The moves after which a client may believe in a link that is down. -/
def Move.deceives : Move ρ → Bool
  | .silentChange up => !up
  | .notice up => up
  | _ => false

variable {s : Session ρ}

/-- What a move can do to the flags. -/
inductive Step : Move ρ → Flags → Flags → Prop where
  | keep (move : Move ρ) (f : Flags) : Step move f f
  | opening (move : Move ρ) (f : Flags) : Step move f ⟨true, true, true⟩
  | closing (move : Move ρ) (f : Flags) : Step move f ⟨false, f.opened, false⟩
  | change (up : Bool) (f : Flags) : Step (.change up) f ((f.setLink up).tell up)
  | silentChange (up : Bool) (f : Flags) : Step (.silentChange up) f (f.setLink up)
  | notice (up : Bool) (f : Flags) : Step (.notice up) f (f.tell up)

theorem step_perform (s : Session ρ) (move : Move ρ) :
    Step move s.flags (s.perform move).flags := by
  cases move with
  | connect outages =>
      have hflags : (s.perform (.connect outages)).flags = s.flags ∨
          (s.perform (.connect outages)).flags = ⟨true, true, true⟩ :=
        flags_connect outages s.client s.broker
      rcases hflags with hsame | hopened
      · rw [hsame]
        apply Step.keep
      · rw [hopened]
        apply Step.opening
  | close outages =>
      have hflags : (s.perform (.close outages)).flags = s.flags ∨
          (s.perform (.close outages)).flags = ⟨false, s.client.opened, false⟩ :=
        flags_close outages s.client s.broker
      rcases hflags with hsame | hclosed
      · rw [hsame]
        apply Step.keep
      · rw [hclosed]
        exact .closing (.close outages) s.flags
  | subscribe outages subject queue receiver =>
      have hsame : (s.perform (.subscribe outages subject queue receiver)).flags = s.flags :=
        flags_subscribe outages s.client s.broker subject queue receiver
      rw [hsame]
      apply Step.keep
  | unsubscribe outages subject =>
      have hsame : (s.perform (.unsubscribe outages subject)).flags = s.flags :=
        flags_unsubscribe outages s.client s.broker subject
      rw [hsame]
      apply Step.keep
  | change up =>
      have htold : (s.perform (.change up)).flags = (s.flags.setLink up).tell up :=
        flags_noticeLink up s.client (s.broker.setLink up)
      rw [htold]
      apply Step.change
  | silentChange up => exact .silentChange up s.flags
  | notice up =>
      have htold : (s.perform (.notice up)).flags = s.flags.tell up :=
        flags_noticeLink up s.client s.broker
      rw [htold]
      apply Step.notice
  | report => apply Step.keep

variable {move : Move ρ} {f reached : Flags}

theorem Step.grounded (h : Step move f reached) (hf : f.Grounded) : reached.Grounded := by
  cases h with
  | keep => exact hf
  | opening => exact fun _ ↦ rfl
  | closing => exact fun hlinked ↦ absurd hlinked Bool.false_ne_true
  | change up => exact Flags.Grounded.tell (f := f.setLink up) hf up
  | silentChange up => exact hf
  | notice up => exact hf.tell up

theorem Step.deceives (h : Step move f reached) (hf : f.Grounded) (hnot : ¬ f.Deceived)
    (hreached : reached.Deceived) : move.deceives = true := by
  cases h with
  | keep => exact absurd hreached hnot
  | opening => cases hreached.2
  | closing => cases hreached.1
  | change up =>
      -- The link is as the client was told.
      have htold : up = true := Flags.Grounded.eq_true_of_tell (f := f.setLink up) hf hreached.1
      have hdown : up = false := (Flags.linkUp_tell _ up).symm.trans hreached.2
      exact absurd (hdown.symm.trans htold) Bool.false_ne_true
  | silentChange up =>
      obtain rfl : up = false := hreached.2
      rfl
  | notice up => exact hf.eq_true_of_tell hreached.1

theorem grounded_run (h : s.flags.Grounded) (moves : List (Move ρ)) :
    (s.run moves).flags.Grounded := by
  induction moves generalizing s with
  | nil => exact h
  | cons move rest ih => exact ih ((step_perform s move).grounded h)

theorem grounded_fresh (conduct : Broker.Conduct) (connection : Connection) :
    (fresh conduct connection : Session ρ).flags.Grounded :=
  fun hlinked ↦ absurd hlinked Bool.false_ne_true

theorem exists_deceives_of_run (h : s.flags.Grounded) (hnot : ¬ s.flags.Deceived)
    {moves : List (Move ρ)} (hdeceived : (s.run moves).flags.Deceived) :
    ∃ move ∈ moves, move.deceives = true := by
  induction moves generalizing s with
  | nil => exact absurd hdeceived hnot
  | cons move rest ih =>
      have hstep := step_perform s move
      by_cases hnext : (s.perform move).flags.Deceived
      · exact ⟨move, List.mem_cons_self, hstep.deceives h hnot hnext⟩
      · obtain ⟨other, hmem, hother⟩ := ih (hstep.grounded h) hnext hdeceived
        exact ⟨other, List.mem_cons_of_mem move hmem, hother⟩

end Session

/-! ## Connecting -/

theorem isConnected_of_deceived (h : (c.flags b).Deceived) : c.isConnected b = false := by
  have hdown : b.linkUp = false := h.2
  rw [isConnected, hdown, Bool.and_false]

theorem isConnected_of_linked (hgrounded : (c.flags b).Grounded)
    (hnot : ¬ (c.flags b).Deceived) (h : c.linked = true) : c.isConnected b = true := by
  have hopened : c.opened = true := hgrounded h
  have hup : b.linkUp = true := by
    apply (Bool.not_eq_false _).mp
    exact fun hdown ↦ hnot ⟨h, hdown⟩
  rw [isConnected, h, hopened, hup]
  rfl

theorem connect_of_not_deceived (hgrounded : (c.flags b).Grounded)
    (hnot : ¬ (c.flags b).Deceived) (hgranted : outages (.connect c.connection) = none) :
    (c.connect outages b).2.2 = .ok () ∧
      (c.connect outages b).1.isConnected (c.connect outages b).2.1 = true := by
  cases hlinked : c.linked with
  | true =>
      rw [connect_of_linked hlinked]
      exact ⟨rfl, isConnected_of_linked hgrounded hnot hlinked⟩
  | false =>
      rw [connect_of_granted hlinked hgranted]
      exact ⟨rfl, rfl⟩

end Client

namespace Consumer

variable {ρ : Type} {outages : Outages} {c : Consumer} {b : Broker ρ} {receiver : ρ}

/-- A consumer is connected and has a live subscription to all ticks on its books. -/
structure Subscribed (c : Consumer) (b : Broker ρ) (receiver : ρ) : Prop where
  connected : c.client.isConnected b = true
  booked : ∃ number, c.client.subscriptions.get? Subject.all = some number ∧
    (number, receiver) ∈ b.live

theorem start_eq_of_connected {client : Client} {broker : Broker ρ}
    (h : (if c.client.isConnected b then (c.client, b, .ok ()) else c.client.connect outages b) =
      (client, broker, .ok ())) :
    c.start outages b receiver =
      let (client, broker, result) :=
        client.subscribe outages broker Subject.all c.queue receiver
      ({ c with client }, broker, result) := by
  rw [start, h]

theorem start_of_deceived (h : (c.client.flags b).Deceived) (outages : Outages) (receiver : ρ) :
    c.start outages b receiver = (c, b, .error .notConnected) := by
  have hnot : ¬ c.client.isConnected b = true := by simp [Client.isConnected_of_deceived h]
  have hconnect : (if c.client.isConnected b then (c.client, b, .ok ())
      else c.client.connect outages b) = (c.client, b, .ok ()) := by
    rw [if_neg hnot, Client.connect_of_linked h.1]
  rw [start_eq_of_connected hconnect, Client.subscribe, if_neg hnot]

theorem start_of_not_deceived (hgrounded : (c.client.flags b).Grounded)
    (hnot : ¬ (c.client.flags b).Deceived)
    (hconnects : outages (.connect c.client.connection) = none)
    (hsubscribes : outages (.subscribe Subject.all (c.queue.getD "")) = none) :
    (c.start outages b receiver).2.2 = .ok () ∧
      (c.start outages b receiver).1.Subscribed (c.start outages b receiver).2.1 receiver := by
  obtain ⟨client, broker, hreached, hconnected⟩ : ∃ client broker,
      (if c.client.isConnected b then (c.client, b, .ok ()) else c.client.connect outages b) =
        (client, broker, .ok ()) ∧ client.isConnected broker = true := by
    split
    · next hconnected => exact ⟨c.client, b, rfl, hconnected⟩
    · obtain ⟨hok, hconnected⟩ := Client.connect_of_not_deceived hgrounded hnot hconnects
      exact ⟨_, _, Prod.ext rfl (Prod.ext rfl hok), hconnected⟩
  rw [start_eq_of_connected hreached, Client.subscribe_of_granted hconnected hsubscribes]
  refine ⟨rfl, hconnected, broker.issued + 1, ?_, ?_⟩
  · rw [Keyed.get?_put, if_pos rfl]
  · exact List.mem_append_right _ List.mem_cons_self

end Consumer

/-- Whatever a client has been asked and told: if it does not believe in a link that is down, then a
connect raises because it is turned down, or it returns and the client is connected; and a start of
its consumer, if nothing is turned down, returns and the consumer is subscribed. If it does, then a
connect returns and nothing has changed, and no start can succeed. That is so only after a link has
changed unheard or the client was told of one that is not there. -/
theorem Client.Session.connect_establishes_unless_deceived {ρ : Type} (conduct : Broker.Conduct)
    (connection : Connection) (moves : List (Move ρ)) (outages : Outages) :
    let s := (fresh conduct connection).run moves
    let reached := s.client.connect outages s.broker
    (¬ s.flags.Deceived →
      reached.2.2 = .ok () ∧ reached.1.isConnected reached.2.1 = true ∨
        ∃ words, outages (.connect s.client.connection) = some words ∧
          reached.2.2 = .error (.outage words)) ∧
    (s.flags.Deceived →
      reached = (s.client, s.broker, .ok ()) ∧ s.client.isConnected s.broker = false ∧
        ∃ move ∈ moves, move.deceives = true) ∧
    ∀ (c : Consumer) (receiver : ρ), c.client = s.client →
      let started := c.start outages s.broker receiver
      (¬ s.flags.Deceived → outages (.connect s.client.connection) = none →
        outages (.subscribe Subject.all (c.queue.getD "")) = none →
        started.2.2 = .ok () ∧ started.1.Subscribed started.2.1 receiver) ∧
      (s.flags.Deceived → started = (c, s.broker, .error .notConnected)) := by
  intro s reached
  have hfresh : (fresh conduct connection : Session ρ).flags.Grounded :=
    grounded_fresh conduct connection
  have hgrounded : s.flags.Grounded := grounded_run hfresh moves
  refine ⟨?_, ?_, ?_⟩
  · intro hnot
    cases hrequest : outages (.connect s.client.connection) with
    | none => exact Or.inl (connect_of_not_deceived hgrounded hnot hrequest)
    | some words =>
        cases hlinked : s.client.linked with
        | true =>
            have hconnected := isConnected_of_linked hgrounded hnot hlinked
            have hreached : reached = _ := connect_of_linked hlinked outages s.broker
            rw [hreached]
            exact Or.inl ⟨rfl, hconnected⟩
        | false =>
            have hreached : reached = _ := connect_of_refused hlinked hrequest s.broker
            rw [hreached]
            exact Or.inr ⟨words, rfl, rfl⟩
  · intro hdeceived
    have hnot : ¬ (fresh conduct connection : Session ρ).flags.Deceived :=
      fun h ↦ absurd h.1 Bool.false_ne_true
    exact ⟨connect_of_linked hdeceived.1 outages s.broker, isConnected_of_deceived hdeceived,
      exists_deceives_of_run hfresh hnot hdeceived⟩
  · rintro c receiver hc started
    have hflags : c.client.flags s.broker = s.flags := congrArg (Client.flags · s.broker) hc
    rw [← hc, ← hflags]
    constructor
    · intro hnot hconnects hsubscribes
      rw [← hflags] at hgrounded
      exact Consumer.start_of_not_deceived hgrounded hnot hconnects hsubscribes
    · intro hdeceived
      exact Consumer.start_of_deceived hdeceived outages receiver

namespace Client.Session

def toldOfLoss : List (Move Unit) :=
  [.connect .none, .change false]

def lossUnheard : List (Move Unit) :=
  [.connect .none, .silentChange false]

/-- A client that was told of the loss of its link connects again. One that was not told does not,
and its consumer cannot be started. -/
theorem connect_establishes_unless_deceived_loss :
    let told := (fresh .separate .standard).run toldOfLoss
    let untold := (fresh .separate .standard).run lossUnheard
    ¬ told.flags.Deceived ∧ untold.flags.Deceived ∧
      (((⟨told.client, none, 0, 0⟩ : Consumer).start .none told.broker ()).2.2 = .ok ()) ∧
      untold.client.connect .none untold.broker = (untold.client, untold.broker, .ok ()) ∧
      untold.client.isConnected untold.broker = false ∧
      ((⟨untold.client, none, 0, 0⟩ : Consumer).start .none untold.broker ()).2.2 =
        .error .notConnected := by
  intro told untold
  have hknows : ¬ told.flags.Deceived := by decide
  have hdeceived : untold.flags.Deceived := by decide
  obtain ⟨_, _, hstarts⟩ :=
    connect_establishes_unless_deceived .separate .standard toldOfLoss .none
  obtain ⟨_, hreturns, hfails⟩ :=
    connect_establishes_unless_deceived .separate .standard lossUnheard .none
  obtain ⟨hstarted, _⟩ := (hstarts ⟨told.client, none, 0, 0⟩ () rfl).1 hknows rfl rfl
  obtain ⟨hconnect, hconnected, _⟩ := hreturns hdeceived
  have hstart := (hfails ⟨untold.client, none, 0, 0⟩ () rfl).2 hdeceived
  exact ⟨hknows, hdeceived, hstarted, hconnect, hconnected, congrArg (·.2.2) hstart⟩

end Client.Session

end Candlestick

import Candlestick.Proofs.Settings.Override

/-!
# The connection that an environment asks for

There are two ways from an environment to a connection: through the settings, and directly. Both
read the servers from one variable and agree on them, however they are spelled. Only the direct way
looks for a name of the client; the settings keep the standard one
(`connection_eq_ofEnvironment_iff`).
-/

namespace Candlestick.Settings

variable {contents : String → Option String} {env : Environment} {s : Settings}

/-- Without a file the settings are the standard ones with the overrides of the environment. -/
theorem ofEnvironment_of_no_file (contents : String → Option String)
    (hfile : fileNamed env = none) :
    ofEnvironment contents env = applyEnvironment env .standard := by
  rw [ofEnvironment, hfile]
  rfl

/-- Nothing but the three numbers can keep an environment without a file from being loaded. -/
theorem exists_ofEnvironment_of_no_file (hfile : fileNamed env = none)
    (hflush : ¬ Refuses env "FLUSH_INTERVAL_MS" (0 < ·))
    (hwalk : ¬ Refuses env "GENERATOR_INTERVAL_MS" (0 < ·))
    (hport : ¬ Refuses env "PORT" fun n ↦ 0 < n ∧ n < 65536) :
    ∃ s, ofEnvironment contents env = .ok s ∧ Overrides env .standard s := by
  rw [ofEnvironment_of_no_file contents hfile]
  cases hresult : applyEnvironment env .standard with
  | ok s => exact ⟨s, rfl, applyEnvironment_eq_ok_iff.mp hresult⟩
  | error fault =>
      have hrefused := (override_invalid_iff env .standard).mp
        (applyEnvironment_eq_error_iff.mp hresult).1
      rcases hrefused with h | h | h
      · exact absurd h hflush
      · exact absurd h hwalk
      · exact absurd h hport

theorem Overrides.connection_eq (h : Overrides env .standard s) :
    s.bus.connection =
      { Connection.ofEnvironment "NATS" env with name := Connection.defaultName } := by
  have hname : s.bus.clientName = Connection.defaultName := h.clientName
  have hservers : s.bus.servers =
      ((env.get? "NATS_SERVERS").map Text.items).getD Connection.defaultServers := h.servers
  rw [Bus.connection, hname, hservers, Connection.ofEnvironment]
  simp only [Connection.ofServers, String.reduceAppend]

theorem name_ofEnvironment (env : Environment) :
    (Connection.ofEnvironment "NATS" env).name =
      env.readOr "NATS_CLIENT_NAME" id Connection.defaultName := by
  rw [Connection.ofEnvironment, Environment.readOr, Option.map_id]
  rfl

theorem readOr_id_eq_iff {name otherwise : String} :
    env.readOr name id otherwise = otherwise ↔
      ∀ text, env.get? name = some text → text = otherwise := by
  cases h : env.get? name with
  | none => exact iff_of_true (Environment.readOr_of_none h id otherwise) fun _ ↦ nofun
  | some found =>
      rw [Environment.readOr_of_some h]
      constructor
      · rintro heq _ ⟨⟩
        exact heq
      · intro hall
        exact hall found rfl

/-- Without a file, and if its numbers are accepted, an environment gives settings. The connection
they ask for is the one that the environment asks for directly, with the same servers and the same
way of coming back, except that it is always made under the standard name. So the two are the same
exactly if no other name is given. -/
theorem connection_eq_ofEnvironment_iff (contents : String → Option String)
    (hfile : fileNamed env = none) (hflush : ¬ Refuses env "FLUSH_INTERVAL_MS" (0 < ·))
    (hwalk : ¬ Refuses env "GENERATOR_INTERVAL_MS" (0 < ·))
    (hport : ¬ Refuses env "PORT" fun n ↦ 0 < n ∧ n < 65536) :
    ∃ s, ofEnvironment contents env = .ok s ∧
      s.bus.connection =
        { Connection.ofEnvironment "NATS" env with name := Connection.defaultName } ∧
      (s.bus.connection = Connection.ofEnvironment "NATS" env ↔
        ∀ name, env.get? "NATS_CLIENT_NAME" = some name → name = Connection.defaultName) := by
  obtain ⟨s, hs, hoverrides⟩ := exists_ofEnvironment_of_no_file hfile hflush hwalk hport
  refine ⟨s, hs, hoverrides.connection_eq, ?_⟩
  rw [hoverrides.connection_eq, ← readOr_id_eq_iff, ← name_ofEnvironment]
  constructor
  · intro h
    exact (congrArg Connection.name h).symm
  · intro h
    rw [← h]

def namedClient : Environment :=
  ⟨[("NATS_SERVERS", " nats://a:4222 ,, nats://b:4222,"), ("NATS_CLIENT_NAME", "agg-1")]⟩

/-- The servers are read alike, the name of the client is not. -/
theorem connection_eq_ofEnvironment_iff_namedClient :
    fileNamed namedClient = none ∧ ¬ Refuses namedClient "FLUSH_INTERVAL_MS" (0 < ·) ∧
      ¬ Refuses namedClient "GENERATOR_INTERVAL_MS" (0 < ·) ∧
      ¬ Refuses namedClient "PORT" (fun n ↦ 0 < n ∧ n < 65536) ∧
      ∃ s, ofEnvironment (fun _ ↦ none) namedClient = .ok s ∧
        s.bus.connection.servers = ["nats://a:4222", "nats://b:4222"] ∧
        s.bus.connection ≠ Connection.ofEnvironment "NATS" namedClient := by
  have hfile : fileNamed namedClient = none := by decide
  have hflush : ¬ Refuses namedClient "FLUSH_INTERVAL_MS" (0 < ·) := not_refuses_of_none rfl
  have hwalk : ¬ Refuses namedClient "GENERATOR_INTERVAL_MS" (0 < ·) := not_refuses_of_none rfl
  have hport : ¬ Refuses namedClient "PORT" fun n ↦ 0 < n ∧ n < 65536 := not_refuses_of_none rfl
  obtain ⟨s, hs, hconnection, hsame⟩ :=
    connection_eq_ofEnvironment_iff (fun _ ↦ none) hfile hflush hwalk hport
  refine ⟨hfile, hflush, hwalk, hport, s, hs, ?_, ?_⟩
  · rw [hconnection]
    decide +kernel
  · intro h
    have hname := hsame.mp h "agg-1" rfl
    exact absurd hname (by decide)

end Candlestick.Settings

/-
  What a failed connect leaves of the registry.

  A registry is attached after the configuration was found good and before
  anything else is tried.  Nothing that comes later detaches it: not the lack of
  threads, not a fault of encryption, and not attempts that all fail.  So a
  connect attaches its registry exactly if the configuration names a plan, and
  whoever wants to connect once more with the registry is refused, although
  there is no client to which it belongs.
-/
import TupleWire.Client.Connect
import TupleWire.Connection.Attempt

set_option autoImplicit false

namespace TupleWire

/-! ## Attempts over a network -/

/-- Whether a dialer makes attempts: for every slot it reaches a server or does not, goes through
whatever happens during the handshake, and gives what the attempt has come to in the end. -/
def Dialer.MakesAttempts (dial : Dialer) : Prop :=
  ∀ (group : Group) (index : Nat) (shared : Shared),
    ∃ (requestTimeout : Duration) (now : Nat) (opening : Opening)
      (steps : List (Nat × Attempt.Event)),
      (Attempt.make group index requestTimeout now opening steps).1.result? =
          some (dial group index shared).1 ∧
        (dial group index shared).2 =
          shared.applyAll (Attempt.make group index requestTimeout now opening steps).2

theorem Dialer.makesAttempts_isolated : Dialer.isolated.MakesAttempts := by
  intro group index shared
  exact ⟨.ofMillis 0, 0, .failed (.network Dialer.unreachable), [], rfl, rfl⟩

/-! ## Nothing detaches a registry -/

/-- Whether the registry is attached is not for connections to say. -/
theorem Shared.isAttached_applyAll (shared : Shared) (effects : List Effect) :
    (shared.applyAll effects).metrics.isAttached = shared.metrics.isAttached := by
  induction effects generalizing shared with
  | nil => rfl
  | cons e rest ih =>
      show ((shared.apply e).applyAll rest).metrics.isAttached = _
      rw [ih]
      cases e with
      | resolved sync result after =>
          simp only [apply, Metrics.finish]
          split
          · rfl
          · rfl
          · rfl
          · rfl
      | started sync => rfl
      | queued packet => rfl
      | ignored payload => rfl
      | notified callback event => rfl
      | observed version => rfl
      | closed => rfl

namespace Client

section Registry

variable {dial : Dialer} {host : Host} {config : ClientConfig} {hooks : ClientHooks}

theorem isAttached_dialAll (hdial : dial.MakesAttempts) (slots : List Slot) (shared : Shared) :
    (dialAll dial slots shared).2.metrics.isAttached = shared.metrics.isAttached := by
  induction slots generalizing shared with
  | nil => rfl
  | cons s rest ih =>
      obtain ⟨requestTimeout, now, opening, steps, _, hshared⟩ := hdial s.group s.index shared
      show (dialAll dial rest (dial s.group s.index shared).2).2.metrics.isAttached = _
      rw [ih, hshared, Shared.isAttached_applyAll]

/-- Starting a pool keeps a registry attached that is. -/
theorem metrics_startPool (hdial : dial.MakesAttempts) (policy : Policy) (m : Metrics) :
    ∃ after, (startPool dial config hooks policy (some m)).metrics = some after ∧
      after.isAttached = m.isAttached :=
  ⟨_, rfl, isAttached_dialAll hdial _ _⟩

/-- What a connect leaves of a registry, whatever it comes to: the registry is attached if it was,
or if the configuration is good. -/
theorem metrics_connect (hdial : dial.MakesAttempts) {m : Metrics} (hm : hooks.metrics = some m) :
    ∃ after, (connect dial host config hooks).metrics = some after ∧
      (after.isAttached = true ↔ m.isAttached = true ∨ ∃ policy, plan config = .ok policy) := by
  unfold connect
  cases hplan : plan config with
  | error e => exact ⟨m, hm, by simp⟩
  | ok policy =>
      cases htaken : m.isAttached with
      | true =>
          have hattach : attach (some m) = .error (.contract .metricsTaken) := by
            simp [attach, Metrics.attach?, htaken]
          simp only [hm, hattach]
          exact ⟨m, rfl, by simp [htaken]⟩
      | false =>
          have hattach : attach (some m) = .ok (some { m with isAttached := true }) := by
            simp [attach, Metrics.attach?, htaken]
          simp only [hm, hattach]
          cases checkThreads hooks host with
          | error e => exact ⟨_, rfl, by simp⟩
          | ok _ =>
              cases checkTrust config host with
              | error e => exact ⟨_, rfl, by simp⟩
              | ok _ =>
                  obtain ⟨after, hafter, hattached⟩ :=
                    metrics_startPool hdial policy { m with isAttached := true }
                  exact ⟨after, hafter, by simp [hattached]⟩

/-- A connect with a registry that is attached is refused before anything happens, and one with
another registry is not, if the configuration is good. -/
theorem connect_eq_refused_iff (hdial : dial.MakesAttempts) {m : Metrics}
    (hm : hooks.metrics = some m) {policy : Policy} (hplan : plan config = .ok policy) :
    connect dial host config hooks = ⟨.error (.contract .metricsTaken), some m, []⟩ ↔
      m.isAttached = true := by
  constructor
  · intro hrefused
    obtain ⟨after, hafter, hattached⟩ := @metrics_connect dial host config hooks hdial m hm
    rw [hrefused] at hafter
    cases hafter
    exact hattached.2 (.inr ⟨policy, hplan⟩)
  · intro htaken
    have hattach : attach (some m) = .error (.contract .metricsTaken) := by
      simp [attach, Metrics.attach?, htaken]
    simp only [connect, hplan, hm, hattach]

/-- A connect whose configuration is at fault fails with that fault. -/
theorem plan_of_failed {e fault : ClientError}
    (hfailed : (connect dial host config hooks).result = .error e)
    (hplan : plan config = .error fault) : plan config = .error e := by
  simp only [connect, hplan] at hfailed
  cases hfailed
  exact hplan

/-! ## A failed connect -/

/-- A failed connect leaves the registry as it was, attached or not, exactly if it was attached
before or if what it failed with is a fault of the configuration.  After any other failure the
registry stays attached, and a later connect with it and a good configuration is refused because
of the failed one. -/
theorem registry_of_failed_connect (hdial : dial.MakesAttempts) {m : Metrics}
    (hm : hooks.metrics = some m) {e : ClientError}
    (hfailed : (connect dial host config hooks).result = .error e) :
    ∃ after, (connect dial host config hooks).metrics = some after ∧
      (after.isAttached = m.isAttached ↔ m.isAttached = true ∨ plan config = .error e) ∧
      ∀ (again : Dialer) (host' : Host) (config' : ClientConfig) (hooks' : ClientHooks)
        (policy : Policy), again.MakesAttempts → hooks'.metrics = some after →
          plan config' = .ok policy →
            (connect again host' config' hooks' =
                ⟨.error (.contract .metricsTaken), some after, []⟩ ↔
              m.isAttached = true ∨ plan config ≠ .error e) := by
  obtain ⟨after, hafter, hattached⟩ := @metrics_connect dial host config hooks hdial m hm
  have hgood : (∃ policy, plan config = .ok policy) ↔ plan config ≠ .error e := by
    cases hplan : plan config with
    | ok policy => simp
    | error fault =>
        have hsame := plan_of_failed hfailed hplan
        rw [hplan] at hsame
        simp [hsame]
  rw [hgood] at hattached
  refine ⟨after, hafter, ?_, ?_⟩
  · by_cases htaken : m.isAttached = true
    · have hafterTaken : after.isAttached = true := hattached.2 (.inl htaken)
      simp [htaken, hafterTaken]
    · by_cases hplan : plan config = .error e
      · have hafterFree : ¬ after.isAttached = true := by
          intro h
          rcases hattached.1 h with h | h
          · exact htaken h
          · exact h hplan
        simp [htaken, hafterFree, hplan]
      · have hafterTaken : after.isAttached = true := hattached.2 (.inr hplan)
        simp [htaken, hafterTaken, hplan]
  · intro again host' config' hooks' policy hagain hhooks hplan
    rw [connect_eq_refused_iff hagain hhooks hplan, hattached]

end Registry

/-! ## A client that could not be connected -/

namespace Outage

/-- One connection to one instance. -/
def config : ClientConfig :=
  { groups := [{ tag := "default", host := "localhost", port := 3301, size := 1 }] }

/-- A caller with a registry of its own. -/
def hooks : ClientHooks := { metrics := some .empty }

/-- The registry after an attempt that failed. -/
def after : Metrics := { Metrics.empty with isAttached := true }

theorem connect_isolated : connect .isolated .bare config hooks =
    ⟨.error (.network Dialer.unreachable), some after,
      [.slot "default" 0 (.connectFailed (.network Dialer.unreachable))]⟩ := by
  rfl

/-- No address can be reached.  The connect fails, the registry that was free is attached, and
whoever tries once more with it is refused, whatever the network is like by then. -/
theorem connect_with_registry_of_failed_connect :
    (connect .isolated .bare config hooks).result = .error (.network Dialer.unreachable) ∧
      hooks.metrics.map Metrics.isAttached = some false ∧
      (connect .isolated .bare config hooks).metrics.map Metrics.isAttached = some true ∧
      ∀ dial : Dialer, connect dial .bare config
          { metrics := (connect .isolated .bare config hooks).metrics } =
        ⟨.error (.contract .metricsTaken), some after, []⟩ := by
  refine ⟨rfl, rfl, rfl, ?_⟩
  intro dial
  rfl

/-- The registry does not stay as it was, since it was free and the configuration is good. -/
theorem registry_of_failed_connect_of_outage :
    ∃ policy, plan config = .ok policy ∧
      connect .isolated .bare config { metrics := some after } =
        ⟨.error (.contract .metricsTaken), some after, []⟩ := by
  have hfailed : (connect .isolated .bare config hooks).result =
      .error (.network Dialer.unreachable) := by rfl
  have hregistry : hooks.metrics = some .empty := rfl
  obtain ⟨registry, hleft, _, hlater⟩ :=
    registry_of_failed_connect Dialer.makesAttempts_isolated hregistry hfailed
  have hafter : registry = after := by
    rw [connect_isolated] at hleft
    exact (Option.some.inj hleft).symm
  subst hafter
  have hplan : plan config = .ok (.roundRobin 0) := by rfl
  refine ⟨_, hplan, ?_⟩
  refine (hlater .isolated .bare config { metrics := some after } _
    Dialer.makesAttempts_isolated rfl hplan).2 (.inr ?_)
  rw [hplan]
  intro hfault
  cases hfault

end Outage

end Client

end TupleWire

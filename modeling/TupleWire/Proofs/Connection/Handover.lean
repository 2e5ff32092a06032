/-
  The connections that handshakes hand over.

  A handshake becomes ready in one place only, where it sets the state of its
  connection; so the connection is ready, or it was closed on the way and stays
  so.
-/
import TupleWire.Connection.Handshake
import TupleWire.Proofs.Connection.Turn

set_option autoImplicit false

namespace TupleWire

namespace Handshake

/-- Whether a handshake, whatever happens while it goes on, ends by handing over a connection. -/
def HandsOver (c : Connection) : Prop :=
  ∃ h events effects, run (.going h) events = (.ready c, effects)

variable {c : Connection} {effects : List Effect}

theorem ready_ne_ask (group : Group) (now : Nat) (stage : HandshakeStage) (r : Request)
    (d : Connection) : ask group now stage r d ≠ (.ready c, effects) := by
  intro h
  unfold ask at h
  split at h
  · cases h
  · cases h

/-- The step that makes a handshake ready sets the state of its connection. -/
theorem ready_of_step {h : Handshake} {now : Nat} {result : Except ClientError Response}
    (hstep : h.step now result = (.ready c, effects)) : c = h.conn.setLifecycle .ready := by
  unfold step at hstep
  split at hstep
  · split at hstep
    · cases hstep
    · simp only [authenticate] at hstep
      split at hstep
      · exact absurd hstep (ready_ne_ask _ _ _ _ _)
      · exact absurd hstep (ready_ne_ask _ _ _ _ _)
  · split at hstep
    · cases hstep
    · exact absurd hstep (ready_ne_ask _ _ _ _ _)
  · split at hstep
    · cases hstep
    · cases hstep
      rfl

theorem lifecycle_of_onEvent {h : Handshake} {now : Nat} {event : Event}
    (hevent : h.onEvent now event = (.ready c, effects)) :
    c.lifecycle = .ready ∨ c.lifecycle = .closed := by
  cases event with
  | timeOut => cases hevent
  | conn action =>
      simp only [onEvent] at hevent
      split at hevent
      · cases hevent
      · rename_i result _
        rcases hstep : Handshake.step { h with conn := (h.conn.act now action).2.1 } now result
          with ⟨progress, more⟩
        rw [hstep] at hevent
        cases hevent
        rw [ready_of_step hstep]
        exact Connection.lifecycle_setLifecycle _ _

/-- A handshake that is over goes no further. -/
theorem run_of_over {progress : HandshakeProgress} (h : ∀ next, progress ≠ .going next)
    (events : List (Nat × Event)) : run progress events = (progress, []) := by
  unfold run
  split
  · rename_i next _ _ _
    exact absurd rfl (h next)
  · rfl

/-- What a handshake hands over is ready or closed. -/
theorem HandsOver.lifecycle (h : HandsOver c) : c.lifecycle = .ready ∨ c.lifecycle = .closed := by
  obtain ⟨h, events, effects, hrun⟩ := h
  induction events generalizing h effects with
  | nil => cases hrun
  | cons event rest ih =>
      obtain ⟨now, event⟩ := event
      have hlast : (run (h.onEvent now event).1 rest).1 = .ready c := congrArg Prod.fst hrun
      rcases hevent : h.onEvent now event with ⟨progress, first⟩
      rw [hevent] at hlast
      cases progress with
      | going next => exact ih next _ (Prod.ext hlast rfl)
      | ready d =>
          rw [run_of_over (by simp)] at hlast
          cases hlast
          exact lifecycle_of_onEvent hevent
      | failed d e =>
          rw [run_of_over (by simp)] at hlast
          cases hlast

end Handshake

/-- No handshake is over when it begins. -/
theorem Connection.ready_ne_greeted {group : Group} {index : Nat} {requestTimeout : Duration}
    {now : Nat} {raw : Bytes} {c : Connection} {effects : List Effect} :
    Connection.greeted group index requestTimeout now raw ≠ .ok (.ready c, effects) := by
  intro h
  unfold greeted at h
  split at h
  · cases h
  · exact absurd (Except.ok.inj h) (Handshake.ready_ne_ask _ _ _ _ _)

end TupleWire

/-
  Judging a slot by the outcomes of its probes.

  Probes are judged in windows of a fixed size.  A window is bad if enough of
  its probes failed; a slot is invalidated as soon as a window can no longer be
  good and recovers when a window closes good, and enough bad windows in a row
  are its death.  A dead slot comes back, with everything counted anew, at its
  first probe that succeeds.
-/
import TupleWire.Config.Basic

set_option autoImplicit false

namespace TupleWire

/-- What one probe changes. -/
inductive Verdict where
  | unchanged
  /-- enough probes of the window failed -/
  | invalidated
  /-- a window closed good after the slot had been invalidated -/
  | recovered
  /-- enough bad windows in a row -/
  | dead
  /-- the first successful probe after death -/
  | reinstated
  deriving DecidableEq, Repr, Inhabited

/-- The name of a verdict in diagnostics. -/
def Verdict.name : Verdict → String
  | unchanged => "Unchanged"
  | invalidated => "Invalidated"
  | recovered => "Recovered"
  | dead => "Dead"
  | reinstated => "Reinstated"

/-- The sizes by which probes are judged. -/
structure ProbeRules where
  windowSize : Nat
  /-- failed probes that make a window bad -/
  invalidationThreshold : Nat
  /-- bad windows in a row that are a slot's death -/
  deathThreshold : Nat
  deriving DecidableEq, Repr, Inhabited

/-- The rules of a configuration. -/
def HeartbeatConfig.rules (h : HeartbeatConfig) : ProbeRules :=
  ⟨h.windowSize.toNat, h.invalidationThreshold.toNat, h.deathThreshold.toNat⟩

/-- What is remembered of a slot's probes. -/
structure ProbeHistory where
  /-- probes in the open window -/
  probes : Nat := 0
  /-- failed probes in the open window -/
  failed : Nat := 0
  /-- bad windows in a row -/
  badWindows : Nat := 0
  isInvalidated : Bool := false
  isDead : Bool := false
  deriving DecidableEq, Repr, Inhabited

namespace ProbeHistory

/-- Nothing has been probed. -/
def fresh : ProbeHistory := {}

/-- Counts a probe in the open window. -/
def count (h : ProbeHistory) (valid : Bool) : ProbeHistory :=
  { h with probes := h.probes + 1, failed := if valid then h.failed else h.failed + 1 }

/-- Invalidates a slot whose open window has become bad. -/
def judge (rules : ProbeRules) (h : ProbeHistory) : Verdict × ProbeHistory :=
  if !h.isInvalidated && rules.invalidationThreshold ≤ h.failed then
    (.invalidated, { h with isInvalidated := true })
  else (.unchanged, h)

/-- Closes a full window, given the verdict on its last probe. -/
def closeWindow (rules : ProbeRules) (verdict : Verdict) (h : ProbeHistory) :
    Verdict × ProbeHistory :=
  let next := { h with probes := 0, failed := 0 }
  if rules.invalidationThreshold ≤ h.failed then
    if rules.deathThreshold ≤ h.badWindows + 1 then
      (.dead, { next with badWindows := 0, isDead := true })
    else (verdict, { next with badWindows := h.badWindows + 1 })
  else if h.isInvalidated then
    (.recovered, { next with badWindows := 0, isInvalidated := false })
  else (verdict, { next with badWindows := 0 })

/-- Takes the outcome of one probe into account. -/
def record (rules : ProbeRules) (h : ProbeHistory) (valid : Bool) : Verdict × ProbeHistory :=
  if h.isDead then
    if valid then (.reinstated, fresh) else (.unchanged, h)
  else
    let (verdict, h) := judge rules (h.count valid)
    if h.probes = rules.windowSize then closeWindow rules verdict h else (verdict, h)

/-- The verdicts on a row of probes, each with the history after it. -/
def run (rules : ProbeRules) : ProbeHistory → List Bool → List (Verdict × ProbeHistory)
  | _, [] => []
  | h, valid :: rest =>
      let step := record rules h valid
      step :: run rules step.2 rest

end ProbeHistory

end TupleWire

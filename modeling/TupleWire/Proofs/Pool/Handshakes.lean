/-
  What waits beside the connections of a pool.

  The requests that a pool has under way wait on its connections and in the
  handshakes of its supervisors, one in each.  `Gauged` says so of the gauge of
  its registry.  Every event keeps it, except that the end of the pool drops the
  handshakes: what they wait for stays in the gauge (`Gauged.tearDown`).
-/
import TupleWire.Proofs.Connection.Gauge
import TupleWire.Proofs.Pool.Closing

set_option autoImplicit false

namespace TupleWire

/-- The handshake that a supervisor has under way. -/
def Supervisor.handshake? : Supervisor → Option Handshake
  | attempting h => h
  | watching _ | resting | stopped => none

namespace Pool

/-- The handshakes that are under way. -/
def handshakes (p : Pool) : List Handshake := p.slots.filterMap fun s => s.supervisor.handshake?

/-- The connections of a pool, and what they share. -/
def fleet (p : Pool) : Fleet := ⟨p.conns, p.shared⟩

/-- Whether an event comes about in the course of things: nobody sets a connection to be closed
without closing it, and nobody else has the connection of a handshake. -/
def Event.IsOrdinary : Event → Prop
  | conn _ action => action ≠ .setLifecycle .closed
  | handshake _ event => event.isInbound = true
  | _ => True

variable {p q : Pool} {now i : Nat} {s : Slot} {base : UInt64} {action : Action} {n : Nat}

/-! ## What is done to connections -/

/-- Whether one pool comes from another by what is done to its connections. -/
def Works (p q : Pool) : Prop := p.fleet.Reaches q.fleet

namespace Works

theorem refl (p : Pool) : Works p p := Fleet.Reaches.refl

theorem trans {r : Pool} (hfirst : Works p q) (hsecond : Works q r) : Works p r :=
  Fleet.Reaches.trans hfirst hsecond

theorem perform (hallowed : action ≠ .setLifecycle .closed) (p : Pool) (now n : Nat) :
    Works p (p.perform now action n) := by
  have hstep := Fleet.Reaches.act (f := p.fleet) .refl n now hallowed
  rw [fleet, Fleet.step_pool] at hstep
  exact hstep

theorem foldl {α : Type} {f : Pool → α → Pool} {as : List α}
    (hf : ∀ p, ∀ a ∈ as, Works p (f p a)) (p : Pool) : Works p (as.foldl f p) :=
  foldl_keeps refl trans hf p

theorem performAll (hallowed : action ≠ .setLifecycle .closed) (p : Pool) (now : Nat)
    (ns : List Nat) : Works p (p.performAll now action ns) :=
  foldl (fun p n _ => perform hallowed p now n) p

theorem performEach (hallowed : action ≠ .setLifecycle .closed) (p : Pool) (now : Nat)
    (ns : List Nat) : Works p (performEach now action p ns).2.2 :=
  performEach_keeps refl trans (fun p n => perform hallowed p now n) p ns

theorem watch (p : Pool) (now : Nat) (key : String) (callback : WatchCallback) :
    Works p (p.watch now key callback).2 := by
  by_cases hclosed : p.isClosed = true
  · rw [watch_of_closed hclosed]
    exact .refl p
  · have heach : Works p (Pool.performEach now (.watch key callback) (p.noted key callback)
        p.installed).2.2 :=
      performEach (by simp) (p.noted key callback) now p.installed
    rw [watch_of_open (by simpa using hclosed)]
    generalize Pool.performEach now (.watch key callback) (p.noted key callback) p.installed =
      outcome at heach ⊢
    obtain ⟨result, reached, q⟩ := outcome
    cases result with
    | ok _ => exact heach
    | error e =>
        exact heach.trans (performAll (by simp) { q with watches := q.watches.erase key } now
          reached)

theorem unwatch (p : Pool) (now : Nat) (key : String) : Works p (p.unwatch now key).2 := by
  by_cases hclosed : p.isClosed = true
  · rw [unwatch_of_closed hclosed]
    exact .refl p
  · rw [unwatch_of_open (by simpa using hclosed)]
    exact performEach (by simp) { p with watches := p.watches.erase key } now p.installed

theorem performOn (hallowed : action ≠ .setLifecycle .closed) (p : Pool) (now : Nat) (s : Slot) :
    Works p (p.performOn now s action) := by
  unfold Pool.performOn
  cases s.conn with
  | none => exact .refl p
  | some n => exact perform hallowed p now n

theorem closeConn (p : Pool) (now n : Nat) : Works p (closeConn now p n) := by
  unfold Pool.closeConn
  have hdrained : Works p (p.perform now .drain n) := perform (by simp) p now n
  split
  · exact .refl p
  · split
    · dsimp only
      split
      · exact hdrained.trans (perform (by simp) _ now n)
      · exact hdrained
    · exact perform (by simp) p now n

theorem close (p : Pool) (now : Nat) : Works p (p.close now) := by
  unfold Pool.close
  split
  · exact .refl p
  · exact foldl (fun p n _ => closeConn p now n)
      { p with isClosed := true, closing := p.installed }

theorem closeDrained (p : Pool) (now n : Nat) : Works p (p.closeDrained now n) := by
  unfold Pool.closeDrained
  split
  · exact perform (by simp) p now n
  · exact .refl p

end Works

/-! ## Slots and their handshakes -/

theorem length_filterMap_cons (s : Slot) (slots : List Slot) :
    ((s :: slots).filterMap fun s => s.supervisor.handshake?).length =
      s.supervisor.handshake?.toList.length +
        (slots.filterMap fun s => s.supervisor.handshake?).length := by
  rw [List.filterMap_cons]
  cases s.supervisor.handshake? with
  | none => exact (Nat.zero_add _).symm
  | some h => exact Nat.add_comm _ 1

/-- A slot that changes loses its handshake and gets another one. -/
theorem length_handshakes_setSlot (hs : p.slots[i]? = some s) (s' : Slot) :
    (p.setSlot i s').handshakes.length + s.supervisor.handshake?.toList.length =
      p.handshakes.length + s'.supervisor.handshake?.toList.length := by
  unfold handshakes setSlot
  dsimp only
  generalize p.slots = slots at hs ⊢
  induction slots generalizing i with
  | nil => cases hs
  | cons t rest ih =>
      cases i with
      | zero =>
          cases hs
          rw [List.set_cons_zero, length_filterMap_cons, length_filterMap_cons]
          omega
      | succ i =>
          have hrest := ih hs
          rw [List.set_cons_succ, length_filterMap_cons, length_filterMap_cons]
          omega

/-- What the gauge of a pool shows that showed something before, when so many handshakes were
dropped. -/
structure Gauged (base : UInt64) (dropped : Nat) (p : Pool) : Prop where
  booked : p.fleet.Booked base (p.handshakes.length + dropped)
  /-- in a handshake nothing waits but the request whose result is awaited -/
  sole {s : Slot} {h : Handshake} : s ∈ p.slots → s.supervisor = .attempting (some h) →
    Attempt.Sole (.going h none)

namespace Gauged

variable {dropped : Nat}

/-- What is done to the connections of a pool. -/
theorem works (h : Gauged base dropped p) (hworks : Works p q) (hslots : q.slots = p.slots) :
    Gauged base dropped q where
  booked := by
    have hsame : q.handshakes = p.handshakes := congrArg (List.filterMap _) hslots
    rw [hsame]
    exact h.booked.reaches hworks
  sole hs hattempting := by
    rw [hslots] at hs
    exact h.sole hs hattempting

end Gauged

/-! ## Supervisors -/

/-- A pool of which a slot is about to change: in the books so many requests stand in the place of
its handshake. -/
structure Changing (base : UInt64) (dropped standing : Nat) (p : Pool) (i : Nat) (s : Slot) :
    Prop where
  found : p.slots[i]? = some s
  booked : ∃ rest, p.handshakes.length + dropped = rest + s.supervisor.handshake?.toList.length ∧
    p.fleet.Booked base (rest + standing)
  sole {s : Slot} {h : Handshake} : s ∈ p.slots → s.supervisor = .attempting (some h) →
    Attempt.Sole (.going h none)

variable {dropped standing : Nat}

theorem Gauged.changing (h : Gauged base dropped p) (hs : p.slots[i]? = some s) :
    Changing base dropped s.supervisor.handshake?.toList.length p i s := by
  have hbefore := length_handshakes_setSlot hs { s with supervisor := .stopped }
  have hle : s.supervisor.handshake?.toList.length ≤ p.handshakes.length := by
    have hnone : ({ s with supervisor := .stopped } : Slot).supervisor.handshake?.toList.length =
        0 := rfl
    omega
  refine ⟨hs, ⟨p.handshakes.length + dropped - s.supervisor.handshake?.toList.length, ?_, ?_⟩,
    h.sole⟩
  · omega
  · have hsame : p.handshakes.length + dropped - s.supervisor.handshake?.toList.length +
        s.supervisor.handshake?.toList.length = p.handshakes.length + dropped := by
      omega
    rw [hsame]
    exact h.booked

namespace Changing

/-- What the attempt of the slot begins and ends changes what stands in its place. -/
theorem settle (h : Changing base dropped standing p i s) {a : Attempt} {effects : List Effect}
    (hsettles : Attempt.Settles standing a effects) :
    Changing base dropped a.waiting { p with shared := p.shared.applyAll effects } i s := by
  obtain ⟨rest, hrest, hbooked⟩ := h.booked
  exact ⟨h.found, ⟨rest, hrest, hbooked.settle hsettles⟩, h.sole⟩

theorem works (h : Changing base dropped standing p i s) (hworks : Works p q)
    (hslots : q.slots = p.slots) : Changing base dropped standing q i s := by
  obtain ⟨rest, hrest, hbooked⟩ := h.booked
  have hsame : q.handshakes = p.handshakes := congrArg (List.filterMap _) hslots
  refine ⟨?_, ⟨rest, ?_, hbooked.reaches hworks⟩, fun {t g} ht hattempting => ?_⟩
  · rw [hslots]
    exact h.found
  · rw [hsame]
    exact hrest
  · rw [hslots] at ht
    exact h.sole ht hattempting

/-- The slot has changed. -/
theorem put (h : Changing base dropped standing p i s) {s' : Slot}
    (hstanding : s'.supervisor.handshake?.toList.length = standing)
    (hnext : ∀ h, s'.supervisor = .attempting (some h) → Attempt.Sole (.going h none)) :
    Gauged base dropped (p.setSlot i s') where
  booked := by
    obtain ⟨rest, hrest, hbooked⟩ := h.booked
    have hlength := length_handshakes_setSlot h.found s'
    have hothers : (p.setSlot i s').handshakes.length + dropped = rest + standing := by
      omega
    rw [hothers]
    exact hbooked
  sole ht hattempting := by
    rcases List.mem_or_eq_of_mem_set ht with ht | rfl
    · exact h.sole ht hattempting
    · exact hnext _ hattempting

/-- The slot has no handshake after that. -/
theorem rest (h : Changing base dropped 0 p i s) {s' : Slot}
    (hnone : s'.supervisor.handshake? = none) : Gauged base dropped (p.setSlot i s') := by
  refine h.put ?_ fun g hattempting => ?_
  · rw [hnone]
    rfl
  · rw [hattempting] at hnone
    cases hnone

theorem pause (h : Changing base dropped 0 p i s) (s' : Slot) :
    Gauged base dropped (p.rest i s').1 := by
  unfold Pool.rest
  split
  · exact h.rest rfl
  · exact h.rest rfl

/-- A connection is installed on which nothing waits. -/
theorem install (h : Changing base dropped 0 p i s) {c : Connection} (hempty : c.pending = .empty)
    (now : Nat) : Gauged base dropped (p.install now i s c).1 := by
  obtain ⟨rest, hrest, hbooked⟩ := h.booked
  have hjoined : Changing base dropped 0 { p with conns := p.conns ++ [c] } i s :=
    ⟨h.found, ⟨rest, hrest, hbooked.join hempty⟩, h.sole⟩
  have hallowed : ∀ action ∈ p.preparations s, action ≠ .setLifecycle .closed := by
    intro action haction
    unfold preparations at haction
    rcases List.mem_append.1 haction with hbarred | hwatched
    · split at hbarred
      · rw [List.mem_singleton.1 hbarred]
        simp
      · cases hbarred
    · split at hwatched
      · obtain ⟨w, _, rfl⟩ := List.mem_map.1 hwatched
        simp
      · cases hwatched
  have hprepared := hjoined.works
    (Works.foldl (fun q action haction => .perform (hallowed action haction) q now p.conns.length)
      _)
    (foldl_ages (fun q action => q.perform_ages now p.conns.length False.elim) (p.preparations s)
      _).slots
  exact hprepared.rest rfl

/-- An attempt that goes on, succeeds or fails. -/
theorem proceed (h : Changing base dropped standing p i s)
    {progress : HandshakeProgress × List Effect}
    (hsettles : Attempt.Settles standing (Attempt.ofProgress progress.1) progress.2) (now : Nat) :
    Gauged base dropped (p.proceed now i s progress).1 := by
  have hsettled := h.settle hsettles
  have hsole := hsettles.sole
  obtain ⟨reached, effects⟩ := progress
  unfold Pool.proceed
  dsimp only at hsettled hsole ⊢
  cases reached with
  | going g =>
      have hone : (Attempt.ofProgress (.going g)).waiting = 1 := hsole.pendingCount_of_going
      rw [hone] at hsettled
      refine hsettled.put rfl fun g' hattempting => ?_
      cases hattempting
      exact hsole
  | failed c cause =>
      rw [hsole.waiting_of_isOver rfl] at hsettled
      exact hsettled.pause s
  | ready c =>
      rw [hsole.waiting_of_isOver rfl] at hsettled
      have hempty : c.pending = .empty := by
        cases hsole with
        | connected hpending => exact hpending
      dsimp only
      unfold Pool.succeed
      split
      · -- The connection comes too late for the pool and is closed again.
        have hclosed := hsettled.settle (Attempt.settles_fail_of_empty hempty now .poolClosed)
        have hnone : (Attempt.ofProgress (Handshake.fail c now .poolClosed).1).waiting = 0 :=
          Attempt.Sole.waiting_of_isOver
            (Attempt.settles_fail_of_empty hempty now .poolClosed).sole rfl
        rw [hnone] at hclosed
        exact hclosed.rest rfl
      · exact hsettled.install hempty now

end Changing

/-- Whatever happens to the supervisor of a slot. -/
theorem Gauged.stepSlot (h : Gauged base dropped p) (hs : p.slots[i]? = some s) (now : Nat)
    {event : Event} (hordinary : event.IsOrdinary) :
    Gauged base dropped (p.stepSlot now i s event).1 := by
  have hchanging := h.changing hs
  have hnone (hsupervisor : s.supervisor.handshake? = none) : Changing base dropped 0 p i s := by
    rw [hsupervisor] at hchanging
    exact hchanging
  cases event with
  | greeted target requestTimeout raw =>
      simp only [Pool.stepSlot]
      split
      · rename_i hsupervisor
        have hidle := hnone (by rw [hsupervisor]; rfl)
        cases hgreeted : Connection.greeted s.group s.index requestTimeout now raw with
        | error cause => exact hidle.pause s
        | ok progress => exact hidle.proceed (Attempt.settles_greeted hgreeted) now
      · exact h
  | handshake target event =>
      simp only [Pool.stepSlot]
      split
      · rename_i g hsupervisor
        have hsole := h.sole (List.mem_of_getElem? hs) hsupervisor
        have hsettles := hsole.onEvent hordinary now
        rw [hsole.pendingCount_of_going] at hsettles
        rw [hsupervisor] at hchanging
        exact hchanging.proceed hsettles now
      · exact h
  | unreachable target cause =>
      simp only [Pool.stepSlot]
      split
      · rename_i hsupervisor
        exact (hnone (by rw [hsupervisor]; rfl)).pause s
      · exact h
  | lost target =>
      simp only [Pool.stepSlot]
      split
      · rename_i conn hsupervisor
        have hidle := hnone (by rw [hsupervisor]; rfl)
        split
        · unfold Pool.notice
          dsimp only
          split
          · exact hidle.rest rfl
          · exact hidle.pause _
        · exact h
      · exact h
  | dismissed target =>
      simp only [Pool.stepSlot]
      split
      · rename_i conn hsupervisor
        split
        · exact (hnone (by rw [hsupervisor]; rfl)).rest rfl
        · exact h
      · rename_i hsupervisor
        split
        · exact (hnone (by rw [hsupervisor]; rfl)).rest rfl
        · exact h
      · exact h
  | rested target =>
      simp only [Pool.stepSlot]
      split
      · rename_i hsupervisor
        refine (hnone (by rw [hsupervisor]; rfl)).rest ?_
        dsimp only
        split
        · rfl
        · rfl
      · exact h
  | conn n action | probed target valid | watch key callback | unwatch key | close | drained n
  | graceOver | tearDown => exact h

/-! ## Probes -/

/-- The marks of a slot have nothing to do with its handshake. -/
theorem Gauged.mark (h : Gauged base dropped p) (hs : p.slots[i]? = some s) {s' : Slot}
    (hsupervisor : s'.supervisor = s.supervisor) : Gauged base dropped (p.setSlot i s') := by
  refine (h.changing hs).put ?_ fun g hattempting => ?_
  · rw [hsupervisor]
  · rw [hsupervisor] at hattempting
    exact h.sole (List.mem_of_getElem? hs) hattempting

theorem Gauged.applyVerdict (h : Gauged base dropped p) (hs : p.slots[i]? = some s) (now : Nat)
    (verdict : Verdict) : Gauged base dropped (p.applyVerdict now i s verdict).1 := by
  have hmarked (s' : Slot) (hsupervisor : s'.supervisor = s.supervisor) {action : Action}
      (hallowed : action ≠ .setLifecycle .closed) (hleaves : action.leavesWatches) :
      Gauged base dropped ((p.setSlot i s').performOn now s action) :=
    (h.mark hs hsupervisor).works (.performOn hallowed _ now s)
      (performOn_ages hleaves (p.setSlot i s') now s).slots
  cases verdict with
  | unchanged => exact h
  | invalidated =>
      rw [Pool.applyVerdict, invalidate]
      split
      · exact h
      · exact hmarked { s with isQuarantined := true } rfl (by simp)
          (Action.leavesWatches_setLifecycle .degraded)
  | recovered =>
      rw [Pool.applyVerdict, recover]
      split
      · exact h
      · exact hmarked { s with isQuarantined := false } rfl (by simp)
          (Action.leavesWatches_setLifecycle .ready)
  | dead =>
      simp only [Pool.applyVerdict, evict]
      split
      · exact h.mark hs rfl
      · exact hmarked { s with isQuarantined := true, isEvicted := true } rfl (by simp)
          Action.leavesWatches_shutdown
  | reinstated =>
      rw [Pool.applyVerdict, reinstate]
      split
      · exact h
      · exact hmarked { s with isQuarantined := false, isEvicted := false } rfl (by simp)
          (Action.leavesWatches_setLifecycle .ready)

theorem Gauged.probed (h : Gauged base dropped p) (now i : Nat) (valid : Bool) :
    Gauged base dropped (p.probed now i valid).1 := by
  unfold Pool.probed
  cases hs : p.slots[i]? with
  | none => exact h
  | some s =>
      have hlt : i < p.slots.length := (List.getElem?_eq_some_iff.1 hs).1
      have hmarked : Gauged base dropped (p.setSlot i
          { s with history := (s.history.record p.config.rules valid).2 }) := h.mark hs rfl
      exact hmarked.applyVerdict (List.getElem?_set_self hlt) now _

/-! ## Steps -/

namespace Gauged

/-- The end of a pool drops the handshakes that are under way. -/
theorem tearDown (h : Gauged base dropped p) (hcan : p.canTearDown = true) (now : Nat) :
    Gauged base (dropped + p.handshakes.length) (p.tearDown now).1 := by
  let shut := p.performAll now .shutdown p.installed
  let emptied : Pool := { shut with
    slots := shut.slots.map fun s => { s with conn := none, supervisor := .stopped }
    isTornDown := true }
  have hshut : Works p shut := .performAll (by simp) p now p.installed
  have hnone : emptied.handshakes = [] := by
    unfold handshakes
    rw [List.filterMap_map, List.filterMap_eq_nil_iff]
    intro s _
    rfl
  have htorn : (p.tearDown now).1 = emptied := by
    rw [Pool.tearDown, if_pos hcan]
    rfl
  rw [htorn]
  refine ⟨?_, fun {s g} hs hattempting => ?_⟩
  · rw [hnone, List.length_nil, Nat.zero_add, Nat.add_comm]
    exact h.booked.reaches hshut
  · obtain ⟨t, _, rfl⟩ := List.mem_map.1 hs
    cases hattempting

/-- Whatever else happens drops no handshake. -/
theorem step (h : Gauged base dropped p) (now : Nat) {event : Event}
    (hordinary : event.IsOrdinary) (htear : event ≠ .tearDown) :
    Gauged base dropped (p.step now event).1 := by
  have hslot {target : Nat} (htarget : event.position? = some target) :
      Gauged base dropped (p.step now event).1 := by
    rcases p.step_of_position? htarget with hstep | ⟨s, hs, hstep⟩
    · rw [hstep]
      exact h
    · rw [hstep]
      exact h.stepSlot hs now hordinary
  cases event with
  | conn n action =>
      have hages : Ages False p (p.perform now action n) := p.perform_ages now n False.elim
      exact h.works (.perform hordinary p now n) hages.slots
  | greeted target requestTimeout raw => exact hslot rfl
  | handshake target event => exact hslot rfl
  | unreachable target cause => exact hslot rfl
  | lost target => exact hslot rfl
  | dismissed target => exact hslot rfl
  | rested target => exact hslot rfl
  | probed target valid => exact h.probed now target valid
  | watch key callback =>
      obtain ⟨watches, hages⟩ := p.watch_ages now key callback
      exact h.works (.watch p now key callback) hages.slots
  | unwatch key =>
      obtain ⟨watches, hages⟩ := p.unwatch_ages now key
      exact h.works (.unwatch p now key) hages.slots
  | close =>
      have hslots : (p.close now).slots = p.slots := by
        cases hclosed : p.isClosed with
        | true => rw [Pool.close, if_pos hclosed]
        | false => exact (close_of_open hclosed now).slots
      exact h.works (.close p now) hslots
  | drained n => exact h.works (.closeDrained p now n) (p.closeDrained_ages now n).slots
  | graceOver =>
      exact h.works (.performAll (by simp) p now p.closing) (p.shutdownAll_ages now p.closing).slots
  | tearDown => exact absurd rfl htear

end Gauged

end Pool

end TupleWire

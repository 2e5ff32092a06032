/-
  A slot by itself.

  `LoneSlot` is what there is to a slot apart from its siblings and from the
  numbers of its connections, and `LoneSlot.step` what becomes of it and what it
  tells when something happens to it.  `step_alone` says that this is all that a
  pool does with a slot: whatever happens to the others, a slot of a pool goes
  on as it would by itself with what happens to it.  So what is told of a slot
  is a function of what happens to that slot.
-/
import TupleWire.Proofs.Pool.Shift

set_option autoImplicit false

namespace TupleWire

/-! ## A slot without siblings -/

/-- What is done to keep a slot connected, whatever the number of its connection. -/
inductive Duty where
  /-- to wait for the connection to be closed -/
  | watching
  /-- to connect; the handshake, once the server has greeted -/
  | attempting (handshake : Option Handshake)
  /-- to wait before the next attempt -/
  | resting
  | stopped

/-- What a supervisor does. -/
def Supervisor.duty : Supervisor → Duty
  | .watching _ => .watching
  | .attempting h => .attempting h
  | .resting => .resting
  | .stopped => .stopped

/-- A slot without siblings. -/
structure LoneSlot where
  group : Group
  index : Nat
  duty : Duty
  history : ProbeHistory
  isQuarantined : Bool
  isEvicted : Bool
  /-- its pool is closed -/
  isClosed : Bool

/-- A slot without its siblings, in a pool that is closed or not. -/
def Slot.alone (s : Slot) (isClosed : Bool) : LoneSlot :=
  ⟨s.group, s.index, s.supervisor.duty, s.history, s.isQuarantined, s.isEvicted, isClosed⟩

namespace LoneSlot

/-- Something that happens to a slot, or to its pool as a whole. -/
inductive Occurrence where
  /-- the server of its attempt greeted -/
  | greeted (now : Nat) (requestTimeout : Duration) (raw : Bytes)
  /-- something happens to the handshake of its attempt -/
  | handshake (now : Nat) (event : Handshake.Event)
  /-- its attempt failed before the handshake -/
  | unreachable (cause : ClientError)
  /-- its supervisor notices that its connection is closed -/
  | lost
  /-- its supervisor notices that the pool is closed -/
  | dismissed
  /-- the delay before its attempt is over -/
  | rested
  /-- a probe of it was answered, or not -/
  | probed (valid : Bool)
  /-- the pool is closed -/
  | closed
  /-- the pool is torn down -/
  | tornDown

/-- Turns to something else. -/
def turnTo (l : LoneSlot) (duty : Duty) : LoneSlot := { l with duty }

/-- Waits for the next attempt, unless the pool is closed. -/
def rest (delay : Duration) (l : LoneSlot) : LoneSlot × List SlotEvent :=
  if l.isClosed then (l.turnTo .stopped, []) else (l.turnTo .resting, [.reconnecting delay])

/-- An attempt failed. -/
def fail (delay : Duration) (l : LoneSlot) (cause : ClientError) : LoneSlot × List SlotEvent :=
  ((l.rest delay).1, .connectFailed cause :: (l.rest delay).2)

/-- Goes on with an attempt. -/
def proceed (delay : Duration) (l : LoneSlot) : HandshakeProgress → LoneSlot × List SlotEvent
  | .going h => (l.turnTo (.attempting (some h)), [])
  | .ready _ =>
      if l.isClosed then (l.turnTo .stopped, []) else (l.turnTo .watching, [.connected])
  | .failed _ cause => l.fail delay cause

/-- Notices the loss of the connection. -/
def notice (delay : Duration) (l : LoneSlot) : LoneSlot × List SlotEvent :=
  if l.isClosed then (l.turnTo .stopped, [])
  else ((l.rest delay).1, .disconnected :: (l.rest delay).2)

/-- Does what a verdict asks for. -/
def applyVerdict (l : LoneSlot) : Verdict → LoneSlot × List SlotEvent
  | .unchanged => (l, [])
  | .invalidated =>
      if l.isQuarantined then (l, []) else ({ l with isQuarantined := true }, [.invalidated])
  | .recovered =>
      if l.isEvicted || !l.isQuarantined then (l, [])
      else ({ l with isQuarantined := false }, [.recovered])
  | .dead =>
      ({ l with isQuarantined := true, isEvicted := true }, if l.isEvicted then [] else [.evicted])
  | .reinstated =>
      if !l.isEvicted then (l, [])
      else ({ l with isQuarantined := false, isEvicted := false }, [.reinstated])

/-- Takes the outcome of a probe into account. -/
def probed (rules : ProbeRules) (l : LoneSlot) (valid : Bool) : LoneSlot × List SlotEvent :=
  { l with history := (l.history.record rules valid).2 }.applyVerdict
    (l.history.record rules valid).1

/-- What becomes of a slot when something happens to it, and what it tells. -/
def step (config : PoolConfig) (l : LoneSlot) : Occurrence → LoneSlot × List SlotEvent
  | .greeted now requestTimeout raw =>
      match l.duty with
      | .attempting none =>
          match Connection.greeted l.group l.index requestTimeout now raw with
          | .error cause => l.fail config.reconnectDelay cause
          | .ok progress => l.proceed config.reconnectDelay progress.1
      | _ => (l, [])
  | .handshake now event =>
      match l.duty with
      | .attempting (some h) => l.proceed config.reconnectDelay (h.onEvent now event).1
      | _ => (l, [])
  | .unreachable cause =>
      match l.duty with
      | .attempting none => l.fail config.reconnectDelay cause
      | _ => (l, [])
  | .lost =>
      match l.duty with
      | .watching => l.notice config.reconnectDelay
      | _ => (l, [])
  | .dismissed =>
      match l.duty with
      | .watching | .resting => if l.isClosed then (l.turnTo .stopped, []) else (l, [])
      | _ => (l, [])
  | .rested =>
      match l.duty with
      | .resting => (l.turnTo (if l.isClosed then .stopped else .attempting none), [])
      | _ => (l, [])
  | .probed valid => l.probed config.rules valid
  | .closed => ({ l with isClosed := true }, [])
  | .tornDown => (l.turnTo .stopped, [])

/-- What becomes of a slot by what may happen to it. -/
def stepIf (config : PoolConfig) (l : LoneSlot) :
    Option Occurrence → LoneSlot × List SlotEvent
  | none => (l, [])
  | some occurrence => l.step config occurrence

/-- Goes through what happens, and collects what the slot tells. -/
def run (config : PoolConfig) (l : LoneSlot) : List Occurrence → LoneSlot × List SlotEvent
  | [] => (l, [])
  | occurrence :: rest =>
      let (l, told) := l.step config occurrence
      let (l, more) := run config l rest
      (l, told ++ more)

/-- What may happen first, and then the rest. -/
theorem run_toList_append (config : PoolConfig) (l : LoneSlot) (first : Option Occurrence)
    (rest : List Occurrence) : l.run config (first.toList ++ rest) =
      (((l.stepIf config first).1.run config rest).1,
        (l.stepIf config first).2 ++ ((l.stepIf config first).1.run config rest).2) := by
  cases first with
  | none => rfl
  | some occurrence => rfl

end LoneSlot

/-! ## The slots of a pool -/

/-- What an event tells of the slot of a tag and an index. -/
def PoolEvent.of? (tag : String) (index : Nat) : PoolEvent → Option SlotEvent
  | .slot tag' index' event => if tag' = tag ∧ index' = index then some event else none
  | .closed => none

/-- What events tell of a slot. -/
def Slot.toldIn (s : Slot) (events : List PoolEvent) : List SlotEvent :=
  events.filterMap (PoolEvent.of? s.group.tag s.index)

/-- By what a slot is known to those who listen. -/
def Slot.name (s : Slot) : String × Nat := (s.group.tag, s.index)

theorem Slot.toldIn_append (s : Slot) (first second : List PoolEvent) :
    s.toldIn (first ++ second) = s.toldIn first ++ s.toldIn second :=
  List.filterMap_append

theorem Slot.toldIn_congr {s t : Slot} (h : t.name = s.name) (events : List PoolEvent) :
    t.toldIn events = s.toldIn events := by
  obtain ⟨htag, hindex⟩ := Prod.mk.inj h
  rw [toldIn, htag, hindex]
  rfl

/-- A slot tells what it tells. -/
theorem Slot.toldIn_map_tell (s : Slot) (told : List SlotEvent) :
    s.toldIn (told.map s.tell) = told := by
  rw [toldIn, List.filterMap_map]
  simp [Function.comp_def, PoolEvent.of?, Slot.tell]

/-- A slot of another name tells nothing of it. -/
theorem Slot.toldIn_map_tell_of_ne {s t : Slot} (h : t.name ≠ s.name) (told : List SlotEvent) :
    s.toldIn (told.map t.tell) = [] := by
  rw [toldIn, List.filterMap_map, List.filterMap_eq_nil_iff]
  intro event _
  have hother : ¬ (t.group.tag = s.group.tag ∧ t.index = s.index) := by
    rintro ⟨htag, hindex⟩
    exact h (Prod.ext htag hindex)
  simp [PoolEvent.of?, Slot.tell, hother]

namespace Pool

/-- Whether no two slots have one name. -/
def HasNames (p : Pool) : Prop := (p.slots.map Slot.name).Nodup

/-- Whether the connection that the supervisor in a position watches over is closed. -/
def hasLost (p : Pool) (position : Nat) : Bool :=
  (p.slots[position]?).any fun s =>
    match s.supervisor with
    | .watching conn => p.isConnClosed conn
    | .attempting _ | .resting | .stopped => false

/-- What an event is to the slot in a position, if it is anything to it. -/
def occurrence? (p : Pool) (position now : Nat) : Event → Option LoneSlot.Occurrence
  | .greeted target requestTimeout raw =>
      if target = position then some (.greeted now requestTimeout raw) else none
  | .handshake target event => if target = position then some (.handshake now event) else none
  | .unreachable target cause => if target = position then some (.unreachable cause) else none
  | .lost target => if target = position ∧ p.hasLost position then some .lost else none
  | .dismissed target => if target = position then some .dismissed else none
  | .rested target => if target = position then some .rested else none
  | .probed target valid => if target = position then some (.probed valid) else none
  | .close => some .closed
  | .tearDown => if p.canTearDown then some .tornDown else none
  | .conn _ _ | .watch _ _ | .unwatch _ | .drained _ | .graceOver => none

/-- What happens to the slot in a position in the course of events. -/
def occurrences (position : Nat) : Pool → List (Nat × Event) → List LoneSlot.Occurrence
  | _, [] => []
  | p, (now, event) :: rest =>
      (p.occurrence? position now event).toList ++
        occurrences position (p.step now event).1 rest

/-! ## What happens to one slot -/

/-- A pool does to the slot in a position what becomes of it by itself, and tells the same. -/
structure Sets (p : Pool) (position : Nat) (s : Slot) (outcome : Pool × List PoolEvent)
    (lone : LoneSlot × List SlotEvent) : Prop where
  config : outcome.1.config = p.config
  isClosed : outcome.1.isClosed = p.isClosed
  slot : ∃ s', outcome.1.slots = p.slots.set position s' ∧ s'.name = s.name ∧
    s'.alone p.isClosed = lone.1
  told : outcome.2 = lone.2.map s.tell

variable {p q : Pool} {now position : Nat} {s : Slot}

theorem supervise_sets (p : Pool) (position : Nat) (s : Slot) (next : Supervisor) :
    Sets p position s (p.supervise position s next, [])
      ((s.alone p.isClosed).turnTo next.duty, []) :=
  ⟨rfl, rfl, ⟨{ s with supervisor := next }, rfl, rfl, rfl⟩, rfl⟩

/-- A slot that stays as it is. -/
theorem still_sets (hs : p.slots[position]? = some s) :
    Sets p position s (p, []) (s.alone p.isClosed, []) := by
  refine ⟨rfl, rfl, ⟨s, ?_, rfl, rfl⟩, rfl⟩
  obtain ⟨hlt, hs⟩ := List.getElem?_eq_some_iff.1 hs
  rw [← hs, List.set_getElem_self]

theorem rest_sets (p : Pool) (position : Nat) (s : Slot) :
    Sets p position s (p.rest position s)
      ((s.alone p.isClosed).rest p.config.reconnectDelay) := by
  unfold rest LoneSlot.rest
  have hclosed : (s.alone p.isClosed).isClosed = p.isClosed := rfl
  rw [hclosed]
  split
  · exact p.supervise_sets position s .stopped
  · obtain ⟨hconfig, hclosed, hslot, _⟩ := p.supervise_sets position s .resting
    exact ⟨hconfig, hclosed, hslot, rfl⟩

theorem fail_sets (p : Pool) (position : Nat) (s : Slot) (cause : ClientError) :
    Sets p position s (p.fail position s cause)
      ((s.alone p.isClosed).fail p.config.reconnectDelay cause) := by
  obtain ⟨hconfig, hclosed, hslot, htold⟩ := p.rest_sets position s
  exact ⟨hconfig, hclosed, hslot, congrArg (s.tell (.connectFailed cause) :: ·) htold⟩

/-- What connections share is nothing to a slot. -/
theorem Sets.of_shared {shared : Shared} {outcome : Pool × List PoolEvent}
    {lone : LoneSlot × List SlotEvent} (h : Sets { p with shared } position s outcome lone) :
    Sets p position s outcome lone :=
  ⟨h.config, h.isClosed, h.slot, h.told⟩

theorem notice_sets (p : Pool) (position : Nat) (s : Slot) (conn : Nat) :
    Sets p position s (p.notice position s conn)
      ((s.alone p.isClosed).notice p.config.reconnectDelay) := by
  let emptied : Slot := { s with conn := s.conn.filter (· ≠ conn) }
  by_cases hclosed : p.isClosed = true
  · have hpool : p.notice position s conn = (p.supervise position emptied .stopped, []) :=
      if_pos hclosed
    have hlone : (s.alone p.isClosed).notice p.config.reconnectDelay =
        ((s.alone p.isClosed).turnTo .stopped, []) := if_pos hclosed
    rw [hpool, hlone]
    exact ⟨rfl, rfl, ⟨{ emptied with supervisor := .stopped }, rfl, rfl, rfl⟩, rfl⟩
  · have hpool : p.notice position s conn = ((p.rest position emptied).1,
        s.tell .disconnected :: (p.rest position emptied).2) := if_neg hclosed
    have hlone : (s.alone p.isClosed).notice p.config.reconnectDelay =
        (((s.alone p.isClosed).rest p.config.reconnectDelay).1,
          .disconnected :: ((s.alone p.isClosed).rest p.config.reconnectDelay).2) :=
      if_neg hclosed
    obtain ⟨hconfig, hsame, hslot, htold⟩ := p.rest_sets position emptied
    rw [hpool, hlone]
    exact ⟨hconfig, hsame, hslot, congrArg (s.tell .disconnected :: ·) htold⟩

theorem install_sets (p : Pool) (now position : Nat) (s : Slot) (c : Connection) :
    Sets p position s (p.install now position s c)
      ((s.alone p.isClosed).turnTo .watching, [.connected]) := by
  obtain ⟨q, hages, _, _, hinstall⟩ := p.install_parts now position s c
  rw [hinstall]
  exact ⟨hages.config, hages.isClosed,
    ⟨{ s with conn := some p.conns.length, supervisor := .watching p.conns.length },
      congrArg (List.set · position _) hages.slots, rfl, rfl⟩, rfl⟩

/-- A connection that is ready is installed, or given up in a closed pool. -/
theorem succeed_sets (p : Pool) (now position : Nat) (s : Slot) (c : Connection) :
    Sets p position s (p.succeed now position s c)
      ((s.alone p.isClosed).proceed p.config.reconnectDelay (.ready c)) := by
  by_cases hclosed : p.isClosed = true
  · have hlone : (s.alone p.isClosed).proceed p.config.reconnectDelay (.ready c) =
        ((s.alone p.isClosed).turnTo .stopped, []) := if_pos hclosed
    rw [succeed, if_pos hclosed, hlone]
    exact ⟨rfl, rfl, ⟨{ s with supervisor := .stopped }, rfl, rfl, rfl⟩, rfl⟩
  · have hlone : (s.alone p.isClosed).proceed p.config.reconnectDelay (.ready c) =
        ((s.alone p.isClosed).turnTo .watching, [.connected]) := if_neg hclosed
    rw [succeed, if_neg hclosed, hlone]
    exact p.install_sets now position s c

theorem proceed_sets (p : Pool) (now position : Nat) (s : Slot)
    (progress : HandshakeProgress × List Effect) :
    Sets p position s (p.proceed now position s progress)
      ((s.alone p.isClosed).proceed p.config.reconnectDelay progress.1) := by
  obtain ⟨reached, effects⟩ := progress
  let shared := p.shared.applyAll effects
  cases reached with
  | going h => exact ⟨rfl, rfl, ⟨{ s with supervisor := .attempting (some h) }, rfl, rfl, rfl⟩, rfl⟩
  | failed c cause => exact .of_shared ({ p with shared }.fail_sets position s cause)
  | ready c => exact .of_shared ({ p with shared }.succeed_sets now position s c)

/-- A verdict does to the slot of a pool what it does to the slot by itself. -/
theorem applyVerdict_sets (hs : p.slots[position]? = some s) (now : Nat) (verdict : Verdict) :
    Sets p position s (p.applyVerdict now position s verdict)
      ((s.alone p.isClosed).applyVerdict verdict) := by
  have hstill : Sets p position s (p, []) (s.alone p.isClosed, []) := still_sets hs
  have hmarked (t : Slot) (ht : t.name = s.name) (action : Action) (told : List SlotEvent) :
      Sets p position s ((p.setSlot position t).performOn now s action, told.map s.tell)
        (t.alone p.isClosed, told) := by
    rw [performOn_setSlot]
    unfold performOn
    cases s.conn with
    | none => exact ⟨rfl, rfl, ⟨t, rfl, ht, rfl⟩, rfl⟩
    | some n =>
        obtain ⟨hconfig, hslots, hclosed, _⟩ := p.frame_perform now action n
        exact ⟨hconfig, hclosed, ⟨t, congrArg (List.set · position t) hslots, ht, rfl⟩, rfl⟩
  cases verdict with
  | unchanged => exact hstill
  | invalidated =>
      let t : Slot := { s with isQuarantined := true }
      by_cases hmarks : s.isQuarantined = true
      · have hpool : p.invalidate now position s = (p, []) := if_pos hmarks
        have hlone : (s.alone p.isClosed).applyVerdict .invalidated =
            (s.alone p.isClosed, []) := if_pos hmarks
        rw [applyVerdict, hpool, hlone]
        exact hstill
      · have hlone : (s.alone p.isClosed).applyVerdict .invalidated =
            (t.alone p.isClosed, [.invalidated]) := if_neg hmarks
        rw [applyVerdict, invalidate, if_neg hmarks, hlone]
        exact hmarked t rfl _ [.invalidated]
  | recovered =>
      let t : Slot := { s with isQuarantined := false }
      by_cases hmarks : (s.isEvicted || !s.isQuarantined) = true
      · have hpool : p.recover now position s = (p, []) := if_pos hmarks
        have hlone : (s.alone p.isClosed).applyVerdict .recovered =
            (s.alone p.isClosed, []) := if_pos hmarks
        rw [applyVerdict, hpool, hlone]
        exact hstill
      · have hlone : (s.alone p.isClosed).applyVerdict .recovered =
            (t.alone p.isClosed, [.recovered]) := if_neg hmarks
        rw [applyVerdict, recover, if_neg hmarks, hlone]
        exact hmarked t rfl _ [.recovered]
  | dead =>
      let t : Slot := { s with isQuarantined := true, isEvicted := true }
      by_cases hmarks : s.isEvicted = true
      · have hpool : p.evict now position s = (p.setSlot position t, []) := if_pos hmarks
        have hlone : (s.alone p.isClosed).applyVerdict .dead = (t.alone p.isClosed, []) :=
          congrArg (t.alone p.isClosed, ·) (if_pos hmarks)
        rw [applyVerdict, hpool, hlone]
        exact ⟨rfl, rfl, ⟨t, rfl, rfl, rfl⟩, rfl⟩
      · have hpool : p.evict now position s =
            ((p.setSlot position t).performOn now s .shutdown, [s.tell .evicted]) :=
          if_neg hmarks
        have hlone : (s.alone p.isClosed).applyVerdict .dead =
            (t.alone p.isClosed, [.evicted]) :=
          congrArg (t.alone p.isClosed, ·) (if_neg hmarks)
        rw [applyVerdict, hpool, hlone]
        exact hmarked t rfl _ [.evicted]
  | reinstated =>
      let t : Slot := { s with isQuarantined := false, isEvicted := false }
      by_cases hmarks : (!s.isEvicted) = true
      · have hpool : p.reinstate now position s = (p, []) := if_pos hmarks
        have hlone : (s.alone p.isClosed).applyVerdict .reinstated =
            (s.alone p.isClosed, []) := if_pos hmarks
        rw [applyVerdict, hpool, hlone]
        exact hstill
      · have hlone : (s.alone p.isClosed).applyVerdict .reinstated =
            (t.alone p.isClosed, [.reinstated]) := if_neg hmarks
        rw [applyVerdict, reinstate, if_neg hmarks, hlone]
        exact hmarked t rfl _ [.reinstated]

theorem probed_sets (hs : p.slots[position]? = some s) (now : Nat) (valid : Bool) :
    Sets p position s (p.probed now position valid)
      ((s.alone p.isClosed).probed p.config.rules valid) := by
  have hlt : position < p.slots.length := (List.getElem?_eq_some_iff.1 hs).1
  let judged := s.history.record p.config.rules valid
  let t : Slot := { s with history := judged.2 }
  have ht : (p.setSlot position t).slots[position]? = some t := List.getElem?_set_self hlt
  obtain ⟨hconfig, hclosed, ⟨t', hslots, hname, halone⟩, htold⟩ :=
    applyVerdict_sets ht now judged.1
  rw [probed, hs]
  refine ⟨hconfig, hclosed, ⟨t', ?_, hname, halone⟩, htold⟩
  show ((p.setSlot position t).applyVerdict now position t judged.1).1.slots = _
  rw [hslots, setSlot, List.set_set]

/-- What happens to the supervisor of a slot is all that becomes of the slot. -/
theorem stepSlot_sets (hs : p.slots[position]? = some s) (now : Nat) {event : Event}
    (hposition : event.position? = some position) :
    Sets p position s (p.stepSlot now position s event)
      ((s.alone p.isClosed).stepIf p.config (p.occurrence? position now event)) := by
  have hstill : Sets p position s (p, []) (s.alone p.isClosed, []) := still_sets hs
  have hduty : (s.alone p.isClosed).duty = s.supervisor.duty := rfl
  cases event with
  | greeted target requestTimeout raw =>
      cases hposition
      simp only [occurrence?, if_true, LoneSlot.stepIf, LoneSlot.step, hduty, stepSlot]
      cases s.supervisor with
      | attempting h =>
          cases h with
          | some h => exact hstill
          | none =>
              show Sets p _ s (match Connection.greeted s.group s.index requestTimeout now raw with
                | .error cause => p.fail _ s cause
                | .ok progress => p.proceed now _ s progress)
                (match Connection.greeted s.group s.index requestTimeout now raw with
                | .error cause => (s.alone p.isClosed).fail p.config.reconnectDelay cause
                | .ok progress =>
                    (s.alone p.isClosed).proceed p.config.reconnectDelay progress.1)
              cases Connection.greeted s.group s.index requestTimeout now raw with
              | error cause => exact p.fail_sets _ s cause
              | ok progress => exact p.proceed_sets now _ s progress
      | watching n | resting | stopped => exact hstill
  | handshake target event =>
      cases hposition
      simp only [occurrence?, if_true, LoneSlot.stepIf, LoneSlot.step, hduty, stepSlot]
      cases s.supervisor with
      | attempting h =>
          cases h with
          | some h => exact p.proceed_sets now _ s (h.onEvent now event)
          | none => exact hstill
      | watching n | resting | stopped => exact hstill
  | unreachable target cause =>
      cases hposition
      simp only [occurrence?, if_true, LoneSlot.stepIf, LoneSlot.step, hduty, stepSlot]
      cases s.supervisor with
      | attempting h =>
          cases h with
          | some h => exact hstill
          | none => exact p.fail_sets _ s cause
      | watching n | resting | stopped => exact hstill
  | lost target =>
      cases hposition
      simp only [occurrence?, true_and, hasLost, hs, Option.any_some, stepSlot]
      cases hsupervisor : s.supervisor with
      | watching n =>
          simp only
          by_cases hclosed : p.isConnClosed n = true
          · rw [if_pos hclosed, if_pos hclosed]
            simp only [LoneSlot.stepIf, LoneSlot.step, hduty, hsupervisor, Supervisor.duty]
            exact p.notice_sets _ s n
          · rw [if_neg hclosed, if_neg hclosed]
            exact hstill
      | attempting h | resting | stopped => exact hstill
  | dismissed target =>
      cases hposition
      simp only [occurrence?, if_true, LoneSlot.stepIf, LoneSlot.step, hduty, stepSlot]
      have hstop : Sets p position s
          (if p.isClosed then (p.supervise position s .stopped, []) else (p, []))
          (if (s.alone p.isClosed).isClosed then ((s.alone p.isClosed).turnTo .stopped, [])
            else (s.alone p.isClosed, [])) := by
        have hsame : (s.alone p.isClosed).isClosed = p.isClosed := rfl
        rw [hsame]
        by_cases hclosed : p.isClosed = true
        · rw [if_pos hclosed, if_pos hclosed]
          exact p.supervise_sets _ s .stopped
        · rw [if_neg hclosed, if_neg hclosed]
          exact hstill
      cases s.supervisor with
      | watching n | resting => exact hstop
      | attempting h | stopped => exact hstill
  | rested target =>
      cases hposition
      simp only [occurrence?, if_true, LoneSlot.stepIf, LoneSlot.step, hduty, stepSlot]
      cases s.supervisor with
      | resting =>
          have hnext : (if (s.alone p.isClosed).isClosed then Duty.stopped
              else .attempting none) =
                (if p.isClosed then Supervisor.stopped else .attempting none).duty := by
            show (if p.isClosed then Duty.stopped else .attempting none) = _
            split
            · rfl
            · rfl
          simp only [Supervisor.duty]
          rw [hnext]
          exact p.supervise_sets _ s _
      | watching n | attempting h | stopped => exact hstill
  | conn n action | probed target valid | watch key callback | unwatch key | close | drained n
  | graceOver | tearDown => cases hposition

/-! ## What happens to every slot -/

/-- Slots in different positions have different names. -/
theorem HasNames.name_ne (h : p.HasNames) {i j : Nat} {t : Slot} (hs : p.slots[i]? = some s)
    (ht : p.slots[j]? = some t) (hij : i ≠ j) : s.name ≠ t.name := by
  have hbefore {i j : Nat} {s t : Slot} (hs : p.slots[i]? = some s) (ht : p.slots[j]? = some t)
      (hlt : i < j) : s.name ≠ t.name := by
    obtain ⟨hi, rfl⟩ := List.getElem?_eq_some_iff.1 hs
    obtain ⟨hj, rfl⟩ := List.getElem?_eq_some_iff.1 ht
    exact List.pairwise_iff_getElem.1 (List.pairwise_map.1 h) i j hi hj hlt
  rcases Nat.lt_or_gt_of_ne hij with hlt | hgt
  · exact hbefore hs ht hlt
  · exact (hbefore ht hs hgt).symm

namespace Sets

variable {outcome : Pool × List PoolEvent} {lone : LoneSlot × List SlotEvent}

theorem names (h : Sets p position s outcome lone) (hs : p.slots[position]? = some s) :
    outcome.1.slots.map Slot.name = p.slots.map Slot.name := by
  obtain ⟨s', hslots, hname, _⟩ := h.slot
  obtain ⟨hlt, hat⟩ := List.getElem?_eq_some_iff.1 hs
  have hsame : p.slots = p.slots.set position s := by rw [← hat, List.set_getElem_self]
  rw [hslots, List.map_set, hname, ← List.map_set, ← hsame]

/-- The slot itself. -/
theorem there (h : Sets p position s outcome lone) (hs : p.slots[position]? = some s) :
    ∃ t, outcome.1.slots[position]? = some t ∧ t.name = s.name ∧
      (t.alone outcome.1.isClosed, s.toldIn outcome.2) = lone := by
  obtain ⟨s', hslots, hname, halone⟩ := h.slot
  have hlt : position < p.slots.length := (List.getElem?_eq_some_iff.1 hs).1
  refine ⟨s', ?_, hname, ?_⟩
  · rw [hslots, List.getElem?_set_self hlt]
  · rw [h.isClosed, halone, h.told, Slot.toldIn_map_tell]

/-- Another slot stays as it is, and nothing is told of it. -/
theorem elsewhere (h : Sets p position s outcome lone) (hnames : p.HasNames)
    (hs : p.slots[position]? = some s) {i : Nat} {t : Slot} (ht : p.slots[i]? = some t)
    (hi : i ≠ position) : outcome.1.slots[i]? = some t ∧ t.toldIn outcome.2 = [] := by
  obtain ⟨s', hslots, _⟩ := h.slot
  refine ⟨?_, ?_⟩
  · rw [hslots, List.getElem?_set_ne (Ne.symm hi)]
    exact ht
  · rw [h.told, Slot.toldIn_map_tell_of_ne (hnames.name_ne hs ht (Ne.symm hi))]

end Sets

/-- In a step, every slot goes on as it would by itself with what the event is to it. -/
structure GoesAlone (p : Pool) (now : Nat) (event : Event) (outcome : Pool × List PoolEvent) :
    Prop where
  config : outcome.1.config = p.config
  slots : outcome.1.slots.map Slot.name = p.slots.map Slot.name
  alone {i : Nat} {s : Slot} : p.slots[i]? = some s → ∃ t, outcome.1.slots[i]? = some t ∧
    t.name = s.name ∧ (s.alone p.isClosed).stepIf p.config (p.occurrence? i now event) =
      (t.alone outcome.1.isClosed, s.toldIn outcome.2)

namespace GoesAlone

/-- An event that concerns one slot. -/
theorem of_sets (hnames : p.HasNames) (hs : p.slots[position]? = some s) {event : Event}
    {outcome : Pool × List PoolEvent}
    (hothers : ∀ i, i ≠ position → p.occurrence? i now event = none)
    (h : Sets p position s outcome
      ((s.alone p.isClosed).stepIf p.config (p.occurrence? position now event))) :
    GoesAlone p now event outcome := by
  refine ⟨h.config, h.names hs, fun {i t} ht => ?_⟩
  by_cases hi : i = position
  · subst hi
    rw [hs] at ht
    cases ht
    obtain ⟨s', hs', hname, hlone⟩ := h.there hs
    exact ⟨s', hs', hname, hlone.symm⟩
  · obtain ⟨hsame, htold⟩ := h.elsewhere hnames hs ht hi
    refine ⟨t, hsame, rfl, ?_⟩
    rw [hothers i hi, h.isClosed, htold]
    rfl

/-- An event that concerns no slot. -/
theorem of_ages {quiet : Prop} {watches : Dict String WatchCallback} {event : Event}
    (hages : Ages quiet { p with watches } q)
    (hnothing : ∀ i s, p.slots[i]? = some s → p.occurrence? i now event = none) :
    GoesAlone p now event (q, []) := by
  refine ⟨hages.config, congrArg (List.map Slot.name) hages.slots, fun {i s} hs => ?_⟩
  have hclosed : q.isClosed = p.isClosed := hages.isClosed
  refine ⟨s, ?_, rfl, ?_⟩
  · rw [hages.slots]
    exact hs
  · rw [hnothing i s hs, hclosed]
    rfl

theorem still (p : Pool) (now : Nat) {event : Event}
    (hnothing : ∀ i s, p.slots[i]? = some s → p.occurrence? i now event = none) :
    GoesAlone p now event (p, []) := by
  have hages : Ages True { p with watches := p.watches } p := .refl p
  exact of_ages hages hnothing

/-- Closing the pool concerns every slot, and leaves it as it is. -/
theorem close (p : Pool) (now : Nat) : GoesAlone p now .close (p.close now, []) := by
  have hclosed {r : Pool} (hconfig : r.config = p.config) (hslots : r.slots = p.slots)
      (hclosed : r.isClosed = true) : GoesAlone p now .close (r, []) := by
    refine ⟨hconfig, congrArg (List.map Slot.name) hslots, fun {i s} hs => ⟨s, ?_, rfl, ?_⟩⟩
    · rw [hslots]
      exact hs
    · rw [hclosed]
      rfl
  cases hfirst : p.isClosed with
  | true =>
      rw [Pool.close, if_pos hfirst]
      exact hclosed rfl rfl hfirst
  | false =>
      have hages := close_of_open hfirst now
      exact hclosed hages.config hages.slots hages.isClosed

/-- Tearing the pool down stops every supervisor and tells nothing of a slot. -/
theorem tearDown (p : Pool) (now : Nat) : GoesAlone p now .tearDown (p.tearDown now) := by
  cases hcan : p.canTearDown with
  | false =>
      rw [Pool.tearDown, if_neg (by simp [hcan])]
      refine still p now fun i s _ => ?_
      simp [occurrence?, hcan]
  | true =>
      have hages := p.shutdownAll_ages now p.installed
      rw [Pool.tearDown, if_pos hcan]
      refine ⟨hages.config, ?_, fun {i s} hs => ?_⟩
      · show ((p.performAll now .shutdown p.installed).slots.map _).map Slot.name = _
        rw [hages.slots, List.map_map]
        rfl
      · refine ⟨{ s with conn := none, supervisor := .stopped }, ?_, rfl, ?_⟩
        · show ((p.performAll now .shutdown p.installed).slots.map _)[i]? = _
          rw [hages.slots, List.getElem?_map, hs]
          rfl
        · have hclosed : (p.performAll now .shutdown p.installed).isClosed = p.isClosed :=
            hages.isClosed
          show _ = (Slot.alone _ (p.performAll now .shutdown p.installed).isClosed, _)
          rw [hclosed]
          simp only [occurrence?, hcan, if_true]
          rfl

end GoesAlone

theorem step_eq_stepSlot {event : Event} (hposition : event.position? = some position)
    (hs : p.slots[position]? = some s) :
    p.step now event = p.stepSlot now position s event := by
  cases event <;> cases hposition <;> simp [step, Event.position?, hs]

/-- In every step, every slot goes on as it would by itself. -/
theorem step_alone (hnames : p.HasNames) (now : Nat) (event : Event) :
    GoesAlone p now event (p.step now event) := by
  have hslot {event : Event} {target : Nat} (htarget : event.position? = some target)
      (hothers : ∀ i, i ≠ target → p.occurrence? i now event = none) :
      GoesAlone p now event (p.step now event) := by
    cases hs : p.slots[target]? with
    | some s =>
        rw [step_eq_stepSlot htarget hs]
        exact .of_sets hnames hs hothers (stepSlot_sets hs now htarget)
    | none =>
        have hnobody : p.step now event = (p, []) := by
          rcases p.step_of_position? htarget with hstep | ⟨s, hs', _⟩
          · exact hstep
          · rw [hs] at hs'
            cases hs'
        rw [hnobody]
        refine .still p now fun i s hi => hothers i ?_
        rintro rfl
        rw [hs] at hi
        cases hi
  cases event with
  | conn n action =>
      have hages : Ages False { p with watches := p.watches } (p.perform now action n) :=
        p.perform_ages now n False.elim
      exact .of_ages hages fun _ _ _ => rfl
  | probed target valid =>
      show GoesAlone p now _ (p.probed now target valid)
      cases hs : p.slots[target]? with
      | none =>
          have hnobody : p.probed now target valid = (p, []) := by rw [probed, hs]
          rw [hnobody]
          refine .still p now fun i s hi => if_neg ?_
          rintro rfl
          rw [hs] at hi
          cases hi
      | some s =>
          refine .of_sets hnames hs (fun i hi => if_neg (Ne.symm hi)) ?_
          simp only [occurrence?, if_true]
          exact probed_sets hs now valid
  | watch key callback =>
      obtain ⟨watches, hages⟩ := p.watch_ages now key callback
      exact .of_ages hages fun _ _ _ => rfl
  | unwatch key =>
      obtain ⟨watches, hages⟩ := p.unwatch_ages now key
      exact .of_ages hages fun _ _ _ => rfl
  | close => exact .close p now
  | drained n =>
      have hages : Ages True { p with watches := p.watches } (p.closeDrained now n) :=
        p.closeDrained_ages now n
      exact .of_ages hages fun _ _ _ => rfl
  | graceOver =>
      have hages : Ages True { p with watches := p.watches } (p.closeAll now) :=
        p.shutdownAll_ages now p.closing
      exact .of_ages hages fun _ _ _ => rfl
  | tearDown => exact .tearDown p now
  | greeted target requestTimeout raw => exact hslot rfl fun i hi => if_neg (Ne.symm hi)
  | handshake target event => exact hslot rfl fun i hi => if_neg (Ne.symm hi)
  | unreachable target cause => exact hslot rfl fun i hi => if_neg (Ne.symm hi)
  | lost target => exact hslot rfl fun i hi => if_neg fun h => hi h.1.symm
  | dismissed target => exact hslot rfl fun i hi => if_neg (Ne.symm hi)
  | rested target => exact hslot rfl fun i hi => if_neg (Ne.symm hi)

/-! ## Whole runs -/

theorem hasNames_of_alone {event : Event} {outcome : Pool × List PoolEvent}
    (hnames : p.HasNames) (h : GoesAlone p now event outcome) : outcome.1.HasNames := by
  rw [HasNames, h.slots]
  exact hnames

/-- In every run, every slot goes on as it would by itself with what happens to it, and tells
that. -/
theorem run_alone (hnames : p.HasNames) (hs : p.slots[position]? = some s)
    (steps : List (Nat × Event)) : ∃ t, (p.run steps).1.slots[position]? = some t ∧
      (s.alone p.isClosed).run p.config (p.occurrences position steps) =
        (t.alone (p.run steps).1.isClosed, s.toldIn (p.run steps).2) := by
  induction steps generalizing p s with
  | nil => exact ⟨s, hs, rfl⟩
  | cons step rest ih =>
      obtain ⟨now, event⟩ := step
      have hstep := step_alone hnames now event
      obtain ⟨t, ht, hname, halone⟩ := hstep.alone hs
      obtain ⟨u, hu, hrun⟩ := ih (hasNames_of_alone hnames hstep) ht
      have htold : s.toldIn (p.run ((now, event) :: rest)).2 =
          s.toldIn (p.step now event).2 ++ t.toldIn ((p.step now event).1.run rest).2 := by
        rw [Slot.toldIn_congr hname]
        exact s.toldIn_append _ _
      refine ⟨u, hu, ?_⟩
      rw [hstep.config] at hrun
      show LoneSlot.run _ _ ((p.occurrence? position now event).toList ++
        (p.step now event).1.occurrences position rest) = _
      rw [LoneSlot.run_toList_append, halone, hrun, htold]
      rfl

end Pool

end TupleWire

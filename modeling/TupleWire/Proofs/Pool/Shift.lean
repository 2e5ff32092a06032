/-
  What one step does to a pool, open or closed.

  A step does one of six things: it acts on connections, a supervisor goes on, a
  probe is judged, a connection is installed, the pool is closed, or it is torn
  down.  `step_shift` says that there is nothing else, and `Shift` says what
  each of them leaves as it was and what it tells.
-/
import TupleWire.Proofs.Pool.Selection
import TupleWire.Proofs.Pool.Watching

set_option autoImplicit false

namespace TupleWire

/-- Acts on a connection, again and again. -/
def Connection.actAll (c : Connection) (now : Nat) (actions : List Action) : Connection :=
  actions.foldl (fun c action => (c.act now action).2.1) c

/-- Whether the connection of a slot, if it has one, is watched over, or nobody looks after the slot
any more. -/
def Slot.IsAttended (s : Slot) : Prop :=
  ∀ n, s.conn = some n → s.supervisor = .watching n ∨ s.supervisor = .stopped

namespace Pool

/-- Whether an event leaves alone what is watched and what connections have agreed on. -/
def Event.leavesWatches : Event → Prop
  | .conn _ action => action.leavesWatches
  | .watch _ _ | .unwatch _ => False
  | _ => True

variable {p q r : Pool} {now i n : Nat} {s s' : Slot} {event : Event}

/-! ## What is installed -/

/-- A slot contributes its own connection to what is installed. -/
theorem installed_split (hs : p.slots[i]? = some s) : ∃ before after,
    p.installed = before ++ s.conn.toList ++ after ∧
      ∀ s', (p.setSlot i s').installed = before ++ s'.conn.toList ++ after := by
  obtain ⟨hlt, hs⟩ := List.getElem?_eq_some_iff.1 hs
  have hone (t : Slot) : [t].filterMap Slot.conn = t.conn.toList := by
    cases hconn : t.conn with
    | none => simp [hconn]
    | some n => simp [hconn]
  refine ⟨(p.slots.take i).filterMap Slot.conn, (p.slots.drop (i + 1)).filterMap Slot.conn, ?_, ?_⟩
  · have hsplit : p.slots = p.slots.take i ++ [s] ++ p.slots.drop (i + 1) := by
      rw [← hs, List.append_assoc, List.singleton_append, List.getElem_cons_drop,
        List.take_append_drop]
    calc p.installed
        = (p.slots.take i ++ [s] ++ p.slots.drop (i + 1)).filterMap Slot.conn :=
          congrArg (List.filterMap Slot.conn) hsplit
      _ = _ := by rw [List.filterMap_append, List.filterMap_append, hone]
  · intro s'
    have hsplit : p.slots.set i s' = p.slots.take i ++ [s'] ++ p.slots.drop (i + 1) := by
      rw [List.set_eq_take_append_cons_drop, if_pos hlt, List.append_assoc, List.singleton_append]
    rw [installed, setSlot, hsplit, List.filterMap_append, List.filterMap_append, hone]

/-- A slot that keeps its connection or gives it up adds nothing. -/
theorem installed_setSlot_sublist (hs : p.slots[i]? = some s)
    (hconn : s'.conn = s.conn ∨ s'.conn = none) :
    List.Sublist (p.setSlot i s').installed p.installed := by
  obtain ⟨before, after, hinstalled, hset⟩ := installed_split hs
  rw [hinstalled, hset]
  rcases hconn with hsame | hnone
  · simp only [hsame, List.Sublist.refl]
  · rw [hnone]
    exact ((List.nil_sublist _).append_left before).append_right after

/-- What is installed after a slot has changed is what it has now, or was installed before. -/
theorem mem_installed_setSlot (hs : p.slots[i]? = some s) (hn : n ∈ (p.setSlot i s').installed) :
    s'.conn = some n ∨ n ∈ p.installed := by
  obtain ⟨before, after, hinstalled, hset⟩ := installed_split hs
  rw [hset] at hn
  rw [hinstalled]
  rcases List.mem_append.1 hn with hn | hn
  · rcases List.mem_append.1 hn with hn | hn
    · right
      simp [hn]
    · left
      simpa using hn
  · right
    simp [hn]

/-! ## Installing -/

/-- Acting on one connection again and again. -/
theorem conns_foldl_perform (actions : List Action) (p : Pool) (now n m : Nat) :
    (actions.foldl (fun p action => p.perform now action n) p).conns[m]? =
      if n = m then p.conns[m]?.map fun c => c.actAll now actions else p.conns[m]? := by
  induction actions generalizing p with
  | nil =>
      show p.conns[m]? = if n = m then p.conns[m]?.map id else p.conns[m]?
      rw [Option.map_id, id_eq, ite_self]
  | cons action rest ih =>
      rw [List.foldl_cons, ih, conns_perform]
      split
      · rw [Option.map_map]
        rfl
      · rfl

/-- What installing does: the connection is prepared under a number of its own, and its slot has
it. -/
theorem install_parts (p : Pool) (now i : Nat) (s : Slot) (c : Connection) :
    ∃ q, Ages False { p with conns := p.conns ++ [c] } q ∧
      (∀ n, n ≠ p.conns.length → q.conns[n]? = p.conns[n]?) ∧
      q.conns[p.conns.length]? = some (c.actAll now (p.preparations s)) ∧
      p.install now i s c = (q.setSlot i
        { s with conn := some p.conns.length, supervisor := .watching p.conns.length },
        [s.tell .connected]) := by
  refine ⟨_, foldl_ages (fun p action => p.perform_ages now _ False.elim) (p.preparations s) _,
    ?_, ?_, rfl⟩
  · intro n hn
    rw [conns_foldl_perform, if_neg (Ne.symm hn)]
    show (p.conns ++ [c])[n]? = p.conns[n]?
    rcases Nat.lt_or_gt_of_ne hn with hlt | hgt
    · exact List.getElem?_append_left hlt
    · have hlength : (p.conns ++ [c]).length = p.conns.length + 1 := List.length_append
      rw [List.getElem?_eq_none_iff.2 (by omega), List.getElem?_eq_none_iff.2 (by omega)]
  · rw [conns_foldl_perform, if_pos rfl]
    show (p.conns ++ [c])[p.conns.length]?.map _ = _
    rw [List.getElem?_concat_length]
    rfl

/-! ## What a step does -/

/-- What a supervisor may do to its slot: a connection is given up only if it is closed. -/
structure Tends (p : Pool) (s s' : Slot) : Prop where
  conn : s'.conn = s.conn ∨ s'.conn = none ∧ ∀ n, s.conn = some n → p.isConnClosed n = true
  attended : s.IsAttended → s'.IsAttended

/-- What a step of a pool can do, and what it tells. -/
inductive Shift (p : Pool) (now : Nat) : Event → Pool × List PoolEvent → Prop
  /-- connections are acted on, and the pool may come to remember something else -/
  | acted {event : Event} {q : Pool} {watches : Dict String WatchCallback}
      (ages : Ages event.leavesWatches { p with watches } q)
      (kept : event.leavesWatches → watches = p.watches) : Shift p now event (q, [])
  /-- a supervisor goes on -/
  | supervised {event : Event} {q : Pool} {i : Nat} {s s' : Slot} {told : List PoolEvent}
      (ages : Ages True p q) (found : p.slots[i]? = some s) (going : s.supervisor ≠ .stopped)
      (tends : Tends p s s') (told_slot : .closed ∉ told) :
      Shift p now event (q.setSlot i s', told)
  /-- a probe is judged -/
  | judged {q : Pool} {i : Nat} {s s' : Slot} {valid : Bool} {told : List PoolEvent}
      (ages : Ages True p q) (found : p.slots[i]? = some s) (conn : s'.conn = s.conn)
      (supervisor : s'.supervisor = s.supervisor) (told_slot : .closed ∉ told) :
      Shift p now (.probed i valid) (q.setSlot i s', told)
  /-- a connection is installed, in an open pool -/
  | installed {event : Event} {i : Nat} {s : Slot} {h : Handshake} (shared : Shared)
      (c : Connection) (isOpen : p.isClosed = false) (found : p.slots[i]? = some s)
      (attempting : s.supervisor = .attempting (some h)) :
      Shift p now event ({ p with shared }.install now i s c)
  /-- the pool is closed for the first time -/
  | closed {q : Pool} (isOpen : p.isClosed = false)
      (ages : Ages True { p with isClosed := true, closing := p.installed } q) :
      Shift p now .close (q, [])
  /-- the pool is torn down -/
  | tornDown {q : Pool} (can : p.canTearDown = true) (ages : Ages True p q)
      (emptied : ∀ n ∈ p.installed, q.isConnClosed n = true) :
      Shift p now .tearDown ({ q with
        slots := q.slots.map fun s => { s with conn := none, supervisor := .stopped }
        isTornDown := true }, [.closed])

/-! ## Supervisors -/

namespace Tends

theorem stop (p : Pool) (s : Slot) : Tends p s { s with supervisor := .stopped } :=
  ⟨.inl rfl, fun _ _ _ => .inr rfl⟩

/-- A supervisor that watches over nothing may do anything next. -/
theorem next (hidle : ∀ n, s.supervisor ≠ .watching n) (hgoing : s.supervisor ≠ .stopped)
    (supervisor : Supervisor) : Tends p s { s with supervisor } := by
  refine ⟨.inl rfl, ?_⟩
  intro hattended n hn
  rcases hattended n hn with hwatching | hstopped
  · exact absurd hwatching (hidle n)
  · exact absurd hstopped hgoing

/-- A connection that is closed is given up by the supervisor that watches over it. -/
theorem giveUp (hwatching : s.supervisor = .watching n) (hclosed : p.isConnClosed n = true)
    (supervisor : Supervisor) :
    Tends p s { s with conn := s.conn.filter (· ≠ n), supervisor } := by
  have hsome {m : Nat} (hm : s.conn.filter (· ≠ n) = some m) : s.conn = some m ∧ m ≠ n := by
    obtain ⟨hm, hother⟩ := Option.filter_eq_some_iff.1 hm
    exact ⟨hm, by simpa using hother⟩
  refine ⟨?_, ?_⟩
  · by_cases hconn : s.conn = some n
    · right
      refine ⟨?_, ?_⟩
      · simp [hconn]
      · intro m hm
        rw [hconn] at hm
        cases hm
        exact hclosed
    · left
      show s.conn.filter (· ≠ n) = s.conn
      cases hm : s.conn with
      | none => rfl
      | some m =>
          rw [hm] at hconn
          simp only [Option.filter_some]
          rw [if_pos]
          simpa using fun hmn : m = n => hconn (congrArg some hmn)
  · intro hattended m hm
    obtain ⟨hm, hother⟩ := hsome hm
    rcases hattended m hm with hother' | hstopped
    · rw [hwatching] at hother'
      cases hother'
      exact absurd rfl hother
    · rw [hwatching] at hstopped
      cases hstopped

end Tends

section Supervisors

/-- A supervisor whose attempt came to nothing rests, or stops. -/
theorem fail_shift (hages : Ages True p q) (hs : p.slots[i]? = some s)
    (hidle : ∀ n, s.supervisor ≠ .watching n) (hgoing : s.supervisor ≠ .stopped)
    (cause : ClientError) : Shift p now event (q.fail i s cause) := by
  cases hclosed : q.isClosed with
  | true =>
      simp only [fail, rest, hclosed, if_true]
      exact .supervised hages hs hgoing (.stop p s) (by simp [Slot.tell])
  | false =>
      simp only [fail, rest, hclosed, Bool.false_eq_true, if_false]
      exact .supervised hages hs hgoing (.next hidle hgoing .resting) (by simp [Slot.tell])

/-- In a closed pool a new connection is closed again, and its supervisor stops. -/
theorem succeed_shift {h : Handshake} (hs : p.slots[i]? = some s)
    (hattempting : s.supervisor = .attempting (some h)) (shared : Shared) (c : Connection) :
    Shift p now event ({ p with shared }.succeed now i s c) := by
  by_cases hclosed : p.isClosed = true
  · rw [succeed, if_pos hclosed]
    exact .supervised (shared_ages p _) hs (by simp [hattempting]) (.stop p s) (by simp)
  · rw [succeed, if_neg hclosed]
    exact .installed shared c (by simpa using hclosed) hs hattempting

theorem proceed_shift {h : Option Handshake} (hs : p.slots[i]? = some s)
    (hattempting : s.supervisor = .attempting h) {progress : HandshakeProgress × List Effect}
    (hready : ∀ c, progress.1 = .ready c → ∃ h, s.supervisor = .attempting (some h)) :
    Shift p now event (p.proceed now i s progress) := by
  have hidle (n : Nat) : s.supervisor ≠ .watching n := by simp [hattempting]
  have hgoing : s.supervisor ≠ .stopped := by simp [hattempting]
  have hages : Ages True p { p with shared := p.shared.applyAll progress.2 } := shared_ages p _
  obtain ⟨reached, effects⟩ := progress
  cases reached with
  | going h' =>
      exact .supervised hages hs hgoing (.next hidle hgoing (.attempting (some h'))) (by simp)
  | failed c cause => exact fail_shift hages hs hidle hgoing cause
  | ready c =>
      obtain ⟨h', hattempting⟩ := hready c rfl
      exact succeed_shift hs hattempting _ c

theorem notice_shift (hs : p.slots[i]? = some s) (hwatching : s.supervisor = .watching n)
    (hclosed : p.isConnClosed n = true) : Shift p now event (p.notice i s n) := by
  have hgoing : s.supervisor ≠ .stopped := by simp [hwatching]
  cases hpool : p.isClosed with
  | true =>
      simp only [notice, hpool, if_true]
      exact .supervised (.refl p) hs hgoing (.giveUp hwatching hclosed .stopped) (by simp)
  | false =>
      simp only [notice, rest, hpool, Bool.false_eq_true, if_false]
      exact .supervised (.refl p) hs hgoing (.giveUp hwatching hclosed .resting)
        (by simp [Slot.tell])

/-- Nothing happens. -/
theorem Shift.still (p : Pool) (now : Nat) (event : Event) : Shift p now event (p, []) :=
  .acted (.refl p) fun _ => rfl

theorem stepSlot_shift (hs : p.slots[i]? = some s) :
    Shift p now event (p.stepSlot now i s event) := by
  have hstill : Shift p now event (p, []) := .still p now event
  have hstop (hgoing : s.supervisor ≠ .stopped) :
      Shift p now event (p.supervise i s .stopped, []) :=
    .supervised (.refl p) hs hgoing (.stop p s) (by simp)
  unfold stepSlot
  split
  · split
    · rename_i hattempting
      have hidle (n : Nat) : s.supervisor ≠ .watching n := by simp [hattempting]
      have hgoing : s.supervisor ≠ .stopped := by simp [hattempting]
      split
      · exact fail_shift (.refl p) hs hidle hgoing _
      · rename_i progress hgreeted
        apply proceed_shift hs hattempting
        intro c hc
        obtain ⟨first, effects⟩ := progress
        cases hc
        exact absurd hgreeted Connection.ready_ne_greeted
    · exact hstill
  · split
    · rename_i h hattempting
      exact proceed_shift hs hattempting fun _ _ => ⟨h, hattempting⟩
    · exact hstill
  · split
    · rename_i hattempting
      exact fail_shift (.refl p) hs (by simp [hattempting]) (by simp [hattempting]) _
    · exact hstill
  · split
    · rename_i n hwatching
      split
      · rename_i hclosed
        exact notice_shift hs hwatching hclosed
      · exact hstill
    · exact hstill
  · split
    · rename_i hwatching
      split
      · exact hstop (by simp [hwatching])
      · exact hstill
    · rename_i hresting
      split
      · exact hstop (by simp [hresting])
      · exact hstill
    · exact hstill
  · split
    · rename_i hresting
      refine .supervised (.refl p) hs (by simp [hresting]) ?_ (by simp)
      exact .next (by simp [hresting]) (by simp [hresting]) _
    · exact hstill
  · exact hstill

end Supervisors

/-! ## Probes -/

theorem performOn_setSlot (p : Pool) (now i : Nat) (s s' : Slot) (action : Action) :
    (p.setSlot i s').performOn now s action = (p.performOn now s action).setSlot i s' := by
  unfold performOn
  cases s.conn with
  | none => rfl
  | some n =>
      show (p.setSlot i s').perform now action n = (p.perform now action n).setSlot i s'
      unfold perform act
      have hconns : (p.setSlot i s').conns = p.conns := rfl
      rw [hconns]
      cases p.conns[n]? with
      | none => rfl
      | some c => rfl

theorem performOn_ages {action : Action} (h : action.leavesWatches) (p : Pool) (now : Nat)
    (s : Slot) : Ages True p (p.performOn now s action) := by
  unfold performOn
  cases s.conn with
  | none => exact .refl p
  | some n => exact p.perform_ages now n fun _ => h

/-- A verdict changes the marks of its slot, and may close or degrade the connection there. -/
theorem applyVerdict_parts (p : Pool) (now i : Nat) (s : Slot) (verdict : Verdict) :
    ∃ q t told, Ages True p q ∧ t.conn = s.conn ∧ t.supervisor = s.supervisor ∧
      PoolEvent.closed ∉ told ∧
      (p.setSlot i s).applyVerdict now i s verdict = (q.setSlot i t, told) := by
  have hkept : ∃ q t told, Ages True p q ∧ t.conn = s.conn ∧ t.supervisor = s.supervisor ∧
      PoolEvent.closed ∉ told ∧ (p.setSlot i s, []) = (q.setSlot i t, told) :=
    ⟨p, s, [], .refl p, rfl, rfl, by simp, rfl⟩
  have hmarked {t : Slot} (hconn : t.conn = s.conn) (hsupervisor : t.supervisor = s.supervisor)
      {action : Action} (haction : action.leavesWatches) (e : SlotEvent) :
      ∃ q t' told, Ages True p q ∧ t'.conn = s.conn ∧ t'.supervisor = s.supervisor ∧
        PoolEvent.closed ∉ told ∧
        (((p.setSlot i s).setSlot i t).performOn now s action, [s.tell e]) =
          (q.setSlot i t', told) := by
    refine ⟨_, t, [s.tell e], performOn_ages haction p now s, hconn, hsupervisor, ?_, ?_⟩
    · simp [Slot.tell]
    · rw [setSlot_setSlot, performOn_setSlot]
  cases verdict with
  | unchanged => exact hkept
  | invalidated =>
      rw [applyVerdict, invalidate]
      split
      · exact hkept
      · exact hmarked (t := { s with isQuarantined := true }) rfl rfl
          (Action.leavesWatches_setLifecycle .degraded) .invalidated
  | recovered =>
      rw [applyVerdict, recover]
      split
      · exact hkept
      · exact hmarked (t := { s with isQuarantined := false }) rfl rfl
          (Action.leavesWatches_setLifecycle .ready) .recovered
  | dead =>
      simp only [applyVerdict, evict]
      split
      · refine ⟨p, { s with isQuarantined := true, isEvicted := true }, [], .refl p, rfl, rfl,
          by simp, ?_⟩
        rw [setSlot_setSlot]
      · exact hmarked (t := { s with isQuarantined := true, isEvicted := true }) rfl rfl
          Action.leavesWatches_shutdown .evicted
  | reinstated =>
      rw [applyVerdict, reinstate]
      split
      · exact hkept
      · exact hmarked (t := { s with isQuarantined := false, isEvicted := false }) rfl rfl
          (Action.leavesWatches_setLifecycle .ready) .reinstated

/-- What becomes of a slot that is probed. -/
theorem probed_parts (hs : p.slots[i]? = some s) (now : Nat) (valid : Bool) :
    ∃ q t told, Ages True p q ∧ t.conn = s.conn ∧ t.supervisor = s.supervisor ∧
      PoolEvent.closed ∉ told ∧ p.probed now i valid = (q.setSlot i t, told) := by
  let judged := s.history.record p.config.rules valid
  obtain ⟨q, t, told, hages, hconn, hsupervisor, htold, heq⟩ :=
    p.applyVerdict_parts now i { s with history := judged.2 } judged.1
  refine ⟨q, t, told, hages, hconn, hsupervisor, htold, ?_⟩
  rw [probed, hs]
  exact heq

theorem probed_shift (p : Pool) (now i : Nat) (valid : Bool) :
    Shift p now (.probed i valid) (p.probed now i valid) := by
  cases hs : p.slots[i]? with
  | none =>
      rw [probed, hs]
      exact .still p now _
  | some s =>
      obtain ⟨q, t, told, hages, hconn, hsupervisor, htold, heq⟩ := probed_parts hs now valid
      rw [heq]
      exact .judged hages hs hconn hsupervisor htold

/-! ## Closing -/

theorem shutdown_ages (p : Pool) (now n : Nat) : Ages True p (p.perform now .shutdown n) :=
  p.perform_ages now n fun _ => Action.leavesWatches_shutdown

theorem shutdownAll_ages (p : Pool) (now : Nat) (ns : List Nat) :
    Ages True p (p.performAll now .shutdown ns) :=
  performAll_ages (fun _ => Action.leavesWatches_shutdown) p now ns

/-- Begins to close a connection: nothing is watched or watched no longer. -/
theorem closeConn_ages (p : Pool) (now n : Nat) : Ages True p (closeConn now p n) := by
  unfold closeConn
  have hdrained : Ages True p (p.perform now .drain n) := p.perform_ages now n fun _ =>
    Action.leavesWatches_drain
  split
  · exact .refl p
  · split
    · dsimp only
      split
      · exact hdrained.trans (shutdown_ages _ now n)
      · exact hdrained
    · exact p.shutdown_ages now n

theorem closeDrained_ages (p : Pool) (now n : Nat) : Ages True p (p.closeDrained now n) := by
  unfold closeDrained
  split
  · exact p.shutdown_ages now n
  · exact .refl p

/-- Begins to close an open pool. -/
theorem close_of_open (hopen : p.isClosed = false) (now : Nat) :
    Ages True { p with isClosed := true, closing := p.installed } (p.close now) := by
  rw [close, if_neg (by simp [hopen])]
  exact foldl_ages (fun p n => closeConn_ages p now n) p.installed _

theorem close_shift (p : Pool) (now : Nat) : Shift p now .close (p.close now, []) := by
  cases hclosed : p.isClosed with
  | true =>
      rw [close, if_pos hclosed]
      exact .still p now _
  | false => exact .closed hclosed (close_of_open hclosed now)

/-- Connections that are shut down one after the other are closed after that. -/
theorem isConnClosed_performAll_shutdown {ns : List Nat} (hn : n ∈ ns) (p : Pool) (now : Nat) :
    (p.performAll now .shutdown ns).isConnClosed n = true := by
  induction ns generalizing p with
  | nil => cases hn
  | cons m rest ih =>
      show ((p.perform now .shutdown m).performAll now .shutdown rest).isConnClosed n = true
      rcases List.mem_cons.1 hn with rfl | hn
      · have hshut : (p.perform now .shutdown n).isConnClosed n = true := by
          rw [isConnClosed, conns_perform, if_pos rfl]
          cases p.conns[n]? with
          | none => rfl
          | some c =>
              exact beq_iff_eq.2 (c.lifecycle_shutdown now)
        exact (shutdownAll_ages _ now rest).isConnClosed hshut
      · exact ih hn _

theorem tearDown_shift (p : Pool) (now : Nat) : Shift p now .tearDown (p.tearDown now) := by
  cases hcan : p.canTearDown with
  | true =>
      rw [tearDown, if_pos hcan]
      exact .tornDown hcan (p.shutdownAll_ages now p.installed)
        fun n hn => isConnClosed_performAll_shutdown hn p now
  | false =>
      rw [tearDown, if_neg (by simp [hcan])]
      exact .still p now _

/-! ## Watching -/

theorem performEach_ages (action : Action) (p : Pool) (now : Nat) (ns : List Nat) :
    Ages False p (performEach now action p ns).2.2 :=
  performEach_keeps Ages.refl Ages.trans (fun p n => p.perform_ages now n False.elim) p ns

/-- Two pools may come to remember the same. -/
theorem Ages.remember {quiet : Prop} (h : Ages quiet p q) (watches : Dict String WatchCallback) :
    Ages quiet { p with watches } { q with watches } :=
  ⟨h.config, h.slots, rfl, h.isClosed, h.closing, h.isTornDown, h.length, h.conn⟩

theorem watch_ages (p : Pool) (now : Nat) (key : String) (callback : WatchCallback) :
    ∃ watches, Ages False { p with watches } (p.watch now key callback).2 := by
  by_cases hclosed : p.isClosed = true
  · rw [watch_of_closed hclosed]
    exact ⟨p.watches, .refl p⟩
  · have heach := performEach_ages (.watch key callback) (p.noted key callback) now p.installed
    rw [watch_of_open (by simpa using hclosed)]
    generalize performEach now (.watch key callback) (p.noted key callback) p.installed = outcome
      at heach ⊢
    obtain ⟨result, reached, q⟩ := outcome
    cases result with
    | ok _ => exact ⟨_, heach⟩
    | error e =>
        refine ⟨q.watches.erase key, (heach.remember (q.watches.erase key)).trans ?_⟩
        exact performAll_ages False.elim _ now reached

theorem unwatch_ages (p : Pool) (now : Nat) (key : String) :
    ∃ watches, Ages False { p with watches } (p.unwatch now key).2 := by
  by_cases hclosed : p.isClosed = true
  · rw [unwatch_of_closed hclosed]
    exact ⟨p.watches, .refl p⟩
  · rw [unwatch_of_open (by simpa using hclosed)]
    exact ⟨p.watches.erase key, performEach_ages (.unwatch key) _ now p.installed⟩

/-- Every step is one of the six shifts. -/
theorem step_shift (p : Pool) (now : Nat) (event : Event) :
    Shift p now event (p.step now event) := by
  have hages {event : Event} {q : Pool} (h : Ages event.leavesWatches p q) :
      Shift p now event (q, []) :=
    .acted h fun _ => rfl
  have hslot {event : Event} {position : Nat} (hposition : event.position? = some position) :
      Shift p now event (p.step now event) := by
    rcases step_of_position? hposition with hstep | ⟨s, hs, hstep⟩
    · rw [hstep]
      exact .still p now event
    · rw [hstep]
      exact stepSlot_shift hs
  cases event with
  | conn number action => exact hages (p.perform_ages now number id)
  | probed position valid => exact p.probed_shift now position valid
  | watch key callback =>
      obtain ⟨watches, h⟩ := p.watch_ages now key callback
      exact .acted h False.elim
  | unwatch key =>
      obtain ⟨watches, h⟩ := p.unwatch_ages now key
      exact .acted h False.elim
  | close => exact p.close_shift now
  | drained number => exact hages (p.closeDrained_ages now number)
  | graceOver => exact hages (p.shutdownAll_ages now p.closing)
  | tearDown => exact p.tearDown_shift now
  | greeted position requestTimeout raw => exact hslot rfl
  | handshake position event => exact hslot rfl
  | unreachable position cause => exact hslot rfl
  | lost position => exact hslot rfl
  | dismissed position => exact hslot rfl
  | rested position => exact hslot rfl

/-- The settings of a pool stay. -/
theorem Shift.config_eq {outcome : Pool × List PoolEvent} (h : Shift p now event outcome) :
    outcome.1.config = p.config := by
  cases h with
  | acted hages _ => exact hages.config
  | supervised hages _ _ _ _ => exact hages.config
  | judged hages _ _ _ _ => exact hages.config
  | @installed _ i s handshake shared c _ _ _ =>
      obtain ⟨q, hages, _, _, hinstall⟩ := { p with shared }.install_parts now i s c
      rw [hinstall]
      exact hages.config
  | closed _ hages => exact hages.config
  | tornDown _ hages _ => exact hages.config

end Pool

end TupleWire

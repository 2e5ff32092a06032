/-
  A closed pool.

  From the moment in which it is closed a pool refuses all that may be asked of
  it, and nothing is installed any more: slots only give their connections up.
  It is torn down at most once, and tells so; after that nobody looks after its
  slots, so that it tells nothing else.
-/
import TupleWire.Proofs.Pool.Attendance

set_option autoImplicit false

namespace TupleWire.Pool

variable {p q r : Pool} {now i n : Nat} {s s' t : Slot} {event : Event} {told : List PoolEvent}

/-! ## What a closed pool refuses -/

/-- A pool that refuses everything because it is closed. -/
structure Refuses (p : Pool) : Prop where
  available : p.available = .error .poolClosed
  get (tag : String) (index : Nat) : p.get tag index = .error .poolClosed
  connections (tag : Option String) : p.connections tag = .error .poolClosed
  forEach (visit : Pool → Nat → Except ClientError Unit × Pool) :
    p.forEach visit = (.error .poolClosed, p)
  watch (now : Nat) (key : String) (callback : WatchCallback) :
    p.watch now key callback = (.error .poolClosed, p)
  unwatch (now : Nat) (key : String) : p.unwatch now key = (.error .poolClosed, p)
  tryNext (policy : Policy) : p.tryNext policy = .error .poolClosed
  next (policy : Policy) (waited limit : Duration) :
    p.next? policy waited limit = some (.error .poolClosed)

theorem refuses_of_closed (hclosed : p.isClosed = true) : Refuses p := by
  have hcheck : p.checkOpen = .error .poolClosed := if_pos hclosed
  have hconnections (tag : Option String) : p.connections tag = .error .poolClosed := by
    rw [Pool.connections, hcheck]
    rfl
  have htry (policy : Policy) : p.tryNext policy = .error .poolClosed := by
    rw [Pool.tryNext, candidates, hconnections]
    rfl
  refine ⟨?_, fun tag index => ?_, hconnections, fun visit => ?_,
    fun now key callback => watch_of_closed hclosed, fun now key => unwatch_of_closed hclosed,
    htry, fun policy waited limit => ?_⟩
  · rw [Pool.available, hcheck]
    rfl
  · rw [Pool.get, hcheck]
    rfl
  · rw [Pool.forEach, hconnections]
  · rw [next?, htry]

/-- To visit connections with an action is to broadcast it. -/
theorem visitEach_act (now : Nat) (action : Action) (p : Pool) (ns : List Nat) :
    visitEach (fun p n => ((p.act now n action).1.map fun _ => (), p.perform now action n)) p ns =
      ((performEach now action p ns).1, (performEach now action p ns).2.2) := by
  induction ns generalizing p with
  | nil => rfl
  | cons n rest ih =>
      rw [visitEach]
      cases hclosed : p.isConnClosed n with
      | true =>
          rw [if_pos (show (p.conns[n]?).all Connection.isClosed = true from hclosed),
            performEach_of_closed hclosed, ih]
      | false =>
          have hopen : ¬ (p.conns[n]?).all Connection.isClosed = true := by
            rw [show (p.conns[n]?).all Connection.isClosed = false from hclosed]
            simp
          rw [if_neg hopen]
          cases hresult : (p.act now n action).1 with
          | error e =>
              rw [performEach_of_error hclosed hresult]
              rfl
          | ok receipt =>
              rw [performEach_of_ok hclosed hresult]
              exact ih _

/-- To stop watching a key through an open pool is to visit every live connection for it. -/
theorem unwatch_eq_forEach (hopen : p.isClosed = false) (now : Nat) (key : String) :
    p.unwatch now key = { p with watches := p.watches.erase key }.forEach fun p n =>
      ((p.act now n (.unwatch key)).1.map fun _ => (), p.perform now (.unwatch key) n) := by
  have hcheck : p.checkOpen = .ok () := if_neg (by simp [hopen])
  have hall : p.slots.filter (fun _ => true) = p.slots := List.filter_eq_self.2 fun _ _ => rfl
  have hconnections : { p with watches := p.watches.erase key }.connections none =
      .ok p.installed := by
    have hstill : { p with watches := p.watches.erase key }.checkOpen = .ok () := hcheck
    rw [connections, hstill]
    exact congrArg (fun slots : List Slot => Except.ok (slots.filterMap Slot.conn)) hall
  rw [unwatch_of_open hopen, forEach, hconnections]
  exact (visitEach_act now (.unwatch key) _ p.installed).symm

/-! ## Winding down -/

/-- A closed pool later on: nothing was installed since, and slots may have given their connections
up. -/
structure WindsDown (p q : Pool) : Prop where
  isClosed : q.isClosed = true
  length : q.conns.length = p.conns.length
  slot {i : Nat} {t : Slot} : q.slots[i]? = some t →
    ∃ s, p.slots[i]? = some s ∧ (t.conn = s.conn ∨ t.conn = none)

namespace WindsDown

theorem refl (hclosed : p.isClosed = true) : WindsDown p p :=
  ⟨hclosed, rfl, fun {_ t} ht => ⟨t, ht, .inl rfl⟩⟩

theorem trans (hpq : WindsDown p q) (hqr : WindsDown q r) : WindsDown p r where
  isClosed := hqr.isClosed
  length := hqr.length.trans hpq.length
  slot {i u} hu := by
    obtain ⟨t, ht, htu⟩ := hqr.slot hu
    obtain ⟨s, hs, hst⟩ := hpq.slot ht
    refine ⟨s, hs, ?_⟩
    rcases htu with hsame | hnone
    · rw [hsame]
      exact hst
    · exact .inr hnone

theorem of_ages {quiet : Prop} (hclosed : p.isClosed = true) (hages : Ages quiet p q) :
    WindsDown p q := by
  refine ⟨hages.isClosed.trans hclosed, hages.length, fun {i t} ht => ?_⟩
  rw [hages.slots] at ht
  exact ⟨t, ht, .inl rfl⟩

theorem setSlot (hclosed : p.isClosed = true) (hs : p.slots[i]? = some s)
    (hconn : s'.conn = s.conn ∨ s'.conn = none) : WindsDown p (p.setSlot i s') := by
  refine ⟨hclosed, rfl, fun {j t} ht => ?_⟩
  have ht' : (p.slots.set i s')[j]? = some t := ht
  rcases getElem?_set_cases ht' with ⟨rfl, rfl⟩ | ⟨_, hold⟩
  · exact ⟨s, hs, hconn⟩
  · exact ⟨t, hold, .inl rfl⟩

/-- Whatever happens to a closed pool, it winds down. -/
theorem of_shift (hclosed : p.isClosed = true) {outcome : Pool × List PoolEvent}
    (h : Shift p now event outcome) : WindsDown p outcome.1 := by
  cases h with
  | @acted _ q watches hages _ =>
      have hlater : WindsDown { p with watches } q := of_ages hclosed hages
      exact ⟨hlater.isClosed, hlater.length, hlater.slot⟩
  | @supervised _ q i s s' told hages hs _ htends _ =>
      rw [← hages.slots] at hs
      exact (of_ages hclosed hages).trans
        (setSlot (hages.isClosed.trans hclosed) hs (htends.conn.imp_right And.left))
  | @judged q i s s' valid told hages hs hconn _ _ =>
      rw [← hages.slots] at hs
      exact (of_ages hclosed hages).trans
        (setSlot (hages.isClosed.trans hclosed) hs (.inl hconn))
  | installed _ _ hopen _ _ =>
      rw [hclosed] at hopen
      cases hopen
  | closed hopen _ =>
      rw [hclosed] at hopen
      cases hopen
  | @tornDown q _ hages _ =>
      refine ⟨hages.isClosed.trans hclosed, hages.length, fun {i t} ht => ?_⟩
      have ht' : (q.slots.map fun s => { s with conn := none, supervisor := .stopped })[i]? =
          some t := ht
      rw [List.getElem?_map, hages.slots] at ht'
      obtain ⟨s, hs, rfl⟩ := Option.map_eq_some_iff.1 ht'
      exact ⟨s, hs, .inr rfl⟩

end WindsDown

/-! ## What is told -/

/-- Only who closes the pool or tears it down changes whether it is closed or torn down. -/
theorem Shift.marks {outcome : Pool × List PoolEvent} (h : Shift p now event outcome)
    (hclose : event ≠ .close) (htear : event ≠ .tearDown) :
    outcome.1.isClosed = p.isClosed ∧ outcome.1.isTornDown = p.isTornDown ∧
      .closed ∉ outcome.2 := by
  cases h with
  | acted hages _ => exact ⟨hages.isClosed, hages.isTornDown, by simp⟩
  | supervised hages _ _ _ htold => exact ⟨hages.isClosed, hages.isTornDown, htold⟩
  | judged hages _ _ _ htold => exact ⟨hages.isClosed, hages.isTornDown, htold⟩
  | @installed _ i s handshake shared c _ _ _ =>
      obtain ⟨q, hages, _, _, hinstall⟩ := { p with shared }.install_parts now i s c
      rw [hinstall]
      exact ⟨hages.isClosed, hages.isTornDown, by simp [Slot.tell]⟩
  | closed => exact absurd rfl hclose
  | tornDown => exact absurd rfl htear

/-- Once it is torn down a pool tells nothing but the verdicts of probes. -/
theorem Shift.silent {outcome : Pool × List PoolEvent} (h : Shift p now event outcome)
    (hattended : Attended p) (htorn : p.isTornDown = true)
    (hprobe : ∀ i valid, event ≠ .probed i valid) : outcome.2 = [] := by
  obtain ⟨hclosed, hslots⟩ := hattended.emptied htorn
  cases h with
  | acted | closed => rfl
  | supervised _ hs hgoing _ _ =>
      exact absurd (hslots _ (List.mem_of_getElem? hs)).2 hgoing
  | judged => exact absurd rfl (hprobe _ _)
  | installed _ _ hopen _ _ =>
      rw [hclosed] at hopen
      cases hopen
  | tornDown hcan _ _ => simp [canTearDown, htorn] at hcan

/-! ## Closing and tearing down -/

/-- A pool that somebody closes is closed, and not torn down by that. -/
theorem marks_close (p : Pool) (now : Nat) :
    (p.close now).isClosed = true ∧ (p.close now).isTornDown = p.isTornDown := by
  cases hclosed : p.isClosed with
  | true =>
      rw [close, if_pos hclosed]
      exact ⟨hclosed, rfl⟩
  | false =>
      have hages := close_of_open hclosed now
      exact ⟨hages.isClosed, hages.isTornDown⟩

/-- A pool is torn down once, which is told. -/
theorem tearDown_of_can (hcan : p.canTearDown = true) (now : Nat) :
    (p.tearDown now).1.isTornDown = true ∧ (p.tearDown now).2 = [.closed] := by
  rw [tearDown, if_pos hcan]
  exact ⟨rfl, rfl⟩

theorem tearDown_of_cannot (hcan : p.canTearDown = false) (now : Nat) :
    p.tearDown now = (p, []) := by
  rw [tearDown, if_neg (by simp [hcan])]

/-- When a pool is torn down, every connection that was ever installed is closed. -/
theorem Attended.isClosed_of_tornDown (h : Attended p) (htorn : p.isTornDown = true) :
    (∀ s ∈ p.slots, s.conn = none) ∧ ∀ c ∈ p.conns, c.isClosed = true := by
  have hempty : ∀ s ∈ p.slots, s.conn = none := fun s hs => ((h.emptied htorn).2 s hs).1
  exact ⟨hempty, h.isClosed_of_empty hempty⟩

/-- Once the time for pending requests is over, a closed pool can be torn down. -/
theorem canTearDown_of_graceOver (hclosed : p.isClosed = true) (htorn : p.isTornDown = false)
    (now : Nat) : (p.step now .graceOver).1.canTearDown = true := by
  have hages : Ages True p (p.closeAll now) := p.shutdownAll_ages now p.closing
  have hall : (p.closeAll now).closing.all (p.closeAll now).isConnClosed = true := by
    rw [List.all_eq_true, hages.closing]
    intro n hn
    exact isConnClosed_performAll_shutdown hn p now
  show (p.closeAll now).canTearDown = true
  rw [canTearDown, hages.isClosed, hclosed, hages.isTornDown, htorn, hall]
  rfl

end TupleWire.Pool

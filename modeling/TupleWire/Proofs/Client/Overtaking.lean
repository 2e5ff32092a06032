/-
  Tasks that a teardown overtakes.

  A supervisor looks whether the pool is closed before it installs a connection,
  and nothing holds the pool open from then until it has done so; what it has to
  tell of a failed attempt it tells without a look.  So the whole teardown may
  pass it by, and come to its end first (`Overtakable`).  Whether that can happen
  is decided when the pool is closed: a client stays closed if and only if its
  tasks were still then (`stays_closed_iff_still`).
-/
import TupleWire.Proofs.Client.StayingClosed

set_option autoImplicit false

namespace TupleWire.ThreadedClient

variable {l m : ThreadedClient} {now i t : Nat} {told : List PoolEvent} {call : ClosingCall}

/-! ## Tasks that are overtaken -/

/-- A client of which something may be told after that its pool is closed. -/
def Overtakable (l : ThreadedClient) : Prop :=
  ∃ steps before after, (l.run steps).2 = before ++ .closed :: after ∧ after ≠ []

/-- What may happen after some steps may happen. -/
theorem Overtakable.of_run (steps : List (Nat × Event)) (h : Overtakable (l.run steps).1) :
    Overtakable l := by
  obtain ⟨more, before, after, htold, hafter⟩ := h
  refine ⟨steps ++ more, (l.run steps).2 ++ before, after, ?_, hafter⟩
  rw [run_append, htold, List.append_assoc]

section Passed

variable (h : Orderly l told) (hclosed : l.pool.isClosed = true)
  (huntold : told.count .closed = 0)

include h hclosed huntold

/-- Who has something to say may be overtaken by the whole teardown. -/
theorem overtakable_of_late (now : Nat) (event : Event)
    (hlate : ∀ {t m}, Awaits t l m → (m.step now event).2 ≠ []) : Overtakable l := by
  obtain ⟨call, hcall, htears⟩ := h.claimed.1 hclosed
  obtain ⟨t, ht⟩ := List.mem_iff_getElem?.1 hcall
  obtain ⟨steps, hawaits, last, hlast, _, hstage⟩ := exists_tornDown h ht htears now
  have hlater := h.run steps
  have htorn := hlater.isTornDown_of_returned (List.mem_of_getElem? hlast) hstage
  have hcount := hlater.closings.2 htorn
  rw [List.count_append, huntold, Nat.zero_add] at hcount
  have htold : .closed ∈ (l.run steps).2 := by
    rw [← List.count_pos_iff, hcount]
    exact Nat.one_pos
  obtain ⟨before, after, hsplit⟩ := List.append_of_mem htold
  let word := ((l.run steps).1.step now event).2
  refine ⟨steps ++ [(now, event)], before, after ++ word, ?_, ?_⟩
  · rw [run_append, hsplit]
    show before ++ .closed :: after ++ (word ++ []) = _
    rw [List.append_nil, List.append_assoc, List.cons_append]
  · intro hempty
    exact hlate hawaits (List.append_eq_nil_iff.1 hempty).2

/-- So may a supervisor that is about to tell something. -/
theorem overtakable_of_telling {s : Slot} {event : SlotEvent} (hs : l.pool.slots[i]? = some s)
    (hstand : l.stand i = .doing (.tell event)) : Overtakable l := by
  refine overtakable_of_late h hclosed huntold 0 (.supervisor i) fun {t m} hawaits => ?_
  have hlt : i < m.pool.slots.length := by
    rw [hawaits.size]
    exact (List.getElem?_eq_some_iff.1 hs).1
  show (m.supervise 0 i).2 ≠ []
  rw [supervise, List.getElem?_eq_getElem hlt, hawaits.stand, hstand]
  exact List.cons_ne_nil _ _

/-- And the task that probes, if it has a verdict to tell. -/
theorem overtakable_of_verdict (hverdict : l.verdicts ≠ []) : Overtakable l := by
  refine overtakable_of_late h hclosed huntold 0 .prober fun {t m} hawaits => ?_
  obtain ⟨verdict, rest, hverdicts⟩ := List.exists_cons_of_ne_nil hverdict
  show (m.probe 0).2 ≠ []
  rw [probe, hawaits.verdicts, hverdicts]
  exact List.cons_ne_nil _ _

/-- Before that it judges the outcomes that it has. -/
theorem overtakable_of_outcome (hquiet : l.verdicts = [])
    (htells : (l.pool.judge now l.outcomes).2 ≠ []) : Overtakable l := by
  induction houtcomes : l.outcomes generalizing l told with
  | nil =>
      rw [houtcomes] at htells
      exact absurd rfl htells
  | cons outcome rest ih =>
      obtain ⟨position, valid⟩ := outcome
      let judged := l.pool.probed now position valid
      have hstep : l.step now .prober =
          ({ l with pool := judged.1, outcomes := rest, verdicts := judged.2 }, []) := by
        show l.probe now = _
        rw [probe, hquiet, houtcomes]
      have hlater := h.step now .prober
      rw [hstep, List.append_nil] at hlater
      obtain ⟨_, hsame, _, _⟩ := l.pool.probed_recedes now position valid
      have hrun : (l.run [(now, .prober)]).1 =
          { l with pool := judged.1, outcomes := rest, verdicts := judged.2 } :=
        congrArg Prod.fst hstep
      apply Overtakable.of_run [(now, .prober)]
      rw [hrun]
      by_cases hverdict : judged.2 = []
      · refine ih hlater (hsame.trans hclosed) huntold hverdict ?_ rfl
        rw [houtcomes, Pool.judge] at htells
        intro hnothing
        exact htells (List.append_eq_nil_iff.2 ⟨hverdict, hnothing⟩)
      · exact overtakable_of_verdict hlater (hsame.trans hclosed) huntold hverdict

/-- A supervisor that is at an attempt may find that it failed. -/
theorem overtakable_of_attempt {s : Slot} (hs : l.pool.slots[i]? = some s)
    (hstand : l.stand i = .waiting) {handshake : Option Handshake}
    (hattempting : s.supervisor = .attempting handshake) : Overtakable l := by
  have hfails : ∃ (event : Pool.Event) (shared : Shared) (cause : ClientError),
      event.position? = some i ∧ l.pool.woken 0 i s event =
        ({ l.pool with shared }, .doing (.tell (.connectFailed cause))) := by
    cases handshake with
    | none =>
        refine ⟨.unreachable i .connectionClosed, l.pool.shared, .connectionClosed, rfl, ?_⟩
        rw [Pool.woken, hattempting]
    | some handshake =>
        have hover : l.pool.woken 0 i s (.handshake i .timeOut) =
            l.pool.attempted i s (handshake.timeOut 0) := by
          rw [Pool.woken, hattempting]
          rfl
        exact ⟨.handshake i .timeOut, _, _, rfl, hover⟩
  obtain ⟨event, shared, cause, hposition, hwoken⟩ := hfails
  have hstep : l.step 0 (.pool event) =
      (l.moved i ({ l.pool with shared }, .doing (.tell (.connectFailed cause))), []) := by
    show (l.onPool 0 event, []) = _
    rw [onPool_of_waiting hposition hs hstand, hwoken]
  have hlater := h.step 0 (.pool event)
  rw [hstep, List.append_nil] at hlater
  apply Overtakable.of_run [(0, .pool event)]
  rw [show (l.run [(0, .pool event)]).1 = _ from congrArg Prod.fst hstep]
  exact overtakable_of_telling hlater hclosed huntold hs (if_pos rfl)

end Passed

/-! ## The moment in which the pool is closed -/

/-- A client whose pool a call has closed just now. -/
def claimed (l : ThreadedClient) (i : Nat) : ThreadedClient :=
  { l with pool := { l.pool with isClosed := true }, calls := l.calls.set i ⟨true, .gathering⟩ }

theorem proceed_of_open (hopen : l.pool.isClosed = false) (hcall : l.calls[i]? = some call)
    (hstage : call.stage = .claiming) (now : Nat) : l.proceed now i = (l.claimed i, []) := by
  have hadvance : l.advance now call =
      ({ l.pool with isClosed := true }, ⟨true, .gathering⟩, []) := by
    unfold advance
    rw [hstage]
    dsimp only
    rw [hopen]
    rfl
  rw [proceed, hcall]
  dsimp only
  rw [hadvance, hstage]
  rfl

/-- A client whose tasks are still when its pool is closed. -/
theorem Orderly.winding_claimed (h : Orderly l told) (hopen : l.pool.isClosed = false)
    (hcall : l.calls[i]? = some call) (hstill : Still l) :
    Winding (l.claimed i) (l.claimed i) [] where
  still := hstill.of_recedes (q := (l.claimed i).pool) (.of_eq rfl rfl rfl) (.of_eq rfl rfl) rfl rfl
    rfl rfl
  unprobed := h.unprobed (List.ne_nil_of_mem (List.mem_of_getElem? hcall))
  windsDown := .refl rfl
  emptied {other} j s hother htearing hstage _ := by
    obtain ⟨k, hk⟩ := List.mem_iff_getElem?.1 hother
    -- Nobody but the call that has closed the pool tears it down, and that has only begun.
    rcases getElem?_set_cases hk with ⟨_, rfl⟩ | ⟨_, hold⟩
    · cases hstage
    · rw [h.isTearing_of_open hopen (List.mem_of_getElem? hold)] at htearing
      cases htearing
  toldClosed he := absurd he List.not_mem_nil

section Claimed

variable (h : Orderly (l.claimed i) told) (huntold : told.count .closed = 0)
  (hstays : ∀ more, StaysClosed (l.claimed i) ((l.claimed i).run more).1 ((l.claimed i).run more).2)

include hstays

/-- A client that stays closed cannot be overtaken. -/
theorem not_overtakable : ¬ Overtakable (l.claimed i) := by
  rintro ⟨steps, before, after, htold, hafter⟩
  exact hafter ((hstays steps).toldLast htold)

include h huntold

/-- Its supervisors were calm when its pool was closed. -/
theorem isCalm_of_staysClosed {j : Nat} {s : Slot} (hs : l.pool.slots[j]? = some s) :
    (l.stand j).IsCalm s.supervisor := by
  have hnot := not_overtakable hstays
  have hclosed : (l.claimed i).pool.isClosed = true := rfl
  cases hstand : l.stand j with
  | waiting =>
      intro handshake hattempting
      exact hnot (overtakable_of_attempt h hclosed huntold hs hstand hattempting)
  | looking deed => trivial
  | doing deed =>
      cases deed with
      | tell event => exact hnot (overtakable_of_telling h hclosed huntold hs hstand)
      | install c =>
          -- The installation adds a connection to those that were there.
          have hlength := (hstays [(0, .supervisor j)]).windsDown.length
          have hstep : ((l.claimed i).run [(0, .supervisor j)]).1.pool =
              ((l.claimed i).pool.install 0 j s c).1 := by
            show ((l.claimed i).supervise 0 j).1.pool = _
            have hs' : (l.claimed i).pool.slots[j]? = some s := hs
            have hstand' : (l.claimed i).stand j = .doing (.install c) := hstand
            rw [supervise, hs']
            dsimp only
            rw [hstand']
            rfl
          obtain ⟨q, hages, _, _, hinstall⟩ := (l.claimed i).pool.install_parts 0 j s c
          have hlonger : q.conns.length = (l.claimed i).pool.conns.length + 1 :=
            hages.length.trans List.length_append
          rw [hstep, hinstall] at hlength
          exact Nat.succ_ne_self _ (hlonger.symm.trans hlength)

/-- And the task that probes had nothing to tell. -/
theorem judged_of_staysClosed (now : Nat) :
    l.verdicts ++ (l.pool.judge now l.outcomes).2 = [] := by
  have hnot := not_overtakable hstays
  have hclosed : (l.claimed i).pool.isClosed = true := rfl
  have hquiet : l.verdicts = [] := by
    by_contra hverdict
    exact hnot (overtakable_of_verdict h hclosed huntold hverdict)
  have hsame : l.pool.SameHealth (l.claimed i).pool := .of_eq rfl rfl
  rw [hquiet, List.nil_append, ← hsame.judge now now]
  by_contra htells
  exact hnot (overtakable_of_outcome h hclosed huntold hquiet htells)

end Claimed

/-- A client stays closed if and only if its tasks were still when its pool was closed. -/
theorem Orderly.staysClosed_iff (h : Orderly l told) (hopen : l.pool.isClosed = false)
    (hcall : l.calls[i]? = some call) (hstage : call.stage = .claiming) (now : Nat) :
    let first := (l.proceed now i).1
    (∀ more, StaysClosed first (first.run more).1 (first.run more).2) ↔ Still l := by
  have hlater := h.proceed now hcall
  rw [proceed_of_open hopen hcall hstage, List.append_nil] at hlater
  rw [proceed_of_open hopen hcall hstage]
  constructor
  · intro hstays
    have huntold := (h.untouched hopen).2
    exact ⟨isCalm_of_staysClosed hlater huntold hstays,
      judged_of_staysClosed hlater huntold hstays⟩
  · intro hstill more
    have hwinding := (h.winding_claimed hopen hcall hstill).run hlater more
    rw [List.nil_append] at hwinding
    exact hwinding.staysClosed (hlater.run more)

/-! ## Every run -/

/-- Nothing opens a pool again that is closed. -/
theorem isClosed_of_act {outcome : ThreadedClient × List PoolEvent} (hact : Act l now outcome)
    (hclosed : l.pool.isClosed = true) : outcome.1.pool.isClosed = true := by
  cases hact with
  | still | heard | announced | begun => exact hclosed
  | acted hages => exact hages.isClosed.trans hclosed
  | strode _ hstride => exact hstride.marks.1.trans hclosed
  | @judged position valid rest _ _ =>
      obtain ⟨_, hsame, _, _⟩ := l.pool.probed_recedes now position valid
      exact hsame.trans hclosed
  | @proceeded i call hcall =>
      obtain ⟨_, hpool, _, _⟩ := proceed_parts hcall now
      rw [hpool, (l.advance_marks now call).1, hclosed, Bool.true_or]

theorem isClosed_run (h : Orderly l told) (hclosed : l.pool.isClosed = true)
    (steps : List (Nat × Event)) : (l.run steps).1.pool.isClosed = true := by
  induction steps generalizing l told with
  | nil => exact hclosed
  | cons step rest ih =>
      have hact := step_act h.accounted h.free step.1 step.2
      exact ih (h.of_act hact) (isClosed_of_act hact hclosed)

/-- What is to be expected of a client that any number of callers close, whichever of its threads
is faster. -/
structure ClosesInTurn (l : ThreadedClient) (told : List PoolEvent) : Prop where
  /-- the pool is closed by a call that tears it down -/
  closed_iff : l.pool.isClosed = true ↔ ∃ call ∈ l.calls, call.isTearing = true
  /-- of which there is one only -/
  sole {i j : Nat} {call other : ClosingCall} : l.calls[i]? = some call → l.calls[j]? = some other →
    call.isTearing = true → other.isTearing = true → i = j
  /-- that the pool is closed is told once at most -/
  toldOnce : told.count .closed ≤ 1
  /-- and has been told when it is torn down -/
  told : l.pool.isTornDown = true → told.count .closed = 1
  /-- no call comes back before that -/
  returned {call : ClosingCall} : call ∈ l.calls → call.stage = .returned → l.pool.isTornDown = true
  /-- every call can come back -/
  comesBack {i : Nat} {call : ClosingCall} : l.calls[i]? = some call →
    ∃ steps last, (l.run steps).1.calls[i]? = some last ∧ last.stage = .returned
  /-- a pool that is closed refuses everything, whatever happens -/
  refuses : l.pool.isClosed = true → ∀ more, (l.run more).1.pool.Refuses

theorem Orderly.closesInTurn (h : Orderly l told) : ClosesInTurn l told where
  closed_iff := h.claimed
  sole := h.sole
  toldOnce := h.closings.1
  told := h.closings.2
  returned := h.isTornDown_of_returned
  comesBack hcall := exists_returned h hcall 0
  refuses hclosed more := Pool.refuses_of_closed (isClosed_run h hclosed more)

/-- However many callers close a client, and whatever its tasks are about meanwhile: one of them
tears the pool down, and all of them come back after that.  Nothing is installed from the moment on
in which the pool was closed, nothing is told after that it is closed, and no connection is left
open, if and only if none of the tasks was on its way in that moment. -/
theorem stays_closed_iff_still {dial : Dialer} {host : Host} {config : ClientConfig}
    {hooks : ClientHooks} {client : Client}
    (hconnect : (Client.connect dial host config hooks).result = .ok client)
    (steps : List (Nat × Event)) :
    let l := (client.threaded.run steps).1
    ClosesInTurn l (client.threaded.run steps).2 ∧
      ∀ i call now, l.pool.isClosed = false → l.calls[i]? = some call → call.stage = .claiming →
        let closed := (l.proceed now i).1
        (∀ more, StaysClosed closed (closed.run more).1 (closed.run more).2) ↔ Still l := by
  have hbegun : Orderly client.threaded [] :=
    .initial (LiveClient.opened_of_connect hconnect) _ _
  have hnow := hbegun.run steps
  rw [List.nil_append] at hnow
  exact ⟨hnow.closesInTurn, fun i call now hopen hcall hstage =>
    hnow.staysClosed_iff hopen hcall hstage now⟩

namespace Overtaken

open LiveClient.Farewell (client config dial)

/-- The server answers a request of the handshake. -/
def answered (sync : UInt64) (body : Body) : Event :=
  let packet : Packet := ⟨Header.response Status.ok sync 1, body⟩
  .pool (.handshake 0 (.conn (.receive ⟨packet.payload, packet⟩)))

/-- The connection is lost, and another one is made; its supervisor has seen that the pool is open
when somebody begins to close the client. -/
def reconnected : List (Nat × Event) :=
  let greeting := Greeting.encode ⟨"Tarantool 3.1.0", List.replicate 20 7⟩
  [(1, .pool (.conn 0 .shutdown)), (2, .pool (.lost 0)), (3, .supervisor 0), (4, .supervisor 0),
    (5, .supervisor 0), (6, .supervisor 0), (506, .pool (.rested 0)),
    (507, .pool (.greeted 0 (.ofMillis 1000) greeting)), (508, answered 1 (Body.identify 3 .all)),
    (509, answered 2 Body.empty), (510, .supervisor 0), (511, .close)]

/-- The client is closed. -/
def closing : List (Nat × Event) := (List.range 10).map fun n => (512 + n, .proceed 0)

/-- The supervisor goes on. -/
def late : List (Nat × Event) := [(522, .supervisor 0), (523, .supervisor 0)]

/-- After the call has come back and the pool has told that it is closed, a connection is installed
and told of, and it stays open. -/
theorem connected_after_closed :
    let closed := client.threaded.run (reconnected ++ closing)
    let later := closed.1.run late
    closed.1.calls = [⟨true, .returned⟩] ∧ closed.1.pool.slots.map Slot.conn = [none] ∧
      closed.2 = [.slot "default" 0 .disconnected,
        .slot "default" 0 (.reconnecting (.ofMillis 500)), .closed] ∧
      later.2 = [.slot "default" 0 .connected] ∧ later.1.pool.slots.map Slot.conn = [some 1] ∧
      later.1.pool.conns.map Connection.isClosed = [true, false] := by
  decide +kernel

/-- Closed in that moment the client does not stay so; closed while its supervisor waits for the
loss of the connection, it does. -/
theorem stays_closed_iff_still_of_reconnected :
    let first := (client.threaded.run [(1, .close)]).1.proceed 2 0
    let second := (client.threaded.run reconnected).1.proceed 512 0
    (∀ more, StaysClosed first.1 (first.1.run more).1 (first.1.run more).2) ∧
      ¬ ∀ more, StaysClosed second.1 (second.1.run more).1 (second.1.run more).2 := by
  have hconnect : (Client.connect dial .bare config {}).result = .ok client := by
    rfl
  obtain ⟨_, hfirst⟩ := stays_closed_iff_still hconnect [(1, .close)]
  obtain ⟨_, hsecond⟩ := stays_closed_iff_still hconnect reconnected
  constructor
  · have hwatching : ∀ s ∈ client.pool.slots, Stand.waiting.IsCalm s.supervisor := by
      decide +kernel
    have hstill : Still (client.threaded.run [(1, .close)]).1 :=
      ⟨fun {i s} hs => hwatching s (List.mem_of_getElem? hs), fun now => rfl⟩
    exact (hfirst 0 {} 2 (by decide +kernel) (by decide +kernel) rfl).2 hstill
  · intro hstays
    have hstill := (hsecond 0 {} 512 (by decide +kernel) (by decide +kernel) rfl).1 hstays
    exact Still.not_of_any 0 (by decide +kernel) hstill

end Overtaken

end TupleWire.ThreadedClient

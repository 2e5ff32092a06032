/-
  Steps with nothing in between.

  A client in use takes each of its steps to the next wait at once.  Such a step
  is several of a client on several threads, and `Leads` is what it takes to
  come from one client to another: a supervisor goes on until it waits, the task
  that probes judges an outcome and tells its verdict, and a call goes on until
  it waits for the teardown or has come back.  So whatever a client does whose
  tasks do not overtake each other is also done by one whose tasks may.
-/
import TupleWire.Proofs.Client.Teardown
import TupleWire.Proofs.Pool.Quarantine

set_option autoImplicit false

namespace TupleWire

namespace Pool

/-! ## A teardown, slot by slot -/

variable {p : Pool} {now n : Nat} {s : Slot}

/-- Acting on a connection has nothing to do with the slots. -/
theorem perform_slots (p : Pool) (slots : List Slot) (now : Nat) (action : Action) (n : Nat) :
    ({ p with slots } : Pool).perform now action n = { p.perform now action n with slots } := by
  unfold perform act
  dsimp only
  cases p.conns[n]? with
  | none => rfl
  | some c => rfl

theorem performOn_slots (p : Pool) (slots : List Slot) (now : Nat) (s : Slot) (action : Action) :
    ({ p with slots } : Pool).performOn now s action = { p.performOn now s action with slots } := by
  unfold performOn
  cases s.conn with
  | none => rfl
  | some n => exact p.perform_slots slots now action n

/-- What has become of a pool when somebody went over the first of its slots, did something to the
pool for each of them, and put another one into its place. -/
def swept (touch : Pool → Slot → Pool) (replace : Slot → Slot) (p : Pool) (n : Nat) : Pool :=
  { (p.slots.take n).foldl touch p with
    slots := (p.slots.take n).map replace ++ p.slots.drop n }

section Sweep

variable {touch : Pool → Slot → Pool} {replace : Slot → Slot}

theorem length_slots_swept (p : Pool) (n : Nat) :
    (p.swept touch replace n).slots.length = p.slots.length := by
  show ((p.slots.take n).map replace ++ p.slots.drop n).length = _
  rw [List.length_append, List.length_map, ← List.length_append, List.take_append_drop]

/-- The slots that come next are as they were. -/
theorem slot_swept (hs : p.slots[n]? = some s) :
    (p.swept touch replace n).slots[n]? = some s := by
  have hlt : n < p.slots.length := (List.getElem?_eq_some_iff.1 hs).1
  have hlength : ((p.slots.take n).map replace).length = n := by
    rw [List.length_map, List.length_take_of_le (Nat.le_of_lt hlt)]
  show ((p.slots.take n).map replace ++ p.slots.drop n)[n]? = some s
  rw [List.getElem?_append_right (Nat.le_of_eq hlength), hlength, Nat.sub_self, List.getElem?_drop,
    Nat.add_zero, hs]

theorem swept_succ (htouch : ∀ q slots s, touch { q with slots } s = { touch q s with slots })
    (hs : p.slots[n]? = some s) :
    (touch (p.swept touch replace n) s).setSlot n (replace s) = p.swept touch replace (n + 1) := by
  obtain ⟨hlt, hat⟩ := List.getElem?_eq_some_iff.1 hs
  have hlength : ((p.slots.take n).map replace).length = n := by
    rw [List.length_map, List.length_take_of_le (Nat.le_of_lt hlt)]
  have hslots : ((p.slots.take n).map replace ++ p.slots.drop n).set n (replace s) =
      (p.slots.take (n + 1)).map replace ++ p.slots.drop (n + 1) := by
    rw [List.set_append_right _ _ (Nat.le_of_eq hlength), hlength, Nat.sub_self,
      List.drop_eq_getElem_cons hlt, List.set_cons_zero, List.take_add_one, hs, List.map_append,
      List.append_assoc]
    rfl
  have hfold : (p.slots.take (n + 1)).foldl touch p = touch ((p.slots.take n).foldl touch p) s := by
    rw [List.take_add_one, hs, List.foldl_append]
    rfl
  unfold swept
  rw [htouch, hfold, setSlot, hslots]

theorem swept_length (p : Pool) : p.swept touch replace p.slots.length =
    { p.slots.foldl touch p with slots := p.slots.map replace } := by
  rw [swept, List.take_length, List.drop_length, List.append_nil]

end Sweep

theorem performAll_slots (p : Pool) (slots : List Slot) (now : Nat) (action : Action)
    (ns : List Nat) :
    ({ p with slots } : Pool).performAll now action ns =
      { p.performAll now action ns with slots } := by
  induction ns generalizing p with
  | nil => rfl
  | cons n rest ih =>
      show ((({ p with slots } : Pool).perform now action n).performAll now action rest) = _
      rw [perform_slots]
      exact ih _

/-- Acting on the connections of slots, one after the other. -/
theorem foldl_performOn (p : Pool) (slots : List Slot) (now : Nat) (action : Action) :
    slots.foldl (fun q s => q.performOn now s action) p =
      p.performAll now action (slots.filterMap Slot.conn) := by
  rw [performAll, List.foldl_filterMap]
  congr 1
  funext q s
  unfold performOn
  cases s.conn with
  | none => rfl
  | some n => rfl

/-- A teardown goes over the slots twice: it stops the supervisors, and then it empties the
slots. -/
theorem tearDown_eq_swept (hcan : p.canTearDown = true) (now : Nat) :
    let stopped := p.swept (fun q _ => q) (fun s => { s with supervisor := .stopped })
      p.slots.length
    let emptied := stopped.swept (fun q s => q.performOn now s .shutdown)
      (fun s => { s with conn := none }) stopped.slots.length
    p.tearDown now = ({ emptied with isTornDown := true }, [.closed]) := by
  let ended (s : Slot) : Slot := { s with supervisor := .stopped }
  have hstopped : p.swept (fun q _ => q) ended p.slots.length =
      { p with slots := p.slots.map ended } := by
    rw [swept_length, List.foldl_fixed]
  have hinstalled : (p.slots.map ended).filterMap Slot.conn = p.installed := by
    rw [List.filterMap_map]
    rfl
  have hages : Ages False p (p.performAll now .shutdown p.installed) :=
    performAll_ages False.elim p now p.installed
  have hslots : (p.installed.foldl (fun p n => p.perform now .shutdown n) p).slots = p.slots :=
    hages.slots
  show p.tearDown now = _
  rw [hstopped]
  dsimp only
  rw [swept_length]
  dsimp only
  rw [foldl_performOn, hinstalled, performAll_slots, tearDown, if_pos hcan]
  dsimp only
  rw [hslots, List.map_map]
  rfl

end Pool

/-! ## Clients whose tasks wait -/

/-- A call as one that goes step by step, where it waits for something or has come back. -/
def CloseCall.threaded (call : CloseCall) : ClosingCall where
  isTearing := call.isTearing
  stage := if call.hasReturned then .returned else if call.isTearing then .draining else .waiting

/-- A client whose tasks all wait. -/
def LiveClient.threaded (l : LiveClient) : ThreadedClient where
  pool := l.pool
  isProbing := l.isProbing
  runtime := l.runtime
  released := l.released
  calls := l.calls.map CloseCall.threaded

namespace ThreadedClient

variable {l m k : ThreadedClient} {p : Pool} {now i t : Nat} {s : Slot}
  {call : ClosingCall} {told more : List PoolEvent}

/-- One client comes to be another by some steps, and something is told meanwhile. -/
def Leads (l m : ThreadedClient) (told : List PoolEvent) : Prop :=
  ∃ steps, l.run steps = (m, told)

namespace Leads

theorem refl (l : ThreadedClient) : Leads l l [] := ⟨[], rfl⟩

theorem trans (hlm : Leads l m told) (hmk : Leads m k more) : Leads l k (told ++ more) := by
  obtain ⟨first, hfirst⟩ := hlm
  obtain ⟨second, hsecond⟩ := hmk
  refine ⟨first ++ second, ?_⟩
  rw [run_append, hfirst, hsecond]

theorem of_step (now : Nat) (event : Event) (hstep : l.step now event = (m, told)) :
    Leads l m told := by
  refine ⟨[(now, event)], ?_⟩
  show ((l.step now event).1, (l.step now event).2 ++ []) = (m, told)
  rw [hstep, List.append_nil]

/-! ## Supervisors -/

/-- A supervisor goes on from where it is. -/
theorem goesOn (hs : p.slots[i]? = some s) (now : Nat) (stand : Stand) :
    Leads (l.moved i (p, stand)) (l.moved i (p.goesOn now i s stand).1)
      (p.goesOn now i s stand).2 := by
  have hstand : (l.moved i (p, stand)).stand i = stand := if_pos rfl
  have hslot : (l.moved i (p, stand)).pool.slots[i]? = some s := hs
  have hmoved (reached : Pool × Stand) :
      (l.moved i (p, stand)).moved i reached = l.moved i reached := by
    unfold moved
    congr 1
    funext j
    dsimp only
    split
    · rfl
    · rfl
  refine of_step now (.supervisor i) ?_
  show (l.moved i (p, stand)).supervise now i = _
  rw [supervise, hslot]
  dsimp only
  rw [hstand, hmoved]
  rfl

/-- It finds the pool closed. -/
theorem stops (hs : p.slots[i]? = some s) (hclosed : p.isClosed = true) (now : Nat) (deed : Deed) :
    Leads (l.moved i (p, .looking deed))
      (l.moved i ((p.discard now deed).supervise i s .stopped, .waiting)) [] := by
  have hlooks := goesOn (l := l) hs now (.looking deed)
  rw [Pool.goesOn, Pool.looked, if_pos hclosed] at hlooks
  exact hlooks

/-- It finds the pool open. -/
theorem dares (hs : p.slots[i]? = some s) (hopen : p.isClosed = false) (now : Nat) (deed : Deed) :
    Leads (l.moved i (p, .looking deed)) (l.moved i (p.done now i s deed).1)
      (p.done now i s deed).2 := by
  have hlooks := goesOn (l := l) hs now (.looking deed)
  rw [Pool.goesOn, Pool.looked, hopen] at hlooks
  exact hlooks.trans (goesOn hs now (.doing deed))

/-- It waits before the next attempt, unless the pool is closed. -/
theorem rests (hs : p.slots[i]? = some s) (now : Nat) :
    Leads (l.moved i (p, .looking (.tell (.reconnecting p.config.reconnectDelay))))
      (l.moved i ((p.rest i s).1, .waiting)) (p.rest i s).2 := by
  rw [Pool.rest]
  cases hclosed : p.isClosed with
  | true => exact stops hs hclosed now _
  | false => exact dares hs hclosed now _

/-- An attempt failed, and this is told. -/
theorem fails (hs : p.slots[i]? = some s) (now : Nat) (cause : ClientError) :
    Leads (l.moved i (p, .doing (.tell (.connectFailed cause))))
      (l.moved i ((p.fail i s cause).1, .waiting)) (p.fail i s cause).2 :=
  (goesOn hs now _).trans (rests hs now)

/-- An attempt succeeded, and its connection is installed if the pool is open. -/
theorem succeeds (hs : p.slots[i]? = some s) (now : Nat) (c : Connection) :
    Leads (l.moved i (p, .looking (.install c))) (l.moved i ((p.succeed now i s c).1, .waiting))
      (p.succeed now i s c).2 := by
  cases hclosed : p.isClosed with
  | true =>
      rw [Pool.succeed, if_pos hclosed]
      exact stops hs hclosed now _
  | false =>
      obtain ⟨q, hages, _, _, hinstall⟩ := p.install_parts now i s c
      have hslot : (p.install now i s c).1.slots[i]? =
          some { s with conn := some p.conns.length, supervisor := .watching p.conns.length } := by
        rw [hinstall]
        show (q.slots.set i _)[i]? = _
        rw [hages.slots]
        exact List.getElem?_set_self (List.getElem?_eq_some_iff.1 hs).1
      rw [Pool.succeed, if_neg (by simp [hclosed])]
      exact (dares hs hclosed now _).trans (goesOn hslot now _)

/-- An attempt goes on. -/
theorem attempts (hs : p.slots[i]? = some s) (now : Nat)
    (progress : HandshakeProgress × List Effect) :
    Leads (l.moved i (p.attempted i s progress))
      (l.moved i ((p.proceed now i s progress).1, .waiting)) (p.proceed now i s progress).2 := by
  obtain ⟨progress, effects⟩ := progress
  let acted : Pool := { p with shared := p.shared.applyAll effects }
  have hslot : acted.slots[i]? = some s := hs
  cases progress with
  | going h => exact refl _
  | ready c => exact succeeds hslot now c
  | failed c cause => exact fails hslot now cause

/-- The loss of a connection is noticed. -/
theorem notices (hs : p.slots[i]? = some s) (now n : Nat) :
    Leads (l.moved i (p.setSlot i { s with conn := s.conn.filter (· ≠ n) },
        .looking (.tell .disconnected)))
      (l.moved i ((p.notice i s n).1, .waiting)) (p.notice i s n).2 := by
  let free : Slot := { s with conn := s.conn.filter (· ≠ n) }
  let freed : Pool := p.setSlot i free
  have hslot : freed.slots[i]? = some free :=
    List.getElem?_set_self (List.getElem?_eq_some_iff.1 hs).1
  have hsupervise (next : Supervisor) : freed.supervise i free next = p.supervise i free next :=
    p.setSlot_setSlot i _ _
  have hrest : freed.rest i free = p.rest i free := by
    rw [Pool.rest, Pool.rest, hsupervise, hsupervise]
    rfl
  cases hclosed : p.isClosed with
  | true =>
      have hstops := stops (l := l) hslot hclosed now (.tell .disconnected)
      rw [Pool.discard, hsupervise] at hstops
      rw [Pool.notice, if_pos hclosed]
      exact hstops
  | false =>
      have hrests := rests (l := l) hslot now
      rw [hrest] at hrests
      rw [Pool.notice, if_neg (by simp [hclosed])]
      exact (dares hslot hclosed now _).trans hrests

/-- A supervisor that is woken goes on to its next wait. -/
theorem wakes {event : Pool.Event} (hposition : event.position? = some i)
    (hs : l.pool.slots[i]? = some s) (hwaits : l.stand i = .waiting) (now : Nat) :
    Leads l (l.moved i ((l.pool.stepSlot now i s event).1, .waiting))
      (l.pool.stepSlot now i s event).2 := by
  have hwakes : Leads l (l.moved i (l.pool.woken now i s event)) [] := by
    refine of_step now (.pool event) ?_
    show (l.onPool now event, []) = _
    rw [onPool_of_waiting hposition hs hwaits]
  refine hwakes.trans ?_
  have hkept (q : Pool) : Leads (l.moved i (q, .waiting)) (l.moved i (q, .waiting)) [] := refl _
  unfold Pool.woken Pool.stepSlot
  cases event with
  | greeted position requestTimeout raw =>
      cases s.supervisor with
      | watching n | resting | stopped => exact hkept _
      | attempting handshake =>
          cases handshake with
          | some handshake => exact hkept _
          | none =>
              dsimp only
              cases Connection.greeted s.group s.index requestTimeout now raw with
              | error cause => exact fails hs now cause
              | ok progress => exact attempts hs now progress
  | handshake position event =>
      cases s.supervisor with
      | watching n | resting | stopped => exact hkept _
      | attempting handshake =>
          cases handshake with
          | none => exact hkept _
          | some handshake => exact attempts hs now _
  | unreachable position cause =>
      cases s.supervisor with
      | watching n | resting | stopped => exact hkept _
      | attempting handshake =>
          cases handshake with
          | some handshake => exact hkept _
          | none => exact fails hs now cause
  | lost position =>
      cases hwatching : s.supervisor with
      | attempting handshake | resting | stopped => exact hkept _
      | watching n =>
          have hnotices := notices (l := l) hs now n
          rw [hwatching] at hnotices
          dsimp only
          split
          · exact hnotices
          · exact hkept _
  | dismissed position =>
      cases s.supervisor with
      | attempting handshake | stopped => exact hkept _
      | watching n | resting =>
          dsimp only
          split
          · exact hkept _
          · exact hkept _
  | rested position =>
      cases s.supervisor with
      | attempting handshake | watching n | resting | stopped => exact hkept _
  | conn | probed | watch | unwatch | close | drained | graceOver | tearDown => cases hposition

/-! ## The task that probes -/

/-- It tells every verdict that it has. -/
theorem announces (l : ThreadedClient) (now : Nat) :
    Leads l { l with verdicts := [] } l.verdicts := by
  induction hverdicts : l.verdicts generalizing l with
  | nil =>
      have hsame : ({ l with verdicts := [] } : ThreadedClient) = l := by
        rw [← hverdicts]
      rw [hsame]
      exact refl l
  | cons verdict rest ih =>
      have hstep : l.step now .prober = ({ l with verdicts := rest }, [verdict]) := by
        show l.probe now = _
        rw [probe, hverdicts]
      exact (of_step now .prober hstep).trans (ih { l with verdicts := rest } rfl)

/-- It hears of an outcome, judges it and tells its verdict. -/
theorem judges {l : LiveClient} (hprobing : l.isProbing = true) (now position : Nat)
    (valid : Bool) :
    Leads l.threaded
      ({ l with pool := (l.pool.probed now position valid).1 } : LiveClient).threaded
      (l.pool.probed now position valid).2 := by
  let heard : ThreadedClient := { l.threaded with outcomes := [(position, valid)] }
  let judged : ThreadedClient := { l.threaded with
    pool := (l.pool.probed now position valid).1
    verdicts := (l.pool.probed now position valid).2 }
  have hhears : Leads l.threaded heard [] := by
    refine of_step now (.probed [(position, valid)]) ?_
    have hidle : (l.isProbing && true && true) = true := by
      rw [hprobing]
      rfl
    exact congrArg (·, []) (if_pos hidle)
  have hjudges : Leads heard judged [] := of_step now .prober rfl
  exact hhears.trans (hjudges.trans (announces judged now))

/-! ## Calls -/

/-- A call goes on that does not take the threads. -/
theorem proceeds (hcall : l.calls[t]? = some call) (hstage : call.stage ≠ .leaving) (now : Nat) :
    Leads l { l with
      pool := (l.advance now call).1
      calls := l.calls.set t (l.advance now call).2.1 } (l.advance now call).2.2 := by
  refine of_step now (.proceed t) ?_
  show l.proceed now t = _
  rw [proceed, hcall]
  dsimp only
  rw [if_neg hstage]

/-- A call takes the threads and comes back. -/
theorem leaves (hcall : l.calls[t]? = some call) (hstage : call.stage = .leaving) (now : Nat) :
    Leads l { l.takeThreads with calls := l.calls.set t (call.goTo .returned) } [] := by
  refine of_step now (.proceed t) ?_
  show l.proceed now t = _
  rw [proceed, hcall]
  dsimp only
  rw [advance, hstage]
  rfl

/-- A call begins: it closes the pool, or finds that another one has. -/
theorem begins (l : LiveClient) (now : Nat) : Leads l.threaded (l.beginClose now).threaded [] := by
  -- The client whose last call has come so far.
  let begun (p : Pool) (call : ClosingCall) : ThreadedClient :=
    { l.threaded with
      pool := p
      isProbing := false
      calls := l.calls.map CloseCall.threaded ++ [call] }
  have hgoes (p : Pool) (call : ClosingCall) (hstage : call.stage ≠ .leaving) :
      let next := (begun p call).advance now call
      Leads (begun p call) (begun next.1 next.2.1) next.2.2 := by
    have hlength : (l.calls.map CloseCall.threaded).length = l.calls.length := List.length_map _
    have hcall : (begun p call).calls[l.calls.length]? = some call := by
      rw [← hlength]
      exact List.getElem?_concat_length
    have hset (next : ClosingCall) : (begun p call).calls.set l.calls.length next =
        l.calls.map CloseCall.threaded ++ [next] := by
      show (l.calls.map CloseCall.threaded ++ [call]).set l.calls.length next = _
      rw [← hlength, List.set_append_right _ _ (Nat.le_refl _), Nat.sub_self]
      rfl
    have hproceeds := proceeds hcall hstage now
    rw [hset] at hproceeds
    exact hproceeds
  have hbegins : Leads l.threaded (begun l.pool {}) [] := of_step now .close rfl
  have hclaims := hbegins.trans (hgoes l.pool {} (by simp))
  cases hclosed : l.pool.isClosed with
  | true =>
      have hadvance : (begun l.pool {}).advance now {} = (l.pool, ⟨false, .waiting⟩, []) :=
        if_pos hclosed
      have hlast : begun l.pool ⟨false, .waiting⟩ = (l.beginClose now).threaded := by
        unfold LiveClient.beginClose LiveClient.threaded
        rw [Pool.close, if_pos hclosed, hclosed, List.map_append]
        rfl
      rw [hadvance, hlast] at hclaims
      exact hclaims
  | false =>
      let claimed : Pool := { l.pool with isClosed := true }
      have hadvance : (begun l.pool {}).advance now {} = (claimed, ⟨true, .gathering⟩, []) :=
        if_neg (by simp [begun, hclosed])
      have hlast : begun (l.pool.close now) ⟨true, .draining⟩ = (l.beginClose now).threaded := by
        unfold LiveClient.beginClose LiveClient.threaded
        rw [hclosed, List.map_append]
        rfl
      have hgathers := hgoes claimed ⟨true, .gathering⟩ (by simp)
      have hclose : ((begun claimed ⟨true, .gathering⟩).advance now ⟨true, .gathering⟩).1 =
          l.pool.close now := by
        rw [Pool.close, if_neg (by simp [hclosed])]
        rfl
      rw [hadvance] at hclaims
      rw [← hlast, ← hclose]
      exact hclaims.trans hgathers

end Leads

/-- A client with another pool, one of whose calls has come to another place. -/
def come (l : ThreadedClient) (t : Nat) (p : Pool) (call : ClosingCall) : ThreadedClient :=
  { l with pool := p, calls := l.calls.set t call }

theorem come_self (hcall : l.calls[t]? = some call) : l.come t l.pool call = l := by
  obtain ⟨hlt, hcall⟩ := List.getElem?_eq_some_iff.1 hcall
  rw [come, ← hcall, List.set_getElem_self]

theorem takeThreads_come {l : LiveClient} {call : CloseCall} (pool : Pool) :
    (l.threaded.come t pool ⟨call.isTearing, .returned⟩).takeThreads =
      (({ l with pool } : LiveClient).finish t call).threaded := by
  unfold LiveClient.finish LiveClient.threaded come takeThreads
  dsimp only
  rw [List.map_set]
  rfl

namespace Leads

theorem comes (ht : t < l.calls.length) (hstage : call.stage ≠ .leaving) (now : Nat) {p q : Pool}
    {next : ClosingCall} (hadvance : (l.come t p call).advance now call = (q, next, told)) :
    Leads (l.come t p call) (l.come t q next) told := by
  have hcall : (l.come t p call).calls[t]? = some call := List.getElem?_set_self ht
  have hset : (l.come t p call).calls.set t next = l.calls.set t next := List.set_set _
  have hproceeds := proceeds hcall hstage now
  rw [hadvance, hset] at hproceeds
  exact hproceeds

theorem comesBack (ht : t < l.calls.length) (p : Pool) (isTearing : Bool) (now : Nat) :
    Leads (l.come t p ⟨isTearing, .leaving⟩) (l.come t p ⟨isTearing, .returned⟩).takeThreads
      [] := by
  have hcall : (l.come t p ⟨isTearing, .leaving⟩).calls[t]? = some ⟨isTearing, .leaving⟩ :=
    List.getElem?_set_self ht
  have hset (next : ClosingCall) : (l.come t p ⟨isTearing, .leaving⟩).calls.set t next =
      l.calls.set t next := List.set_set _
  have hleaves := leaves hcall rfl now
  rw [hset] at hleaves
  exact hleaves

/-- A call that waits for the teardown comes back once it is over. -/
theorem returns {l : LiveClient} {call : CloseCall} (hcall : l.calls[t]? = some call)
    (hwaiting : call.threaded = ⟨call.isTearing, .waiting⟩) (htorn : l.pool.isTornDown = true)
    (now : Nat) : Leads l.threaded (l.finish t call).threaded [] := by
  have hthreaded : l.threaded.calls[t]? = some ⟨call.isTearing, .waiting⟩ := by
    rw [← hwaiting]
    exact (List.getElem?_map ..).trans (congrArg _ hcall)
  have ht : t < l.threaded.calls.length := (List.getElem?_eq_some_iff.1 hthreaded).1
  have hself : l.threaded.come t l.pool ⟨call.isTearing, .waiting⟩ = l.threaded :=
    come_self hthreaded
  have hadvance : (l.threaded.come t l.pool ⟨call.isTearing, .waiting⟩).advance now
      ⟨call.isTearing, .waiting⟩ = (l.pool, ⟨call.isTearing, .leaving⟩, []) := by
    unfold advance
    show (_, if l.pool.isTornDown = true then _ else _, []) = _
    rw [if_pos htorn]
    rfl
  have hgoes := comes ht (by simp) now hadvance
  have hback := comesBack ht l.pool call.isTearing now
  rw [hself] at hgoes
  rw [takeThreads_come] at hback
  exact hgoes.trans hback

/-! ## A teardown -/

/-- A call goes over the slots, from one to the next. -/
theorem sweeps {touch : Pool → Slot → Pool} {replace : Slot → Slot} {stage : Nat → CloseStage}
    (htouch : ∀ q slots s, touch { q with slots } s = { touch q s with slots })
    (hstep : ∀ {q n s}, q.slots[n]? = some s →
      Leads (l.come t q ⟨true, stage n⟩)
        (l.come t ((touch q s).setSlot n (replace s)) ⟨true, stage (n + 1)⟩) [])
    {n : Nat} (hn : n ≤ p.slots.length) :
    Leads (l.come t p ⟨true, stage 0⟩) (l.come t (p.swept touch replace n) ⟨true, stage n⟩) [] := by
  induction n with
  | zero => exact refl _
  | succ n ih =>
      have hs : p.slots[n]? = some p.slots[n] := List.getElem?_eq_getElem hn
      have hswept : (p.swept touch replace n).slots[n]? = some p.slots[n] := Pool.slot_swept hs
      have hnext := hstep hswept
      rw [Pool.swept_succ htouch hs] at hnext
      exact (ih (Nat.le_of_succ_le hn)).trans hnext

section Teardown

variable (ht : t < l.calls.length)

include ht

/-- It stops the supervisors where they wait. -/
theorem stopsAll (hwaits : ∀ i, l.stand i = .waiting) (p : Pool) (now : Nat) :
    Leads (l.come t p ⟨true, .stopping 0⟩)
      (l.come t (p.swept (fun q _ => q) (fun s => { s with supervisor := .stopped })
        p.slots.length) ⟨true, .emptying 0⟩) [] := by
  have hstep {q : Pool} {n : Nat} {s : Slot} (hs : q.slots[n]? = some s) :
      Leads (l.come t q ⟨true, .stopping n⟩)
        (l.come t (q.setSlot n { s with supervisor := .stopped }) ⟨true, .stopping (n + 1)⟩)
        [] := by
    have hstop : (l.come t q ⟨true, .stopping n⟩).stopAt n = q.supervise n s .stopped := by
      have hslot : (l.come t q ⟨true, .stopping n⟩).pool.slots[n]? = some s := hs
      have hstand : (l.come t q ⟨true, .stopping n⟩).stand n = .waiting := hwaits n
      rw [stopAt, hslot]
      dsimp only
      rw [hstand]
      rfl
    refine comes ht (by simp) now ((if_pos (List.getElem?_eq_some_iff.1 hs).1).trans ?_)
    rw [hstop]
    rfl
  refine (sweeps (fun _ _ _ => rfl) hstep (Nat.le_refl _)).trans
    (comes ht (by simp) now (if_neg ?_))
  exact Nat.not_lt.2 (Nat.le_of_eq (p.length_slots_swept _))

/-- It empties the slots. -/
theorem emptiesAll (p : Pool) (now : Nat) :
    Leads (l.come t p ⟨true, .emptying 0⟩)
      (l.come t (p.swept (fun q s => q.performOn now s .shutdown)
        (fun s => { s with conn := none }) p.slots.length) ⟨true, .telling⟩) [] := by
  have hstep {q : Pool} {n : Nat} {s : Slot} (hs : q.slots[n]? = some s) :
      Leads (l.come t q ⟨true, .emptying n⟩)
        (l.come t ((q.performOn now s .shutdown).setSlot n { s with conn := none })
          ⟨true, .emptying (n + 1)⟩) [] := by
    have hempty : q.emptySlot now n =
        (q.performOn now s .shutdown).setSlot n { s with conn := none } := by
      rw [Pool.emptySlot, hs]
    refine comes ht (by simp) now ((if_pos (List.getElem?_eq_some_iff.1 hs).1).trans ?_)
    rw [← hempty]
    rfl
  refine (sweeps (fun q slots s => q.performOn_slots slots now s .shutdown) hstep
    (Nat.le_refl _)).trans (comes ht (by simp) now (if_neg ?_))
  exact Nat.not_lt.2 (Nat.le_of_eq (p.length_slots_swept _))

end Teardown

/-- The call that tears the pool down does so, and comes back. -/
theorem tearsDown {l : LiveClient} {call : CloseCall} (hcall : l.calls[t]? = some call)
    (htears : call.isTearing = true) (hwaiting : call.hasReturned = false)
    (hcan : l.pool.canTearDown = true) (now : Nat) :
    Leads l.threaded
      (({ l with pool := (l.pool.tearDown now).1 } : LiveClient).finish t call).threaded
      (l.pool.tearDown now).2 := by
  have hthreaded : l.threaded.calls[t]? = some ⟨true, .draining⟩ := by
    refine (List.getElem?_map ..).trans ?_
    rw [hcall, Option.map_some, CloseCall.threaded, htears, hwaiting]
    rfl
  have ht : t < l.threaded.calls.length := (List.getElem?_eq_some_iff.1 hthreaded).1
  have hself : l.threaded.come t l.pool ⟨true, .draining⟩ = l.threaded := come_self hthreaded
  have hdrained : l.pool.closing.all l.pool.isConnClosed = true := by
    unfold Pool.canTearDown at hcan
    simp only [Bool.and_eq_true] at hcan
    exact hcan.2
  have hdrains : Leads (l.threaded.come t l.pool ⟨true, .draining⟩)
      (l.threaded.come t l.pool ⟨true, .stopping 0⟩) [] := by
    refine comes ht (by simp) now ?_
    unfold advance
    show (_, if l.pool.closing.all l.pool.isConnClosed = true then _ else _, _) = _
    rw [if_pos hdrained]
    rfl
  let stopped := l.pool.swept (fun q _ => q) (fun s => { s with supervisor := .stopped })
    l.pool.slots.length
  let emptied := stopped.swept (fun q s => q.performOn now s .shutdown)
    (fun s => { s with conn := none }) stopped.slots.length
  let torn : Pool := { emptied with isTornDown := true }
  have hstops : Leads (l.threaded.come t l.pool ⟨true, .stopping 0⟩)
      (l.threaded.come t stopped ⟨true, .emptying 0⟩) [] := stopsAll ht (fun _ => rfl) l.pool now
  have hempties : Leads (l.threaded.come t stopped ⟨true, .emptying 0⟩)
      (l.threaded.come t emptied ⟨true, .telling⟩) [] := emptiesAll ht stopped now
  have htells : Leads (l.threaded.come t emptied ⟨true, .telling⟩)
      (l.threaded.come t emptied ⟨true, .releasing⟩) [.closed] := comes ht (by simp) now rfl
  have hreleases : Leads (l.threaded.come t emptied ⟨true, .releasing⟩)
      (l.threaded.come t torn ⟨true, .leaving⟩) [] := comes ht (by simp) now rfl
  have hback := comesBack ht torn true now
  rw [← htears, takeThreads_come, htears] at hback
  rw [Pool.tearDown_eq_swept hcan now]
  rw [hself] at hdrains
  exact hdrains.trans (hstops.trans (hempties.trans (htells.trans (hreleases.trans hback))))

end Leads

end ThreadedClient

/-! ## Whole runs -/

namespace LiveClient

open ThreadedClient (Leads)

variable {l : LiveClient} {now i : Nat} {told : List PoolEvent}

theorem moved_threaded (l : LiveClient) (i : Nat) (pool : Pool) :
    l.threaded.moved i (pool, .waiting) = ({ l with pool } : LiveClient).threaded := by
  unfold ThreadedClient.moved LiveClient.threaded
  congr 1
  funext j
  exact ite_self _

/-- The call that tears the pool down comes back with that. -/
def Punctual (l : LiveClient) : Prop :=
  ∀ call ∈ l.calls, call.isTearing = true → call.hasReturned = false → l.pool.isTornDown = false

namespace Punctual

theorem of_calls {m : LiveClient} (h : Punctual l) (hcalls : m.calls = l.calls)
    (htorn : m.pool.isTornDown = l.pool.isTornDown) : Punctual m := by
  intro call hcall
  rw [hcalls] at hcall
  rw [htorn]
  exact h call hcall

/-- What happens to the pool by itself. -/
theorem pool (h : Punctual l) {event : Pool.Event} (hadmits : l.admits event = true) (now : Nat) :
    Leads l.threaded ({ l with pool := (l.pool.step now event).1 } : LiveClient).threaded
        (l.pool.step now event).2 ∧
      Punctual { l with pool := (l.pool.step now event).1 } := by
  constructor
  · have hslot {j : Nat} (hposition : event.position? = some j) :
        Leads l.threaded ({ l with pool := (l.pool.step now event).1 } : LiveClient).threaded
          (l.pool.step now event).2 := by
      rcases Pool.step_of_position? hposition with hstep | ⟨s, hs, hstep⟩
      · rw [hstep]
        exact .refl _
      · rw [hstep, ← moved_threaded l j (l.pool.stepSlot now j s event).1]
        exact Leads.wakes (l := l.threaded) hposition hs rfl now
    cases event with
    | conn number action => exact .of_step now (.pool (.conn number action)) rfl
    | watch key callback => exact .of_step now (.pool (.watch key callback)) rfl
    | unwatch key => exact .of_step now (.pool (.unwatch key)) rfl
    | drained number => exact .of_step now (.pool (.drained number)) rfl
    | graceOver => exact .of_step now (.pool .graceOver) rfl
    | probed position valid => exact .judges hadmits now position valid
    | close | tearDown => cases hadmits
    | greeted | handshake | unreachable | lost | dismissed | rested => exact hslot rfl
  · have hclose : event ≠ .close := by
      rintro rfl
      cases hadmits
    have htear : event ≠ .tearDown := by
      rintro rfl
      cases hadmits
    obtain ⟨_, htorn, _⟩ := (l.pool.step_shift now event).marks hclose htear
    exact h.of_calls rfl htorn

/-- A call that begins. -/
theorem beginClose (h : Punctual l) (hconcluding : Concluding l told) (now : Nat) :
    Punctual (l.beginClose now) := by
  obtain ⟨_, htorn⟩ := l.pool.marks_close now
  intro call hcall htears hwaiting
  show (l.pool.close now).isTornDown = false
  rw [htorn]
  rcases List.mem_append.1 hcall with hold | hnew
  · exact h call hold htears hwaiting
  · rw [List.mem_singleton.1 hnew, Bool.not_eq_true'] at htears
    cases hdone : l.pool.isTornDown with
    | false => rfl
    | true =>
        rw [(hconcluding.attended.emptied hdone).1] at htears
        cases htears

/-- A call comes back from a pool that no other call tears down. -/
theorem finish {call : CloseCall} {pool : Pool} (hothers : ∀ {j : Nat} {other : CloseCall}, j ≠ i →
      l.calls[j]? = some other → other.isTearing = true → other.hasReturned = false →
      pool.isTornDown = false) : Punctual (({ l with pool } : LiveClient).finish i call) := by
  intro other hother htears hwaiting
  obtain ⟨j, hj⟩ := List.mem_iff_getElem?.1 hother
  rcases getElem?_set_cases hj with ⟨_, rfl⟩ | ⟨hne, hold⟩
  · cases hwaiting
  · exact hothers hne hold htears hwaiting

/-- A call that waits for the teardown goes on. -/
theorem proceed_waiting (h : Punctual l) {call : CloseCall} (hcall : l.calls[i]? = some call)
    (hreturned : call.hasReturned = false) (htears : call.isTearing = false) (now : Nat) :
    Leads l.threaded (l.proceed now i).1.threaded (l.proceed now i).2 ∧
      Punctual (l.proceed now i).1 := by
  rw [LiveClient.proceed, hcall]
  dsimp only
  rw [hreturned, htears, if_neg Bool.false_ne_true, if_neg Bool.false_ne_true]
  dsimp only
  cases hback : l.pool.closeReturns with
  | false => exact ⟨.refl _, h⟩
  | true =>
      have htorn : l.pool.isTornDown = true := by
        unfold Pool.closeReturns at hback
        simp only [Bool.and_eq_true] at hback
        exact hback.2
      have hthreaded : call.threaded = ⟨call.isTearing, .waiting⟩ := by
        rw [CloseCall.threaded, hreturned, htears]
        rfl
      rw [if_pos rfl]
      exact ⟨.returns hcall hthreaded htorn now, finish fun {_ other} _ hother =>
        h other (List.mem_of_getElem? hother)⟩

/-- The call that tears the pool down goes on. -/
theorem proceed_tearing (h : Punctual l) (hconcluding : Concluding l told) {call : CloseCall}
    (hcall : l.calls[i]? = some call) (hreturned : call.hasReturned = false)
    (htears : call.isTearing = true) (now : Nat) :
    Leads l.threaded (l.proceed now i).1.threaded (l.proceed now i).2 ∧
      Punctual (l.proceed now i).1 := by
  have hnot := h call (List.mem_of_getElem? hcall) htears hreturned
  rw [LiveClient.proceed, hcall]
  dsimp only
  rw [hreturned, htears, if_neg Bool.false_ne_true, if_pos rfl]
  cases hcan : l.pool.canTearDown with
  | false =>
      rw [Pool.tearDown_of_cannot hcan]
      dsimp only
      rw [if_neg (by simp [Pool.closeReturns, hnot])]
      exact ⟨.refl _, h⟩
  | true =>
      have hlater := hconcluding.tearDown now
      have htorn := (Pool.tearDown_of_can hcan now).1
      have hback : (l.pool.tearDown now).1.closeReturns = true := by
        rw [Pool.closeReturns, (hlater.attended.emptied htorn).1, htorn]
        rfl
      dsimp only
      rw [if_pos hback]
      refine ⟨.tearsDown hcall htears hreturned hcan now,
        finish fun {j other} hne hother hothertears _ => ?_⟩
      -- There is no other call that tears the pool down.
      have hi : i = 0 := (hconcluding.first hcall).1 htears
      have hj : j = 0 := (hconcluding.first hother).1 hothertears
      exact absurd (hj.trans hi.symm) hne

/-- A call that goes on. -/
theorem proceed (h : Punctual l) (hconcluding : Concluding l told) (now i : Nat) :
    Leads l.threaded (l.proceed now i).1.threaded (l.proceed now i).2 ∧
      Punctual (l.proceed now i).1 := by
  have hstill : Leads l.threaded l.threaded [] ∧ Punctual l := ⟨.refl _, h⟩
  cases hcall : l.calls[i]? with
  | none =>
      rw [LiveClient.proceed, hcall]
      exact hstill
  | some call =>
      cases hreturned : call.hasReturned with
      | true =>
          rw [LiveClient.proceed, hcall]
          dsimp only
          rw [hreturned, if_pos rfl]
          exact hstill
      | false =>
          cases htears : call.isTearing with
          | false => exact h.proceed_waiting hcall hreturned htears now
          | true => exact h.proceed_tearing hconcluding hcall hreturned htears now

/-- Every step. -/
theorem step (h : Punctual l) (hconcluding : Concluding l told) (now : Nat) (event : Event) :
    Leads l.threaded (l.step now event).1.threaded (l.step now event).2 ∧
      Punctual (l.step now event).1 := by
  cases event with
  | close => exact ⟨.begins l now, h.beginClose hconcluding now⟩
  | proceed i => exact h.proceed hconcluding now i
  | pool event =>
      rw [LiveClient.step]
      split
      · rename_i hadmits
        exact h.pool hadmits now
      · exact ⟨.refl _, h⟩

/-- Every run. -/
theorem run (h : Punctual l) (hconcluding : Concluding l told) (steps : List (Nat × Event)) :
    Leads l.threaded (l.run steps).1.threaded (l.run steps).2 := by
  induction steps generalizing l told with
  | nil => exact .refl _
  | cons step rest ih =>
      obtain ⟨hleads, hlater⟩ := h.step hconcluding step.1 step.2
      exact hleads.trans (ih hlater (hconcluding.step step.1 step.2))

end Punctual

/-- Whatever a client does whose tasks do not overtake each other, it may also do on several
threads: the same becomes of its pool, and the same is told. -/
theorem exists_threaded_run {dial : Dialer} {host : Host} {config : ClientConfig}
    {hooks : ClientHooks} {client : Client}
    (hconnect : (Client.connect dial host config hooks).result = .ok client)
    (steps : List (Nat × Event)) :
    ∃ finer, client.threaded.run finer =
      ((client.live.run steps).1.threaded, (client.live.run steps).2) := by
  have hbegun : Concluding client.live [] := .initial (opened_of_connect hconnect) _ _
  have hpunctual : Punctual client.live := fun call hcall => absurd hcall List.not_mem_nil
  exact hpunctual.run hbegun steps

end LiveClient

end TupleWire

/-
  What holds of a client whichever of its threads is faster.

  `step_act` says what one step of a client on several threads can be.  From it
  follows the invariant `Orderly`: however the steps of supervisors, of the task
  that probes and of calls come, one call tears the pool down, it is told once
  that the pool is closed, and no call comes back before the teardown is over.
-/
import TupleWire.Client.Threads
import TupleWire.Proofs.Client.Closing
import TupleWire.Proofs.Pool.Threads

set_option autoImplicit false

namespace TupleWire

/-- Where a call may be, by whether the pool is closed and torn down and how often it was told to
be closed. -/
def ClosingCall.IsAt (call : ClosingCall) (isClosed isTornDown : Bool) (closings : Nat) : Prop :=
  match call.isTearing, call.stage with
  | false, .claiming => True
  | false, .waiting => isClosed = true
  | false, .leaving | false, .returned => isTornDown = true
  | true, .gathering | true, .draining | true, .stopping _ | true, .emptying _ | true, .telling =>
      isTornDown = false ∧ closings = 0
  | true, .releasing => isTornDown = false ∧ closings = 1
  | true, .leaving | true, .returned => isTornDown = true ∧ closings = 1
  | _, _ => False

/-- A call that does not tear the pool down depends on nothing but whether another has. -/
theorem ClosingCall.IsAt.later {call : ClosingCall} {closed closed' torn torn' : Bool} {n n' : Nat}
    (h : call.IsAt closed torn n) (hother : call.isTearing = false)
    (hclosed : closed = true → closed' = true) (htorn : torn = true → torn' = true) :
    call.IsAt closed' torn' n' := by
  obtain ⟨isTearing, stage⟩ := call
  cases hother
  cases stage with
  | claiming => trivial
  | waiting => exact hclosed h
  | leaving | returned => exact htorn h
  | gathering | draining | stopping | emptying | telling | releasing => exact h.elim

/-- It neither tells that the pool is closed nor releases the others. -/
theorem ClosingCall.IsAt.quiet {call : ClosingCall} {closed torn : Bool} {n : Nat}
    (h : call.IsAt closed torn n) (hother : call.isTearing = false) :
    call.stage ≠ .telling ∧ call.stage ≠ .releasing := by
  obtain ⟨isTearing, stage⟩ := call
  cases hother
  constructor
  · rintro rfl
    exact h
  · rintro rfl
    exact h

namespace ThreadedClient

variable {l m : ThreadedClient} {now i : Nat} {told more : List PoolEvent} {call : ClosingCall}

/-! ## Steps -/

/-- What a step of a client can be, and what is told. -/
inductive Act (l : ThreadedClient) (now : Nat) : ThreadedClient × List PoolEvent → Prop
  | still : Act l now (l, [])
  /-- connections are acted on, and the pool may come to remember something else -/
  | acted {watches : Dict String WatchCallback} {q : Pool}
      (ages : Pool.Ages False { l.pool with watches } q) : Act l now ({ l with pool := q }, [])
  /-- a supervisor comes to another place -/
  | strode {i : Nat} {s : Slot} {outcome : (Pool × Stand) × List PoolEvent}
      (found : l.pool.slots[i]? = some s)
      (stride : Pool.Stride l.pool now i s (l.stand i) outcome) :
      Act l now (l.moved i outcome.1, outcome.2)
  /-- a round of probes is over -/
  | heard (outcomes : List (Nat × Bool)) (probing : l.isProbing = true) :
      Act l now ({ l with outcomes }, [])
  /-- a verdict is told -/
  | announced {verdict : PoolEvent} {rest : List PoolEvent} (next : l.verdicts = verdict :: rest) :
      Act l now ({ l with verdicts := rest }, [verdict])
  /-- an outcome is judged -/
  | judged {position : Nat} {valid : Bool} {rest : List (Nat × Bool)}
      (quiet : l.verdicts = []) (next : l.outcomes = (position, valid) :: rest) :
      Act l now ({ l with
        pool := (l.pool.probed now position valid).1
        outcomes := rest
        verdicts := (l.pool.probed now position valid).2 }, [])
  | begun : Act l now (l.beginClose, [])
  | proceeded {i : Nat} {call : ClosingCall} (found : l.calls[i]? = some call) :
      Act l now (l.proceed now i)

/-- A supervisor that waits is woken by what happens to its slot. -/
theorem onPool_of_waiting {s : Slot} {event : Pool.Event} (hposition : event.position? = some i)
    (hs : l.pool.slots[i]? = some s) (hwaits : l.stand i = .waiting) :
    l.onPool now event = l.moved i (l.pool.woken now i s event) := by
  unfold onPool
  simp only [hposition, hs, hwaits]
  rfl

/-- What happens to the pool by itself. -/
theorem onPool_act (hattended : l.pool.Accounted) (now : Nat) (event : Pool.Event) :
    Act l now (l.onPool now event, []) := by
  have hacted {q : Pool} (h : ∃ watches, Pool.Ages False { l.pool with watches } q) :
      Act l now ({ l with pool := q }, []) := by
    obtain ⟨watches, hages⟩ := h
    exact .acted hages
  have hages {quiet : Prop} {q : Pool} (h : Pool.Ages quiet l.pool q) :
      ∃ watches, Pool.Ages False { l.pool with watches } q := by
    refine ⟨l.pool.watches, h.config, h.slots, h.watches, h.isClosed, h.closing, h.isTornDown,
      h.length, fun {n c} hc => ?_⟩
    obtain ⟨d, hd, hcd⟩ := h.conn hc
    exact ⟨d, hd, hcd.closed, False.elim⟩
  unfold onPool
  split
  · rename_i i _
    split
    · rename_i s hs
      cases hstand : l.stand i with
      | waiting =>
          have hstride := Pool.woken_stride (hattended.attended (List.mem_of_getElem? hs)) hs now
            event
          rw [← hstand] at hstride
          exact .strode hs hstride
      | looking deed => exact .still
      | doing deed => exact .still
    · exact .still
  · rename_i hposition
    cases event with
    | conn number action => exact hacted (hages (l.pool.perform_ages now number False.elim))
    | watch key callback => exact hacted (l.pool.watch_ages now key callback)
    | unwatch key => exact hacted (l.pool.unwatch_ages now key)
    | drained number => exact hacted (hages (l.pool.closeDrained_ages now number))
    | graceOver => exact hacted (hages (l.pool.shutdownAll_ages now l.pool.closing))
    | close => exact .still
    | tearDown => exact .still
    | probed position valid => exact .still
    | greeted position requestTimeout raw => cases hposition
    | handshake position event => cases hposition
    | unreachable position cause => cases hposition
    | lost position => cases hposition
    | dismissed position => cases hposition
    | rested position => cases hposition

/-- There is nothing else that a step can be. -/
theorem step_act (hattended : l.pool.Accounted)
    (hfree : ∀ {i s}, l.pool.slots[i]? = some s → (l.stand i).hasFreeSlot = true → s.conn = none)
    (now : Nat) (event : Event) : Act l now (l.step now event) := by
  cases event with
  | pool event => exact onPool_act hattended now event
  | supervisor i =>
      show Act l now (l.supervise now i)
      unfold supervise
      split
      · exact .still
      · rename_i s hs
        exact .strode hs (Pool.goesOn_stride hs now (l.stand i) (hfree hs))
  | probed outcomes =>
      show Act l now (l.hear outcomes, [])
      unfold hear
      split
      · rename_i hidle
        simp only [Bool.and_eq_true] at hidle
        exact .heard outcomes hidle.1.1
      · exact .still
  | prober =>
      show Act l now (l.probe now)
      unfold probe
      split
      · rename_i hnext
        exact .announced hnext
      · rename_i hquiet
        split
        · exact .still
        · rename_i hnext
          exact .judged hquiet hnext
  | close => exact .begun
  | proceed i =>
      show Act l now (l.proceed now i)
      cases hcall : l.calls[i]? with
      | none =>
          rw [proceed, hcall]
          exact .still
      | some call => exact .proceeded hcall

/-! ## What a call does to the pool -/

/-- A call that goes on installs nothing, and leaves the health of the slots alone. -/
theorem advance_recedes (l : ThreadedClient) (now : Nat) (call : ClosingCall) :
    l.pool.Recedes (l.advance now call).1 ∧ l.pool.SameHealth (l.advance now call).1 := by
  have hstill : l.pool.Recedes l.pool ∧ l.pool.SameHealth l.pool := ⟨.refl _, .refl _⟩
  unfold advance
  cases call.stage with
  | waiting | draining | telling | leaving | returned => exact hstill
  | releasing => exact ⟨.of_eq rfl rfl rfl, .of_eq rfl rfl⟩
  | claiming =>
      dsimp only
      split
      · exact hstill
      · exact ⟨.of_eq rfl rfl rfl, .of_eq rfl rfl⟩
  | gathering =>
      have hages := Pool.foldl_ages (fun p n => Pool.closeConn_ages p now n) l.pool.installed
        { l.pool with closing := l.pool.installed }
      have hgathered : l.pool.Recedes { l.pool with closing := l.pool.installed } :=
        .of_eq rfl rfl rfl
      exact ⟨hgathered.trans (.of_ages hages), .of_eq hages.config hages.slots⟩
  | stopping position =>
      dsimp only
      split
      · unfold stopAt
        split
        · rename_i s hs
          split
          · exact ⟨.setSlot (Pool.Ages.refl l.pool : Pool.Ages True _ _) hs (.inl rfl) (.inr rfl),
              .of_set rfl hs rfl rfl⟩
          · exact hstill
        · exact hstill
      · exact hstill
  | emptying position =>
      dsimp only
      split
      · cases hs : l.pool.slots[position]? with
        | none =>
            rw [Pool.emptySlot, hs]
            exact hstill
        | some s =>
            obtain ⟨q, hages, hgone, heq⟩ := Pool.emptySlot_parts hs now
            rw [heq]
            exact ⟨.setSlot hages hs (.inr ⟨rfl, hgone⟩) (.inl rfl),
              .of_set hages.config hs (congrArg (List.set · position _) hages.slots) rfl⟩
      · exact hstill

/-- Only who claims a pool closes it, and only who releases the other calls says that it is torn
down. -/
theorem advance_marks (l : ThreadedClient) (now : Nat) (call : ClosingCall) :
    (l.advance now call).1.isClosed = (l.pool.isClosed || decide (call.stage = .claiming)) ∧
      (l.advance now call).1.isTornDown =
        (l.pool.isTornDown || decide (call.stage = .releasing)) := by
  have hstill : l.pool.isClosed = (l.pool.isClosed || false) ∧
      l.pool.isTornDown = (l.pool.isTornDown || false) := by simp
  unfold advance
  cases call.stage with
  | waiting | draining | telling | leaving | returned => exact hstill
  | releasing => exact ⟨(Bool.or_false _).symm, (Bool.or_true _).symm⟩
  | claiming =>
      dsimp only
      split
      · rename_i hclosed
        simp [hclosed]
      · simp
  | gathering =>
      have hages := Pool.foldl_ages (fun p n => Pool.closeConn_ages p now n) l.pool.installed
        { l.pool with closing := l.pool.installed }
      exact ⟨hages.isClosed.trans hstill.1, hages.isTornDown.trans hstill.2⟩
  | stopping position =>
      dsimp only
      split
      · unfold stopAt
        split
        · split
          · exact hstill
          · exact hstill
        · exact hstill
      · exact hstill
  | emptying position =>
      dsimp only
      split
      · cases hs : l.pool.slots[position]? with
        | none =>
            rw [Pool.emptySlot, hs]
            exact hstill
        | some s =>
            obtain ⟨q, hages, _, heq⟩ := Pool.emptySlot_parts hs now
            rw [heq]
            exact ⟨hages.isClosed.trans hstill.1, hages.isTornDown.trans hstill.2⟩
      · exact hstill

/-- Only one stage tells anything. -/
theorem told_advance (l : ThreadedClient) (now : Nat) (call : ClosingCall) :
    (l.advance now call).2.2 = if call.stage = .telling then [.closed] else [] := by
  unfold advance
  cases call.stage with
  | gathering | telling | releasing | leaving | returned | waiting | draining => rfl
  | claiming | stopping position | emptying position =>
      dsimp only
      split
      · rfl
      · rfl

/-- Two clients that differ by what calls did. -/
structure LeavesTasks (l m : ThreadedClient) : Prop where
  stand : m.stand = l.stand
  outcomes : m.outcomes = l.outcomes
  verdicts : m.verdicts = l.verdicts
  isProbing : m.isProbing = l.isProbing

/-- What becomes of a client when a call goes on. -/
theorem proceed_parts (hcall : l.calls[i]? = some call) (now : Nat) :
    LeavesTasks l (l.proceed now i).1 ∧ (l.proceed now i).1.pool = (l.advance now call).1 ∧
      (l.proceed now i).1.calls = l.calls.set i (l.advance now call).2.1 ∧
      (l.proceed now i).2 = (l.advance now call).2.2 := by
  rw [proceed, hcall]
  dsimp only
  split
  · exact ⟨⟨rfl, rfl, rfl, rfl⟩, rfl, rfl, rfl⟩
  · exact ⟨⟨rfl, rfl, rfl, rfl⟩, rfl, rfl, rfl⟩

/-! ## The invariant -/

/-- A call goes from a place where it may be to another one. -/
theorem advance_isAt {n : Nat} (hat : call.IsAt l.pool.isClosed l.pool.isTornDown n)
    (hopen : l.pool.isClosed = false → l.pool.isTornDown = false ∧ n = 0) :
    (l.advance now call).2.1.IsAt (l.advance now call).1.isClosed (l.advance now call).1.isTornDown
      (n + (l.advance now call).2.2.count .closed) := by
  have hmarks := l.advance_marks now call
  rw [hmarks.1, hmarks.2]
  obtain ⟨isTearing, stage⟩ := call
  cases stage with
  | claiming =>
      cases isTearing with
      | true => exact hat.elim
      | false =>
          unfold advance
          dsimp only
          split
          · rename_i hclosed
            simp [ClosingCall.IsAt, ClosingCall.goTo]
          · rename_i hclosed
            simpa [ClosingCall.IsAt] using hopen (by simpa using hclosed)
  | waiting =>
      cases isTearing with
      | true => exact hat.elim
      | false =>
          unfold advance
          dsimp only
          split
          · rename_i htorn
            simp [ClosingCall.IsAt, ClosingCall.goTo, htorn]
          · simpa [ClosingCall.IsAt] using hat
  | draining =>
      cases isTearing with
      | false => exact hat.elim
      | true =>
          unfold advance
          dsimp only
          split
          · simpa [ClosingCall.IsAt, ClosingCall.goTo] using hat
          · simpa [ClosingCall.IsAt] using hat
  | stopping position | emptying position =>
      cases isTearing with
      | false => exact hat.elim
      | true =>
          unfold advance
          dsimp only
          split
          · simpa [ClosingCall.IsAt, ClosingCall.goTo] using hat
          · simpa [ClosingCall.IsAt, ClosingCall.goTo] using hat
  | gathering | telling =>
      cases isTearing with
      | false => exact hat.elim
      | true => simpa [advance, ClosingCall.IsAt, ClosingCall.goTo] using hat
  | releasing =>
      cases isTearing with
      | false => exact hat.elim
      | true => simpa [advance, ClosingCall.IsAt, ClosingCall.goTo] using hat.2
  | leaving | returned =>
      cases isTearing with
      | false => simpa [advance, ClosingCall.IsAt, ClosingCall.goTo] using hat
      | true => simpa [advance, ClosingCall.IsAt, ClosingCall.goTo] using hat

/-- Who claims an open pool tears it down, and nobody else comes to do so. -/
theorem isTearing_advance (l : ThreadedClient) (now : Nat) (call : ClosingCall) :
    (l.advance now call).2.1.isTearing =
      (call.isTearing || (decide (call.stage = .claiming) && !l.pool.isClosed)) := by
  unfold advance
  cases call.stage with
  | gathering | telling | releasing | leaving | returned => simp [ClosingCall.goTo]
  | claiming =>
      dsimp only
      split
      · rename_i hclosed
        simp [ClosingCall.goTo, hclosed]
      · rename_i hclosed
        simp [hclosed]
  | waiting | draining | stopping position | emptying position =>
      dsimp only
      split
      · simp [ClosingCall.goTo]
      · simp [ClosingCall.goTo]

/-- A client on several threads, and what its pool told so far. -/
structure Orderly (l : ThreadedClient) (told : List PoolEvent) : Prop where
  accounted : l.pool.Accounted
  /-- a supervisor that is about to do something for an empty slot finds it empty -/
  free {i : Nat} {s : Slot} : l.pool.slots[i]? = some s → (l.stand i).hasFreeSlot = true →
    s.conn = none
  /-- that the pool is closed is nothing that probes tell -/
  unheard : .closed ∉ l.verdicts
  unprobed : l.calls ≠ [] → l.isProbing = false
  /-- a pool is closed by the call that tears it down -/
  claimed : l.pool.isClosed = true ↔ ∃ call ∈ l.calls, call.isTearing = true
  /-- of which there is one only -/
  sole {i j : Nat} {call other : ClosingCall} : l.calls[i]? = some call → l.calls[j]? = some other →
    call.isTearing = true → other.isTearing = true → i = j
  placed {call : ClosingCall} : call ∈ l.calls →
    call.IsAt l.pool.isClosed l.pool.isTornDown (told.count .closed)
  /-- nothing of a teardown is seen of an open pool -/
  untouched : l.pool.isClosed = false → l.pool.isTornDown = false ∧ told.count .closed = 0

namespace Orderly

/-- A client that is in use from now on, with an open pool. -/
theorem initial {config : PoolConfig} {pool : Pool} (h : Pool.Opened config pool)
    (isProbing : Bool) (runtime : Option (Managed Nat)) :
    Orderly { pool, isProbing, runtime } [] where
  accounted := h.attended.toAccounted
  free _ hfree := by cases hfree
  unheard := List.not_mem_nil
  unprobed hcalls := absurd rfl hcalls
  claimed := by simp [h.isOpen]
  sole hcall := by cases hcall
  placed hcall := by cases hcall
  untouched _ := ⟨h.notTornDown, rfl⟩

/-- Nothing but calls closes the pool, tears it down or tells so. -/
theorem quietly (h : Orderly l told) (hcalls : m.calls = l.calls)
    (hprobing : m.isProbing = l.isProbing) (hclosed : m.pool.isClosed = l.pool.isClosed)
    (htorn : m.pool.isTornDown = l.pool.isTornDown) (hmore : .closed ∉ more)
    (haccounted : m.pool.Accounted)
    (hfree : ∀ {i s}, m.pool.slots[i]? = some s → (m.stand i).hasFreeSlot = true → s.conn = none)
    (hunheard : .closed ∉ m.verdicts) : Orderly m (told ++ more) := by
  have hcount : (told ++ more).count .closed = told.count .closed := by
    rw [List.count_append, List.count_eq_zero.2 hmore, Nat.add_zero]
  refine ⟨haccounted, hfree, hunheard, ?_, ?_, ?_, fun {call} hcall => ?_, ?_⟩
  · rw [hcalls, hprobing]
    exact h.unprobed
  · rw [hclosed, hcalls]
    exact h.claimed
  · rw [hcalls]
    exact h.sole
  · rw [hcalls] at hcall
    rw [hclosed, htorn, hcount]
    exact h.placed hcall
  · rw [hclosed, htorn, hcount]
    exact h.untouched

/-- A slot that is empty stays so when the pool recedes. -/
theorem free_of_recedes (h : Orderly l told) {q : Pool} (hq : l.pool.Recedes q) {i : Nat}
    {t : Slot} (ht : q.slots[i]? = some t) (hfree : (l.stand i).hasFreeSlot = true) :
    t.conn = none := by
  obtain ⟨s, hs, hsame | hnone, _⟩ := hq.slot ht
  · rw [hsame]
    exact h.free hs hfree
  · exact hnone

theorem strode (h : Orderly l told) {i : Nat} {s : Slot}
    {outcome : (Pool × Stand) × List PoolEvent} (hs : l.pool.slots[i]? = some s)
    (hstride : Pool.Stride l.pool now i s (l.stand i) outcome) :
    Orderly (l.moved i outcome.1) (told ++ outcome.2) := by
  obtain ⟨hclosed, htorn, hquiet⟩ := hstride.marks
  obtain ⟨t, hslots, hfree⟩ := hstride.slots
  refine h.quietly rfl rfl hclosed htorn hquiet
    (h.accounted.of_stride hs (h.free hs) hstride) (fun {j u} hu hplace => ?_) h.unheard
  have hu' : (l.pool.slots.set i t)[j]? = some u := by
    rw [← hslots]
    exact hu
  rcases getElem?_set_cases hu' with ⟨rfl, rfl⟩ | ⟨hj, hold⟩
  · have hplace' : outcome.1.2.hasFreeSlot = true := by
      simpa [moved] using hplace
    exact hfree hplace'
  · have hplace' : (l.stand j).hasFreeSlot = true := by
      simpa [moved, hj] using hplace
    exact h.free hold hplace'

theorem beginClose (h : Orderly l told) : Orderly l.beginClose told := by
  refine ⟨h.accounted, h.free, h.unheard, fun _ => rfl, ?_, fun {i j call other} hi hj hc ho => ?_,
    fun {call} hcall => ?_, h.untouched⟩
  · show l.pool.isClosed = true ↔ ∃ call ∈ l.calls ++ [({} : ClosingCall)], call.isTearing = true
    rw [h.claimed]
    simp
  · have hold {i : Nat} {call : ClosingCall}
        (hi : (l.calls ++ [({} : ClosingCall)])[i]? = some call)
        (hc : call.isTearing = true) : l.calls[i]? = some call := by
      rcases Nat.lt_or_ge i l.calls.length with hlt | hge
      · rw [List.getElem?_append_left hlt] at hi
        exact hi
      · rw [List.getElem?_append_right hge] at hi
        rw [List.mem_singleton.1 (List.mem_of_getElem? hi)] at hc
        cases hc
    exact h.sole (hold hi hc) (hold hj ho) hc ho
  · rcases List.mem_append.1 hcall with hmem | hmem
    · exact h.placed hmem
    · rw [List.mem_singleton.1 hmem]
      trivial

/-- Of two calls one does not tear the pool down. -/
theorem isTearing_of_ne (h : Orderly l told) {i j : Nat} {call other : ClosingCall}
    (hcall : l.calls[i]? = some call) (hother : l.calls[j]? = some other) (hne : j ≠ i)
    (htearing : call.isTearing = true) : other.isTearing = false := by
  cases hboth : other.isTearing with
  | false => rfl
  | true => exact absurd (h.sole hother hcall hboth htearing) hne

/-- While the pool is open no call tears it down. -/
theorem isTearing_of_open (h : Orderly l told) (hopen : l.pool.isClosed = false)
    (hcall : call ∈ l.calls) : call.isTearing = false := by
  cases htearing : call.isTearing with
  | false => rfl
  | true =>
      rw [h.claimed.2 ⟨call, hcall, htearing⟩] at hopen
      cases hopen

/-- Where one call tears the pool down after it has gone on, the others do not. -/
theorem isTearing_of_advance (h : Orderly l told) {i j : Nat} {call other : ClosingCall}
    (hcall : l.calls[i]? = some call) (hother : l.calls[j]? = some other) (hne : j ≠ i)
    (htearing : (l.advance now call).2.1.isTearing = true) : other.isTearing = false := by
  rw [isTearing_advance] at htearing
  cases hclosed : l.pool.isClosed with
  | false => exact h.isTearing_of_open hclosed (List.mem_of_getElem? hother)
  | true =>
      rw [hclosed, Bool.not_true, Bool.and_false, Bool.or_false] at htearing
      exact h.isTearing_of_ne hcall hother hne htearing

/-- What another call goes on to do leaves a call where it may be. -/
theorem placed_of_advance (h : Orderly l told) {i j : Nat} {call other : ClosingCall}
    (hcall : l.calls[i]? = some call) (hother : l.calls[j]? = some other) (hne : j ≠ i) :
    other.IsAt (l.advance now call).1.isClosed (l.advance now call).1.isTornDown
      ((told ++ (l.advance now call).2.2).count .closed) := by
  have hplaced := h.placed (List.mem_of_getElem? hother)
  obtain ⟨hclosed, htorn⟩ := l.advance_marks now call
  have hcalled := h.placed (List.mem_of_getElem? hcall)
  cases htearing : other.isTearing with
  | false =>
      refine hplaced.later htearing (fun hdone => ?_) fun hdone => ?_
      · rw [hclosed, hdone, Bool.true_or]
      · rw [htorn, hdone, Bool.true_or]
  | true =>
      obtain ⟨htelling, hreleasing⟩ :=
        hcalled.quiet (h.isTearing_of_ne hother hcall (Ne.symm hne) htearing)
      have hwas : l.pool.isClosed = true :=
        h.claimed.2 ⟨other, List.mem_of_getElem? hother, htearing⟩
      rw [hclosed, hwas, Bool.true_or, htorn, told_advance, if_neg htelling,
        decide_eq_false hreleasing, Bool.or_false, List.append_nil]
      rw [hwas] at hplaced
      exact hplaced

/-- When a call has gone on, the pool is closed if and only if some call tears it down. -/
theorem claimed_of_advance (h : Orderly l told) (hcall : l.calls[i]? = some call) :
    (l.advance now call).1.isClosed = true ↔
      ∃ other ∈ l.calls.set i (l.advance now call).2.1, other.isTearing = true := by
  have hmem : call ∈ l.calls := List.mem_of_getElem? hcall
  have hlt : i < l.calls.length := (List.getElem?_eq_some_iff.1 hcall).1
  have htearing := l.isTearing_advance now call
  rw [(l.advance_marks now call).1]
  constructor
  · intro hnow
    cases hwas : l.pool.isClosed with
    | false =>
        rw [hwas, Bool.false_or] at hnow
        refine ⟨_, List.mem_set hlt _, ?_⟩
        rw [htearing, hwas, hnow]
        simp
    | true =>
        obtain ⟨other, hother, hother'⟩ := h.claimed.1 hwas
        obtain ⟨j, hj⟩ := List.mem_iff_getElem?.1 hother
        by_cases hne : j = i
        · subst hne
          rw [hcall] at hj
          cases hj
          refine ⟨_, List.mem_set hlt _, ?_⟩
          rw [htearing, hother', Bool.true_or]
        · refine ⟨other, List.mem_of_getElem? (i := j) ?_, hother'⟩
          rw [List.getElem?_set_ne (Ne.symm hne)]
          exact hj
  · rintro ⟨other, hother, hother'⟩
    obtain ⟨j, hj⟩ := List.mem_iff_getElem?.1 hother
    rcases getElem?_set_cases hj with ⟨_, rfl⟩ | ⟨_, hold⟩
    · rw [htearing] at hother'
      cases hwas : l.pool.isClosed with
      | true => rw [Bool.true_or]
      | false =>
          rw [hwas, h.isTearing_of_open hwas hmem] at hother'
          simpa using hother'
    · rw [h.claimed.2 ⟨other, List.mem_of_getElem? hold, hother'⟩, Bool.true_or]

/-- And there is one such call only. -/
theorem sole_of_advance (h : Orderly l told) (hcall : l.calls[i]? = some call) {a b : Nat}
    {first second : ClosingCall} (ha : (l.calls.set i (l.advance now call).2.1)[a]? = some first)
    (hb : (l.calls.set i (l.advance now call).2.1)[b]? = some second)
    (hfirst : first.isTearing = true) (hsecond : second.isTearing = true) : a = b := by
  rcases getElem?_set_cases ha with ⟨rfl, rfl⟩ | ⟨hane, haold⟩
  · rcases getElem?_set_cases hb with ⟨rfl, _⟩ | ⟨hbne, hbold⟩
    · rfl
    · rw [h.isTearing_of_advance hcall hbold hbne hfirst] at hsecond
      cases hsecond
  · rcases getElem?_set_cases hb with ⟨rfl, rfl⟩ | ⟨_, hbold⟩
    · rw [h.isTearing_of_advance hcall haold hane hsecond] at hfirst
      cases hfirst
    · exact h.sole haold hbold hfirst hsecond

/-- A call that leaves the pool open has neither told nor released anything. -/
theorem untouched_of_advance (h : Orderly l told) (hcall : l.calls[i]? = some call)
    (hopen : (l.advance now call).1.isClosed = false) :
    (l.advance now call).1.isTornDown = false ∧
      (told ++ (l.advance now call).2.2).count .closed = 0 := by
  have hmem : call ∈ l.calls := List.mem_of_getElem? hcall
  obtain ⟨hclosed, htorn⟩ := l.advance_marks now call
  rw [hclosed, Bool.or_eq_false_iff] at hopen
  obtain ⟨htelling, hreleasing⟩ := (h.placed hmem).quiet (h.isTearing_of_open hopen.1 hmem)
  rw [htorn, told_advance, if_neg htelling, decide_eq_false hreleasing, Bool.or_false,
    List.append_nil]
  exact h.untouched hopen.1

theorem proceed (h : Orderly l told) (now : Nat) (hcall : l.calls[i]? = some call) :
    Orderly (l.proceed now i).1 (told ++ (l.proceed now i).2) := by
  have hmem : call ∈ l.calls := List.mem_of_getElem? hcall
  obtain ⟨hrecedes, _⟩ := l.advance_recedes now call
  obtain ⟨hleaves, hpool, hcalls, htold⟩ := proceed_parts hcall now
  refine ⟨?_, fun {j t} ht hfree => ?_, ?_, fun _ => ?_, ?_,
    fun {a b first second} ha hb hfirst hsecond => ?_, fun {other} hother => ?_, fun hopen => ?_⟩
  · rw [hpool]
    exact hrecedes.accounted h.accounted
  · rw [hpool] at ht
    rw [hleaves.stand] at hfree
    exact h.free_of_recedes hrecedes ht hfree
  · rw [hleaves.verdicts]
    exact h.unheard
  · rw [hleaves.isProbing]
    exact h.unprobed (List.ne_nil_of_mem hmem)
  · rw [hpool, hcalls]
    exact h.claimed_of_advance hcall
  · rw [hcalls] at ha hb
    exact h.sole_of_advance hcall ha hb hfirst hsecond
  · rw [hcalls] at hother
    rw [hpool, htold]
    obtain ⟨j, hj⟩ := List.mem_iff_getElem?.1 hother
    rcases getElem?_set_cases hj with ⟨_, rfl⟩ | ⟨hne, hold⟩
    · rw [List.count_append]
      exact advance_isAt (h.placed hmem) h.untouched
    · exact h.placed_of_advance hcall hold hne
  · rw [hpool] at hopen
    rw [hpool, htold]
    exact h.untouched_of_advance hcall hopen

/-- Whatever happens. -/
theorem of_act (h : Orderly l told) {outcome : ThreadedClient × List PoolEvent}
    (hact : Act l now outcome) : Orderly outcome.1 (told ++ outcome.2) := by
  have hkept : Orderly l (told ++ []) := by
    rw [List.append_nil]
    exact h
  cases hact with
  | still => exact hkept
  | @acted watches q hages =>
      have hremembers : Pool.Accounted { l.pool with watches } := h.accounted.of_eq rfl rfl
      refine h.quietly rfl rfl hages.isClosed hages.isTornDown List.not_mem_nil
        (hremembers.of_ages hages) (fun {j t} ht hfree => ?_) h.unheard
      have ht' : l.pool.slots[j]? = some t := by
        rw [← show _ = l.pool.slots from hages.slots]
        exact ht
      exact h.free ht' hfree
  | strode hs hstride => exact h.strode hs hstride
  | heard outcomes _ =>
      exact h.quietly rfl rfl rfl rfl List.not_mem_nil h.accounted h.free h.unheard
  | announced hnext =>
      have hunheard := h.unheard
      rw [hnext, List.mem_cons, not_or] at hunheard
      refine h.quietly rfl rfl rfl rfl ?_ h.accounted h.free hunheard.2
      rw [List.mem_singleton]
      exact hunheard.1
  | @judged position valid rest _ _ =>
      obtain ⟨hrecedes, hclosed, htorn, htold⟩ := l.pool.probed_recedes now position valid
      exact h.quietly rfl rfl hclosed htorn List.not_mem_nil (hrecedes.accounted h.accounted)
        (fun ht hfree => h.free_of_recedes hrecedes ht hfree) htold
  | begun =>
      rw [List.append_nil]
      exact h.beginClose
  | proceeded hcall => exact h.proceed now hcall

theorem step (h : Orderly l told) (now : Nat) (event : Event) :
    Orderly (l.step now event).1 (told ++ (l.step now event).2) :=
  h.of_act (step_act h.accounted h.free now event)

theorem run (h : Orderly l told) (steps : List (Nat × Event)) :
    Orderly (l.run steps).1 (told ++ (l.run steps).2) := by
  induction steps generalizing l told with
  | nil =>
      show Orderly l (told ++ [])
      rw [List.append_nil]
      exact h
  | cons step rest ih =>
      have hlater := ih (h.step step.1 step.2)
      rw [List.append_assoc] at hlater
      exact hlater

/-- A pool that is torn down is closed. -/
theorem isClosed_of_tornDown (h : Orderly l told) (htorn : l.pool.isTornDown = true) :
    l.pool.isClosed = true := by
  cases hopen : l.pool.isClosed with
  | true => rfl
  | false =>
      rw [(h.untouched hopen).1] at htorn
      cases htorn

/-- A call that has come back found the pool torn down. -/
theorem isTornDown_of_returned (h : Orderly l told) (hcall : call ∈ l.calls)
    (hstage : call.stage = .returned) : l.pool.isTornDown = true := by
  have hplaced := h.placed hcall
  obtain ⟨isTearing, stage⟩ := call
  cases hstage
  cases isTearing with
  | false => exact hplaced
  | true => exact hplaced.1

end Orderly

end ThreadedClient

end TupleWire

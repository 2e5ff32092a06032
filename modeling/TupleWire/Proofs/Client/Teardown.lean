/-
  The end of a teardown.

  Whatever the other tasks of a client are about, the call that tears its pool
  down comes to its end once the time for pending requests is over, since each
  of its stages leaves it fewer to go (`CloseStage.left`); and then every other
  call that closes the client can come back.
-/
import TupleWire.Proofs.Client.Threads

set_option autoImplicit false

namespace TupleWire

/-- The steps that a teardown in a pool of so many slots has before it. -/
def CloseStage.left (slots : Nat) : CloseStage → Nat
  | claiming | waiting | returned => 0
  | leaving => 1
  | releasing => 2
  | telling => 3
  | emptying position => slots - position + 4
  | stopping position => slots - position + slots + 5
  | draining => slots + slots + 6
  | gathering => slots + slots + 7

namespace ThreadedClient

variable {l m : ThreadedClient} {now i t : Nat} {told more : List PoolEvent} {call : ClosingCall}

theorem run_append (l : ThreadedClient) (first second : List (Nat × Event)) :
    l.run (first ++ second) = (((l.run first).1.run second).1,
      (l.run first).2 ++ ((l.run first).1.run second).2) := by
  induction first generalizing l with
  | nil => rfl
  | cons step rest ih =>
      let next := l.step step.1 step.2
      show ((next.1.run (rest ++ second)).1, next.2 ++ (next.1.run (rest ++ second)).2) = _
      rw [ih next.1, ← List.append_assoc]
      rfl

/-! ## The end of a teardown -/

/-- A client later on, when nothing but a teardown went on. -/
structure Awaits (t : Nat) (l m : ThreadedClient) : Prop extends LeavesTasks l m where
  size : m.pool.slots.length = l.pool.slots.length
  other {j : Nat} : j ≠ t → m.calls[j]? = l.calls[j]?

theorem Awaits.refl (t : Nat) (l : ThreadedClient) : Awaits t l l :=
  ⟨⟨rfl, rfl, rfl, rfl⟩, rfl, fun _ => rfl⟩

theorem Awaits.trans {k : ThreadedClient} (hlm : Awaits t l m) (hmk : Awaits t m k) :
    Awaits t l k where
  stand := hmk.stand.trans hlm.stand
  outcomes := hmk.outcomes.trans hlm.outcomes
  verdicts := hmk.verdicts.trans hlm.verdicts
  isProbing := hmk.isProbing.trans hlm.isProbing
  size := hmk.size.trans hlm.size
  other hj := (hmk.other hj).trans (hlm.other hj)

theorem awaits_proceed (hcall : l.calls[t]? = some call) (now : Nat) :
    Awaits t l (l.proceed now t).1 := by
  obtain ⟨hleaves, hpool, hcalls, _⟩ := proceed_parts hcall now
  refine ⟨hleaves, ?_, fun {j} hj => ?_⟩
  · rw [hpool]
    exact (l.advance_recedes now call).1.size
  · rw [hcalls, List.getElem?_set_ne (Ne.symm hj)]

/-- The call that tears the pool down comes nearer to its end unless it waits for connections. -/
theorem left_advance {closings : Nat} (htearing : call.isTearing = true)
    (hat : call.IsAt l.pool.isClosed l.pool.isTornDown closings) (hstage : call.stage ≠ .returned)
    (hdrained : l.pool.closing.all l.pool.isConnClosed = true) (now : Nat) :
    (l.advance now call).2.1.stage.left l.pool.slots.length <
      call.stage.left l.pool.slots.length := by
  obtain ⟨isTearing, stage⟩ := call
  cases htearing
  unfold advance
  cases stage with
  | claiming | waiting => exact hat.elim
  | returned => exact absurd rfl hstage
  | gathering | telling | releasing | leaving => simp [ClosingCall.goTo, CloseStage.left]
  | draining =>
      dsimp only
      rw [if_pos hdrained]
      simp [ClosingCall.goTo, CloseStage.left]
  | stopping position | emptying position =>
      dsimp only
      split
      · simp only [ClosingCall.goTo, CloseStage.left]
        omega
      · simp only [ClosingCall.goTo, CloseStage.left]
        omega

/-- Once the time for pending requests is over, the call that tears the pool down goes on. -/
theorem exists_nearer (h : Orderly l told) (hcall : l.calls[t]? = some call)
    (htearing : call.isTearing = true) (hstage : call.stage ≠ .returned) (now : Nat) :
    let steps := [(now, Event.pool .graceOver), (now, .proceed t)]
    Awaits t l (l.run steps).1 ∧ ∃ next, (l.run steps).1.calls[t]? = some next ∧
      next.isTearing = true ∧
      next.stage.left l.pool.slots.length < call.stage.left l.pool.slots.length := by
  let waited : ThreadedClient := { l with pool := l.pool.closeAll now }
  have hages : Pool.Ages True l.pool waited.pool := l.pool.shutdownAll_ages now l.pool.closing
  have hwaited : Orderly waited (told ++ []) := h.step now (.pool .graceOver)
  have hdrained : waited.pool.closing.all waited.pool.isConnClosed = true := by
    rw [List.all_eq_true, hages.closing]
    intro n hn
    exact Pool.isConnClosed_performAll_shutdown hn l.pool now
  have hsize : waited.pool.slots.length = l.pool.slots.length := congrArg List.length hages.slots
  have hawaits : Awaits t l waited := ⟨⟨rfl, rfl, rfl, rfl⟩, hsize, fun _ => rfl⟩
  have hplaced := hwaited.placed (List.mem_of_getElem? (l := waited.calls) hcall)
  have hnearer := left_advance htearing hplaced hstage hdrained now
  obtain ⟨_, _, hcalls, _⟩ := proceed_parts (l := waited) hcall now
  rw [hsize] at hnearer
  refine ⟨hawaits.trans (awaits_proceed (l := waited) hcall now), _, ?_, ?_, hnearer⟩
  · show (waited.proceed now t).1.calls[t]? = _
    rw [hcalls, List.getElem?_set_self (List.getElem?_eq_some_iff.1 hcall).1]
  · rw [isTearing_advance, htearing, Bool.true_or]

/-- A teardown comes to its end, whatever the other tasks are about. -/
theorem exists_tornDown (h : Orderly l told) (hcall : l.calls[t]? = some call)
    (htearing : call.isTearing = true) (now : Nat) :
    ∃ steps, Awaits t l (l.run steps).1 ∧ ∃ last, (l.run steps).1.calls[t]? = some last ∧
      last.isTearing = true ∧ last.stage = .returned := by
  induction hleft : call.stage.left l.pool.slots.length using Nat.strong_induction_on
    generalizing l told call with
  | _ left ih =>
      by_cases hstage : call.stage = .returned
      · exact ⟨[], .refl t l, call, hcall, htearing, hstage⟩
      · obtain ⟨hawaits, next, hnext, hnexttearing, hnearer⟩ :=
          exists_nearer h hcall htearing hstage now
        have hlater := h.run [(now, .pool .graceOver), (now, .proceed t)]
        rw [hleft, ← hawaits.size] at hnearer
        obtain ⟨steps, hrest, last, hlast⟩ := ih _ hnearer hlater hnext hnexttearing rfl
        refine ⟨[(now, .pool .graceOver), (now, .proceed t)] ++ steps, ?_⟩
        rw [run_append]
        exact ⟨hawaits.trans hrest, last, hlast⟩

/-- The stage of a call after it has gone on. -/
theorem stage_proceed (hcall : l.calls[i]? = some call) (now : Nat) :
    (l.run [(now, .proceed i)]).1.calls[i]? = some (l.advance now call).2.1 ∧
      (l.run [(now, .proceed i)]).1.pool = (l.advance now call).1 := by
  obtain ⟨_, hpool, hcalls, _⟩ := proceed_parts hcall now
  refine ⟨?_, hpool⟩
  show (l.proceed now i).1.calls[i]? = _
  rw [hcalls, List.getElem?_set_self (List.getElem?_eq_some_iff.1 hcall).1]

/-- A call that can come back after some steps can come back. -/
theorem exists_returned_of_run (steps : List (Nat × Event))
    (h : ∃ more last, ((l.run steps).1.run more).1.calls[i]? = some last ∧
      last.stage = .returned) :
    ∃ steps last, (l.run steps).1.calls[i]? = some last ∧ last.stage = .returned := by
  obtain ⟨more, last, hlast⟩ := h
  refine ⟨steps ++ more, last, ?_⟩
  rw [run_append]
  exact hlast

/-- In a pool that is torn down, a call that waits for that comes back. -/
theorem exists_returned_of_tornDown (h : Orderly l told) (htorn : l.pool.isTornDown = true)
    (hcall : l.calls[i]? = some call) (hother : call.isTearing = false) (now : Nat) :
    ∃ steps last, (l.run steps).1.calls[i]? = some last ∧ last.stage = .returned := by
  have hleaving {m : ThreadedClient} (hm : m.calls[i]? = some (call.goTo .leaving)) :
      ∃ steps last, (m.run steps).1.calls[i]? = some last ∧ last.stage = .returned :=
    ⟨_, _, (stage_proceed hm now).1, rfl⟩
  have hwaiting {m : ThreadedClient} (hm : m.calls[i]? = some (call.goTo .waiting))
      (hdone : m.pool.isTornDown = true) :
      ∃ steps last, (m.run steps).1.calls[i]? = some last ∧ last.stage = .returned := by
    obtain ⟨hnext, _⟩ := stage_proceed hm now
    have hadvance : (m.advance now (call.goTo .waiting)).2.1 = call.goTo .leaving := if_pos hdone
    rw [hadvance] at hnext
    exact exists_returned_of_run [(now, .proceed i)] (hleaving hnext)
  have hplaced := h.placed (List.mem_of_getElem? hcall)
  obtain ⟨isTearing, stage⟩ := call
  cases hother
  cases stage with
  | returned => exact ⟨[], _, hcall, rfl⟩
  | leaving => exact hleaving hcall
  | waiting => exact hwaiting hcall htorn
  | claiming =>
      obtain ⟨hnext, hpool⟩ := stage_proceed hcall now
      have hadvance : l.advance now ⟨false, .claiming⟩ = (l.pool, ⟨false, .waiting⟩, []) :=
        if_pos (h.isClosed_of_tornDown htorn)
      rw [hadvance] at hnext hpool
      have hdone : (l.run [(now, .proceed i)]).1.pool.isTornDown = true := by
        rw [hpool]
        exact htorn
      exact exists_returned_of_run [(now, .proceed i)] (hwaiting hnext hdone)
  | gathering | draining | stopping | emptying | telling | releasing => exact hplaced.elim

/-- Every call can come back. -/
theorem exists_returned (h : Orderly l told) (hcall : l.calls[i]? = some call) (now : Nat) :
    ∃ steps last, (l.run steps).1.calls[i]? = some last ∧ last.stage = .returned := by
  have hmem := List.mem_of_getElem? hcall
  cases htearing : call.isTearing with
  | true =>
      obtain ⟨steps, _, last, hlast, _, hstage⟩ := exists_tornDown h hcall htearing now
      exact ⟨steps, last, hlast, hstage⟩
  | false =>
      cases hclosed : l.pool.isClosed with
      | true =>
          -- Another call tears the pool down; once it is through, this one can go on.
          obtain ⟨other, hother, htears⟩ := h.claimed.1 hclosed
          obtain ⟨t, ht⟩ := List.mem_iff_getElem?.1 hother
          have hne : i ≠ t := by
            rintro rfl
            rw [hcall] at ht
            cases ht
            rw [htearing] at htears
            cases htears
          obtain ⟨steps, hawaits, last, hlast, _, hstage⟩ := exists_tornDown h ht htears now
          have hlater := h.run steps
          have htorn := hlater.isTornDown_of_returned (List.mem_of_getElem? hlast) hstage
          have hstill : (l.run steps).1.calls[i]? = some call := (hawaits.other hne).trans hcall
          exact exists_returned_of_run steps
            (exists_returned_of_tornDown hlater htorn hstill htearing now)
      | false =>
          have hplaced := h.placed hmem
          obtain ⟨isTearing, stage⟩ := call
          cases htearing
          cases stage with
          | returned => exact ⟨[], _, hcall, rfl⟩
          | leaving => exact exists_returned_of_tornDown h hplaced hcall rfl now
          | waiting =>
              rw [hclosed] at hplaced
              cases hplaced
          | claiming =>
              obtain ⟨hnext, _⟩ := stage_proceed hcall now
              have hadvance : (l.advance now ⟨false, .claiming⟩).2.1 = ⟨true, .gathering⟩ := by
                rw [advance, hclosed]
                rfl
              rw [hadvance] at hnext
              obtain ⟨steps, _, last, hlast, _, hstage⟩ :=
                exists_tornDown (h.run [(now, .proceed i)]) hnext rfl now
              exact exists_returned_of_run [(now, .proceed i)] ⟨steps, last, hlast, hstage⟩
          | gathering | draining | stopping | emptying | telling | releasing => exact hplaced.elim

end ThreadedClient

end TupleWire

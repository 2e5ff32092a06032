/-
  When a client that is closed stays closed.

  Whether anything is installed or told behind the back of who closes a client
  is a matter of where the other tasks are when the pool is closed.  `Still`
  says that none of them is on its way to something for which it does not look
  at the pool again.  A task that is still stays so, and that is the invariant
  from which it follows that the client stays closed: `Winding`.
-/
import TupleWire.Proofs.Client.Teardown

set_option autoImplicit false

namespace TupleWire

/-- Whether a teardown that has come so far has emptied the slot in a position. -/
def CloseStage.hasEmptied (i : Nat) : CloseStage → Bool
  | emptying position => i < position
  | telling | releasing | leaving | returned => true
  | claiming | waiting | gathering | draining | stopping _ => false

/-- A calm supervisor that is stopped where it waits is calm. -/
theorem Stand.IsCalm.of_stopped {stand : Stand} {supervisor next : Supervisor}
    (h : stand.IsCalm supervisor) (hnext : next = supervisor ∨ next = .stopped) :
    stand.IsCalm next := by
  rcases hnext with rfl | rfl
  · exact h
  · cases stand with
    | waiting => exact fun handshake => by simp
    | looking deed => trivial
    | doing deed => exact h

namespace ThreadedClient

variable {first l m : ThreadedClient} {now i t : Nat} {told since : List PoolEvent}
  {call : ClosingCall}

/-! ## The promise and its condition -/

/-- What is to be expected of a client from the moment on in which its pool is closed, whatever
happens since. -/
structure StaysClosed (first l : ThreadedClient) (since : List PoolEvent) : Prop where
  /-- nothing is installed -/
  windsDown : first.pool.WindsDown l.pool
  /-- nothing is told after that the pool is closed -/
  toldLast {before after : List PoolEvent} : since = before ++ .closed :: after → after = []
  /-- when the pool is torn down every slot is empty, and every connection that was ever installed
  is closed -/
  emptied : l.pool.isTornDown = true →
    (∀ s ∈ l.pool.slots, s.conn = none) ∧ ∀ c ∈ l.pool.conns, c.isClosed = true

/-- A client of whose tasks none is on its way to something for which it does not look at the pool
again: no supervisor is at an attempt, about to install a connection or about to tell something,
and the task that probes has nothing to tell and no outcome to judge of which it would tell. -/
structure Still (l : ThreadedClient) : Prop where
  supervisors {i : Nat} {s : Slot} : l.pool.slots[i]? = some s → (l.stand i).IsCalm s.supervisor
  prober (now : Nat) : l.verdicts ++ (l.pool.judge now l.outcomes).2 = []

/-! ## Tasks that are still -/

/-- A client after its pool was closed while its tasks were still, and what was told since. -/
structure Winding (first l : ThreadedClient) (since : List PoolEvent) : Prop where
  still : Still l
  unprobed : l.isProbing = false
  windsDown : first.pool.WindsDown l.pool
  /-- a slot that the teardown has emptied stays so -/
  emptied {call : ClosingCall} {i : Nat} {s : Slot} : call ∈ l.calls → call.isTearing = true →
    call.stage.hasEmptied i = true → l.pool.slots[i]? = some s → s.conn = none
  toldClosed {e : PoolEvent} : e ∈ since → e = .closed

namespace Still

/-- That a supervisor is not calm can be seen. -/
theorem not_of_any (i : Nat) (h : l.pool.slots[i]?.any
    (fun s => !decide ((l.stand i).IsCalm s.supervisor)) = true) : ¬ Still l := by
  intro hstill
  obtain ⟨s, hs, hnot⟩ := (Option.any_eq_true _ _).1 h
  simp [hstill.supervisors hs] at hnot

/-- A pool may recede under tasks that are still. -/
theorem of_recedes (h : Still l) {q : Pool} (hq : l.pool.Recedes q)
    (hhealth : l.pool.SameHealth q) (hstand : m.stand = l.stand)
    (hverdicts : m.verdicts = l.verdicts)
    (houtcomes : m.outcomes = l.outcomes) (hpool : m.pool = q) : Still m := by
  refine ⟨fun {i t} ht => ?_, fun now => ?_⟩
  · rw [hpool] at ht
    obtain ⟨s, hs, _, hsupervisor⟩ := hq.slot ht
    rw [hstand]
    exact (h.supervisors hs).of_stopped hsupervisor
  · rw [hverdicts, houtcomes, hpool, hhealth.judge now now]
    exact h.prober now

end Still

namespace Winding

/-- A slot that was emptied has nothing when the pool recedes. -/
theorem emptied_of_recedes (h : Winding first l since) {q : Pool} (hq : l.pool.Recedes q)
    (hcall : call ∈ l.calls) (htearing : call.isTearing = true)
    (hstage : call.stage.hasEmptied i = true) {u : Slot} (hu : q.slots[i]? = some u) :
    u.conn = none := by
  obtain ⟨s, hs, hsame | hnone, _⟩ := hq.slot hu
  · rw [hsame]
    exact h.emptied hcall htearing hstage hs
  · exact hnone

/-- What a call that tears the pool down empties stays empty while the call goes on. -/
theorem emptied_of_advance (h : Winding first l since) (hcall : call ∈ l.calls)
    {closings : Nat} (hat : call.IsAt l.pool.isClosed l.pool.isTornDown closings)
    (htearing : (l.advance now call).2.1.isTearing = true)
    (hstage : (l.advance now call).2.1.stage.hasEmptied i = true) {u : Slot}
    (hu : (l.advance now call).1.slots[i]? = some u) : u.conn = none := by
  obtain ⟨hrecedes, _⟩ := l.advance_recedes now call
  -- Only who has closed the pool empties slots.
  have htears : call.isTearing = true := by
    rw [isTearing_advance, h.windsDown.isClosed, Bool.not_true, Bool.and_false,
      Bool.or_false] at htearing
    exact htearing
  cases hbefore : call.stage.hasEmptied i with
  | true => exact h.emptied_of_recedes hrecedes hcall htears hbefore hu
  | false =>
      obtain ⟨isTearing, stage⟩ := call
      cases htears
      unfold advance at hstage hu
      cases stage with
      | claiming | waiting => exact hat.elim
      | gathering => cases hstage
      | telling | releasing | leaving | returned => cases hbefore
      | draining =>
          dsimp only at hstage
          split at hstage
          · cases hstage
          · cases hstage
      | stopping position =>
          dsimp only at hstage
          split at hstage
          · cases hstage
          · simp [ClosingCall.goTo, CloseStage.hasEmptied] at hstage
      | emptying position =>
          have hbehind : position ≤ i := by simpa [CloseStage.hasEmptied] using hbefore
          dsimp only at hstage hu
          split at hstage
          · rename_i hlt
            have hat : i < position + 1 := by
              simpa [ClosingCall.goTo, CloseStage.hasEmptied] using hstage
            obtain rfl : i = position := by omega
            have hs : l.pool.slots[i]? = some l.pool.slots[i] := List.getElem?_eq_getElem hlt
            obtain ⟨q, hages, _, heq⟩ := Pool.emptySlot_parts hs now
            rw [if_pos hlt, heq] at hu
            have hlt' : i < q.slots.length := by
              rw [hages.slots]
              exact hlt
            have hu' : (q.slots.set i _)[i]? = some u := hu
            rw [List.getElem?_set_self hlt'] at hu'
            cases hu'
            rfl
          · rename_i hge
            rw [if_neg hge] at hu
            have hlt : i < l.pool.slots.length := (List.getElem?_eq_some_iff.1 hu).1
            omega

/-- The pool recedes, and the task that probes stays as it is. -/
theorem recede (h : Winding first l since) {q : Pool} (hq : l.pool.Recedes q)
    (hhealth : l.pool.SameHealth q) (hclosed : q.isClosed = true) :
    Winding first { l with pool := q } since where
  still := h.still.of_recedes hq hhealth rfl rfl rfl rfl
  unprobed := h.unprobed
  windsDown := h.windsDown.trans (hq.windsDown hclosed)
  emptied hcall htearing hstage hu := h.emptied_of_recedes hq hcall htearing hstage hu
  toldClosed := h.toldClosed

theorem strode (h : Winding first l since) {i : Nat} {s : Slot}
    {outcome : (Pool × Stand) × List PoolEvent} (hs : l.pool.slots[i]? = some s)
    (hstride : Pool.Stride l.pool now i s (l.stand i) outcome) :
    Winding first (l.moved i outcome.1) (since ++ outcome.2) := by
  have hclosed := h.windsDown.isClosed
  obtain ⟨hwinds, hquiet, u, hslots, hhealth, hconn, hcalm⟩ :=
    hstride.of_calm hclosed hs (h.still.supervisors hs)
  have hslot {j : Nat} {w : Slot} (hw : (l.moved i outcome.1).pool.slots[j]? = some w) :
      j = i ∧ w = u ∨ j ≠ i ∧ l.pool.slots[j]? = some w := by
    have hw' : (l.pool.slots.set i u)[j]? = some w := by
      rw [← hslots]
      exact hw
    exact getElem?_set_cases hw'
  rw [hquiet, List.append_nil]
  refine ⟨⟨fun {j w} hw => ?_, fun now => ?_⟩, h.unprobed, h.windsDown.trans hwinds,
    fun {call j w} hcall htearing hstage hw => ?_, h.toldClosed⟩
  · rcases hslot hw with ⟨rfl, rfl⟩ | ⟨hj, hw⟩
    · simpa [moved] using hcalm
    · simpa [moved, hj] using h.still.supervisors hw
  · have hsame : l.pool.SameHealth outcome.1.1 := .of_set hstride.config_eq hs hslots hhealth
    show l.verdicts ++ (outcome.1.1.judge now l.outcomes).2 = []
    rw [hsame.judge now now]
    exact h.still.prober now
  · rcases hslot hw with ⟨rfl, rfl⟩ | ⟨_, hw⟩
    · rcases hconn with hsame | hnone
      · rw [hsame]
        exact h.emptied hcall htearing hstage hs
      · exact hnone
    · exact h.emptied hcall htearing hstage hw

theorem proceed (h : Winding first l since) (horderly : Orderly l told) (now : Nat)
    (hcall : l.calls[i]? = some call) :
    Winding first (l.proceed now i).1 (since ++ (l.proceed now i).2) := by
  have hmem : call ∈ l.calls := List.mem_of_getElem? hcall
  obtain ⟨hrecedes, hhealth⟩ := l.advance_recedes now call
  obtain ⟨hclosed, _⟩ := l.advance_marks now call
  obtain ⟨hleaves, hpool, hcalls, htold⟩ := proceed_parts hcall now
  rw [h.windsDown.isClosed, Bool.true_or] at hclosed
  refine ⟨h.still.of_recedes hrecedes hhealth hleaves.stand hleaves.verdicts hleaves.outcomes hpool,
    hleaves.isProbing.trans h.unprobed, ?_, fun {other j u} hother htearing hstage hu => ?_,
    fun {e} he => ?_⟩
  · rw [hpool]
    exact h.windsDown.trans (hrecedes.windsDown hclosed)
  · rw [hpool] at hu
    rw [hcalls] at hother
    obtain ⟨k, hk⟩ := List.mem_iff_getElem?.1 hother
    rcases getElem?_set_cases hk with ⟨_, rfl⟩ | ⟨_, hold⟩
    · exact h.emptied_of_advance hmem (horderly.placed hmem) htearing hstage hu
    · exact h.emptied_of_recedes hrecedes (List.mem_of_getElem? hold) htearing hstage hu
  · rcases List.mem_append.1 he with he | he
    · exact h.toldClosed he
    · rw [htold, told_advance] at he
      split at he
      · exact List.mem_singleton.1 he
      · cases he

/-- Whatever happens. -/
theorem of_act (h : Winding first l since) (horderly : Orderly l told)
    {outcome : ThreadedClient × List PoolEvent} (hact : Act l now outcome) :
    Winding first outcome.1 (since ++ outcome.2) := by
  have hkept {m : ThreadedClient} (hm : Winding first m since) :
      Winding first m (since ++ []) := by
    rw [List.append_nil]
    exact hm
  have hclosed := h.windsDown.isClosed
  have hquiet : l.verdicts = [] := (List.append_eq_nil_iff.1 (h.still.prober now)).1
  cases hact with
  | still => exact hkept h
  | @acted watches q hages =>
      have hremembers : l.pool.Recedes { l.pool with watches } := .of_eq rfl rfl rfl
      exact hkept (h.recede (hremembers.trans (.of_ages hages)) (.of_eq hages.config hages.slots)
        (hages.isClosed.trans hclosed))
  | strode hs hstride => exact h.strode hs hstride
  | heard outcomes hprobing =>
      rw [h.unprobed] at hprobing
      cases hprobing
  | announced hnext =>
      rw [hquiet] at hnext
      cases hnext
  | @judged position valid rest _ hnext =>
      obtain ⟨hrecedes, hsame, _, _⟩ := l.pool.probed_recedes now position valid
      have hjudged (later : Nat) : (l.pool.probed now position valid).2 = [] ∧
          ((l.pool.probed now position valid).1.judge later rest).2 = [] := by
        have hnothing := h.still.prober now
        rw [hquiet, hnext, List.nil_append, Pool.judge, List.append_eq_nil_iff] at hnothing
        refine ⟨hnothing.1, ?_⟩
        rw [(Pool.SameHealth.refl _).judge now later]
        exact hnothing.2
      refine hkept ⟨⟨fun {j u} hu => ?_, fun later => ?_⟩, h.unprobed,
        h.windsDown.trans (hrecedes.windsDown (hsame.trans hclosed)),
        fun hcall htearing hstage hu => h.emptied_of_recedes hrecedes hcall htearing hstage hu,
        h.toldClosed⟩
      · obtain ⟨s, hs, _, hsupervisor⟩ := hrecedes.slot hu
        exact (h.still.supervisors hs).of_stopped hsupervisor
      · rw [List.append_eq_nil_iff]
        exact hjudged later
  | begun =>
      refine hkept ⟨⟨h.still.supervisors, h.still.prober⟩, rfl, h.windsDown,
        fun {call i s} hcall htearing => ?_, h.toldClosed⟩
      rcases List.mem_append.1 hcall with hold | hnew
      · exact h.emptied hold htearing
      · rw [List.mem_singleton.1 hnew] at htearing
        cases htearing
  | proceeded hcall => exact h.proceed horderly now hcall

theorem run (h : Winding first l since) (horderly : Orderly l told) (steps : List (Nat × Event)) :
    Winding first (l.run steps).1 (since ++ (l.run steps).2) := by
  induction steps generalizing l told since with
  | nil =>
      show Winding first l (since ++ [])
      rw [List.append_nil]
      exact h
  | cons step rest ih =>
      have hact := step_act horderly.accounted horderly.free step.1 step.2
      have hlater := ih (h.of_act horderly hact) (horderly.of_act hact)
      rw [List.append_assoc] at hlater
      exact hlater

end Winding

/-! ## Once and for all -/

namespace Orderly

/-- That the pool is closed is told once at most, and has been told when it is torn down. -/
theorem closings (h : Orderly l told) : told.count .closed ≤ 1 ∧
    (l.pool.isTornDown = true → told.count .closed = 1) := by
  cases hclosed : l.pool.isClosed with
  | false =>
      obtain ⟨htorn, hcount⟩ := h.untouched hclosed
      rw [htorn, hcount]
      exact ⟨Nat.zero_le 1, fun hdone => by cases hdone⟩
  | true =>
      obtain ⟨call, hcall, htears⟩ := h.claimed.1 hclosed
      have hplaced := h.placed hcall
      obtain ⟨isTearing, stage⟩ := call
      cases htears
      cases stage with
      | claiming | waiting => exact hplaced.elim
      | gathering | draining | stopping | emptying | telling =>
          obtain ⟨htorn, hcount⟩ := hplaced
          rw [htorn, hcount]
          exact ⟨Nat.zero_le 1, fun hdone => by cases hdone⟩
      | releasing | leaving | returned => exact ⟨Nat.le_of_eq hplaced.2, fun _ => hplaced.2⟩

/-- A pool that is torn down was closed by a call that has emptied every slot. -/
theorem exists_emptied (h : Orderly l told) (htorn : l.pool.isTornDown = true) :
    ∃ call ∈ l.calls, call.isTearing = true ∧ ∀ i, call.stage.hasEmptied i = true := by
  obtain ⟨call, hcall, htears⟩ := h.claimed.1 (h.isClosed_of_tornDown htorn)
  have hplaced := h.placed hcall
  refine ⟨call, hcall, htears, fun i => ?_⟩
  obtain ⟨isTearing, stage⟩ := call
  cases htears
  rw [htorn] at hplaced
  cases stage with
  | claiming | waiting => exact hplaced.elim
  | gathering | draining | stopping | emptying => cases hplaced.1
  | telling | releasing | leaving | returned => rfl

end Orderly

/-- A client whose tasks were still when its pool was closed stays closed. -/
theorem Winding.staysClosed (h : Winding first l since) (horderly : Orderly l (told ++ since)) :
    StaysClosed first l since := by
  refine ⟨h.windsDown, fun {before after} hsplit => ?_, fun htorn => ?_⟩
  · -- Nothing else is told, and this only once.
    cases hafter : after with
    | nil => rfl
    | cons e rest =>
        rw [hafter] at hsplit
        have he : e = .closed := h.toldClosed (by simp [hsplit])
        have hcount := horderly.closings.1
        rw [hsplit, he] at hcount
        simp only [List.count_append, List.count_cons_self] at hcount
        omega
  · obtain ⟨call, hcall, htears, hall⟩ := horderly.exists_emptied htorn
    have hempty : ∀ s ∈ l.pool.slots, s.conn = none := by
      intro s hs
      obtain ⟨i, hi⟩ := List.mem_iff_getElem?.1 hs
      exact h.emptied hcall htears (hall i) hi
    exact ⟨hempty, horderly.accounted.isClosed_of_empty hempty⟩

end ThreadedClient

end TupleWire

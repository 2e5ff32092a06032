/-
  What the steps of a supervisor do to a pool.

  A supervisor that goes on does one of two things: it changes its own slot, in
  which a connection is given up only if it is closed, or it installs one.
  `woken_stride` and `goesOn_stride` say that there is nothing else, and
  `Stride` says what each leaves as it was.  A supervisor that is calm when the
  pool is closed stays so: it installs nothing and tells nothing from then on.

  What the task that probes tells of a round of outcomes depends on the health
  of the slots alone, and only that task changes it.
-/
import TupleWire.Pool.Threads
import TupleWire.Proofs.Pool.Alone
import TupleWire.Proofs.Pool.Closing

set_option autoImplicit false

namespace TupleWire

/-! ## Places -/

/-- Whether the slot of a supervisor is free while the supervisor is there. -/
def Stand.hasFreeSlot : Stand → Bool
  | waiting | doing (.tell .connected) => false
  | looking _ | doing _ => true

/-- Whether a supervisor neither installs nor tells anything any more once the pool is closed. -/
def Stand.IsCalm (stand : Stand) (supervisor : Supervisor) : Prop :=
  match stand with
  | waiting => ∀ handshake, supervisor ≠ .attempting handshake
  | looking _ => True
  | doing _ => False

instance (stand : Stand) (supervisor : Supervisor) : Decidable (stand.IsCalm supervisor) :=
  match stand, supervisor with
  | .waiting, .attempting handshake => .isFalse fun hcalm => hcalm handshake rfl
  | .waiting, .watching _ | .waiting, .resting | .waiting, .stopped =>
      .isTrue fun _ h => Supervisor.noConfusion h
  | .looking _, _ => .isTrue trivial
  | .doing _, _ => .isFalse id

/-- Which slot it is, and what its probes say of it. -/
def Slot.health (s : Slot) : LoneSlot := { s.alone false with duty := .stopped }

namespace Pool

variable {p q : Pool} {now i : Nat} {s s' : Slot} {event : Event}

/-! ## Strides -/

/-- What a supervisor does to its slot and to the pool from one place to another, and what it
tells. -/
inductive Stride (p : Pool) (now i : Nat) (s : Slot) (stand : Stand) :
    (Pool × Stand) × List PoolEvent → Prop
  /-- it changes its own slot -/
  | moved {q : Pool} {s' : Slot} {reached : Stand} {told : List PoolEvent} (ages : Ages True p q)
      (tends : Tends p s s') (health : s'.health = s.health)
      (free : reached.hasFreeSlot = true → s'.conn = none) (told_slot : .closed ∉ told)
      (calm : p.isClosed = true → stand.IsCalm s.supervisor →
        reached.IsCalm s'.supervisor ∧ told = []) :
      Stride p now i s stand ((q.setSlot i s', reached), told)
  /-- it installs a connection -/
  | installed (c : Connection) (doing : stand = .doing (.install c)) :
      Stride p now i s stand (((p.install now i s c).1, .doing (.tell .connected)), [])

theorem setSlot_self (hs : p.slots[i]? = some s) : p.setSlot i s = p := by
  obtain ⟨hlt, hs⟩ := List.getElem?_eq_some_iff.1 hs
  rw [setSlot, ← hs, List.set_getElem_self]

theorem Tends.refl (p : Pool) (s : Slot) : Tends p s s := ⟨.inl rfl, id⟩

variable {stand reached : Stand} {told : List PoolEvent}

/-- A supervisor that leaves its slot as it is. -/
theorem Stride.still (hages : Ages True p q) (hs : p.slots[i]? = some s)
    (hfree : reached.hasFreeSlot = true → s.conn = none) (htold : .closed ∉ told)
    (hcalm : p.isClosed = true → stand.IsCalm s.supervisor →
      reached.IsCalm s.supervisor ∧ told = []) :
    Stride p now i s stand ((q, reached), told) := by
  have hqs : q.slots[i]? = some s := by
    rw [hages.slots]
    exact hs
  rw [← setSlot_self hqs]
  exact .moved hages (.refl p s) rfl hfree htold hcalm

/-- A supervisor that stops. -/
theorem Stride.stopped (hages : Ages True p q) :
    Stride p now i s stand ((q.supervise i s .stopped, .waiting), []) :=
  .moved hages (.stop p s) rfl (by simp [Stand.hasFreeSlot]) List.not_mem_nil
    fun _ _ => ⟨by simp [Stand.IsCalm], rfl⟩

/-- Who is at an attempt is not calm: that it failed may still be told. -/
theorem failed_stride (hattended : s.IsAttended) (hs : p.slots[i]? = some s)
    (hages : Ages True p q) {handshake : Option Handshake}
    (hattempting : s.supervisor = .attempting handshake) (cause : ClientError) :
    Stride p now i s .waiting ((q, .doing (.tell (.connectFailed cause))), []) :=
  .still hages hs (fun _ => hattended.conn_eq_none hattempting) List.not_mem_nil
    fun _ hcalm => absurd hattempting (hcalm handshake)

theorem attempted_stride (hattended : s.IsAttended) (hs : p.slots[i]? = some s)
    {handshake : Option Handshake} (hattempting : s.supervisor = .attempting handshake)
    (progress : HandshakeProgress × List Effect) :
    Stride p now i s .waiting (p.attempted i s progress, []) := by
  have hages : Ages True p { p with shared := p.shared.applyAll progress.2 } := shared_ages p _
  unfold attempted
  cases progress.1 with
  | going h =>
      exact .moved hages (.next (by simp [hattempting]) (by simp [hattempting]) _) rfl
        (by simp [Stand.hasFreeSlot]) List.not_mem_nil
        fun _ hcalm => absurd hattempting (hcalm handshake)
  | ready c =>
      exact .still hages hs (fun _ => hattended.conn_eq_none hattempting) List.not_mem_nil
        fun _ hcalm => absurd hattempting (hcalm handshake)
  | failed c cause => exact failed_stride hattended hs hages hattempting cause

/-- A supervisor that notices the loss of its connection. -/
theorem lost_stride {n : Nat} (hattended : s.IsAttended) (hwatching : s.supervisor = .watching n)
    (hclosed : p.isConnClosed n = true) :
    Stride p now i s .waiting ((p.setSlot i { s with conn := s.conn.filter (· ≠ n) },
      .looking (.tell .disconnected)), []) := by
  have htends : Tends p s { s with conn := s.conn.filter (· ≠ n) } := by
    have hgiven := Tends.giveUp (p := p) hwatching hclosed s.supervisor
    exact hgiven
  refine .moved (.refl p) htends rfl (fun _ => ?_) List.not_mem_nil fun _ _ => ⟨trivial, rfl⟩
  -- The slot can only have had the connection over which its supervisor watches.
  show s.conn.filter (· ≠ n) = none
  rw [Option.filter_eq_none_iff]
  intro m hm
  rcases hattended m hm with hsame | hstopped
  · rw [hwatching] at hsame
    cases hsame
    simp
  · rw [hwatching] at hstopped
    cases hstopped

/-- A supervisor that looks at the pool on the way to its next wait. -/
theorem stepSlot_stride (hs : p.slots[i]? = some s)
    (hevent : event = .dismissed i ∨ event = .rested i) :
    Stride p now i s .waiting (((p.stepSlot now i s event).1, .waiting), []) := by
  have hstill : Stride p now i s .waiting ((p, .waiting), []) :=
    .still (.refl p) hs (by simp [Stand.hasFreeSlot]) List.not_mem_nil fun _ hcalm => ⟨hcalm, rfl⟩
  rcases hevent with rfl | rfl
  · unfold stepSlot
    cases s.supervisor with
    | attempting h => exact hstill
    | stopped => exact hstill
    | watching n =>
        dsimp only
        split
        · exact .stopped (.refl p)
        · exact hstill
    | resting =>
        dsimp only
        split
        · exact .stopped (.refl p)
        · exact hstill
  · unfold stepSlot
    cases hresting : s.supervisor with
    | attempting h => exact hstill
    | stopped => exact hstill
    | watching n => exact hstill
    | resting =>
        refine .moved (.refl p) (.next (by simp [hresting]) (by simp [hresting]) _) rfl
          (by simp [Stand.hasFreeSlot]) List.not_mem_nil fun hclosed _ => ⟨?_, rfl⟩
        rw [if_pos hclosed]
        simp [Stand.IsCalm]

/-- Whatever a supervisor waits for. -/
theorem woken_stride (hattended : s.IsAttended) (hs : p.slots[i]? = some s) (now : Nat)
    (event : Event) :
    Stride p now i s .waiting (p.woken now i s event, []) := by
  have hstill : Stride p now i s .waiting ((p, .waiting), []) :=
    .still (.refl p) hs (by simp [Stand.hasFreeSlot]) List.not_mem_nil fun _ hcalm => ⟨hcalm, rfl⟩
  unfold woken
  split
  · split
    · rename_i hattempting
      split
      · exact failed_stride hattended hs (.refl p) hattempting _
      · exact attempted_stride hattended hs hattempting _
    · exact hstill
  · split
    · rename_i hattempting
      exact attempted_stride hattended hs hattempting _
    · exact hstill
  · split
    · rename_i hattempting
      exact failed_stride hattended hs (.refl p) hattempting _
    · exact hstill
  · split
    · rename_i n hwatching
      split
      · rename_i hclosed
        exact lost_stride hattended hwatching hclosed
      · exact hstill
    · exact hstill
  · exact stepSlot_stride hs (.inl rfl)
  · exact stepSlot_stride hs (.inr rfl)
  · exact hstill

/-- A supervisor that looks whether the pool is closed stops, or is about to do what it has in
mind. -/
theorem looked_stride (hs : p.slots[i]? = some s) (now : Nat) (deed : Deed)
    (hfree : s.conn = none) :
    Stride p now i s (.looking deed) (p.looked now i s deed, []) := by
  unfold looked
  cases hclosed : p.isClosed with
  | true =>
      have hages : Ages True p (p.discard now deed) := by
        cases deed with
        | install c => exact shared_ages p _
        | tell event => exact .refl p
      exact .stopped hages
  | false =>
      refine .still (.refl p) hs (fun _ => hfree) List.not_mem_nil fun hclosed' _ => ?_
      rw [hclosed] at hclosed'
      cases hclosed'

/-- What is told is told of the slot, and then the supervisor turns to something else. -/
theorem turned_stride {told : SlotEvent} (hs : p.slots[i]? = some s)
    (hfree : (Stand.doing (.tell told)).hasFreeSlot = true → s.conn = none) :
    Stride p now i s (.doing (.tell told)) (p.turned i s told, [s.tell told]) := by
  have htold : PoolEvent.closed ∉ [s.tell told] := by simp [Slot.tell]
  have hnever {reached : Stand} {supervisor : Supervisor} (_ : p.isClosed = true)
      (hcalm : (Stand.doing (.tell told)).IsCalm s.supervisor) :
      reached.IsCalm supervisor ∧ [s.tell told] = [] := hcalm.elim
  have hwaits : Stride p now i s (.doing (.tell told)) ((p, .waiting), [s.tell told]) :=
    .still (.refl p) hs (by simp [Stand.hasFreeSlot]) htold hnever
  unfold turned
  split
  · exact .still (.refl p) hs (fun _ => hfree rfl) htold hnever
  · exact .still (.refl p) hs (fun _ => hfree rfl) htold hnever
  · have hnone : s.conn = none := hfree rfl
    refine .moved (.refl p) ⟨.inl rfl, fun _ n hn => ?_⟩ rfl (by simp [Stand.hasFreeSlot]) htold
      hnever
    rw [hnone] at hn
    cases hn
  · exact hwaits

/-- Wherever a supervisor goes on from. -/
theorem goesOn_stride (hs : p.slots[i]? = some s) (now : Nat) (stand : Stand)
    (hfree : stand.hasFreeSlot = true → s.conn = none) :
    Stride p now i s stand (p.goesOn now i s stand) := by
  cases stand with
  | waiting =>
      exact .still (.refl p) hs (by simp [Stand.hasFreeSlot]) List.not_mem_nil
        fun _ hcalm => ⟨hcalm, rfl⟩
  | looking deed => exact looked_stride hs now deed (hfree rfl)
  | doing deed =>
      cases deed with
      | install c => exact .installed c rfl
      | tell told => exact turned_stride hs hfree

/-! ## What strides keep -/

/-- No stride closes the pool or tears it down, or tells that it is closed. -/
theorem Stride.marks {outcome : (Pool × Stand) × List PoolEvent}
    (h : Stride p now i s stand outcome) : outcome.1.1.isClosed = p.isClosed ∧
      outcome.1.1.isTornDown = p.isTornDown ∧ .closed ∉ outcome.2 := by
  cases h with
  | moved hages _ _ _ htold _ => exact ⟨hages.isClosed, hages.isTornDown, htold⟩
  | installed c _ =>
      obtain ⟨q, hages, _, _, hinstall⟩ := p.install_parts now i s c
      rw [hinstall]
      exact ⟨hages.isClosed, hages.isTornDown, List.not_mem_nil⟩

/-- The settings of the pool stay. -/
theorem Stride.config_eq {outcome : (Pool × Stand) × List PoolEvent}
    (h : Stride p now i s stand outcome) : outcome.1.1.config = p.config := by
  cases h with
  | moved hages _ _ _ _ _ => exact hages.config
  | installed c _ =>
      obtain ⟨q, hages, _, _, hinstall⟩ := p.install_parts now i s c
      rw [hinstall]
      exact hages.config

/-- The slots stay where they are, and the other ones as they are. -/
theorem Stride.slots {outcome : (Pool × Stand) × List PoolEvent}
    (h : Stride p now i s stand outcome) : ∃ t, outcome.1.1.slots = p.slots.set i t ∧
      (outcome.1.2.hasFreeSlot = true → t.conn = none) := by
  cases h with
  | @moved q t reached told hages _ _ hfree _ _ =>
      exact ⟨t, congrArg (List.set · i t) hages.slots, hfree⟩
  | installed c _ =>
      obtain ⟨q, hages, _, _, hinstall⟩ := p.install_parts now i s c
      rw [hinstall]
      exact ⟨_, congrArg (List.set · i _) hages.slots, fun hfree => by cases hfree⟩

/-- Every stride keeps the connections accounted for. -/
theorem Accounted.of_stride (h : Accounted p) (hs : p.slots[i]? = some s)
    (hfree : stand.hasFreeSlot = true → s.conn = none)
    {outcome : (Pool × Stand) × List PoolEvent} (hstride : Stride p now i s stand outcome) :
    Accounted outcome.1.1 := by
  cases hstride with
  | @moved q t reached told hages htends _ _ _ _ =>
      have hqs : q.slots[i]? = some s := by
        rw [hages.slots]
        exact hs
      refine (h.of_ages hages).setSlot hqs ?_
        (htends.attended (h.attended (List.mem_of_getElem? hs)))
      rcases htends.conn with hsame | ⟨hnone, hclosed⟩
      · exact .inl hsame
      · exact .inr ⟨hnone, fun n hn => hages.isConnClosed (hclosed n hn)⟩
  | installed c hdoing =>
      rw [hdoing] at hfree
      exact h.install hs (hfree rfl) now c

/-- In a closed pool a calm supervisor leaves the other slots alone, tells nothing, and stays calm;
its slot may give its connection up. -/
theorem Stride.of_calm {outcome : (Pool × Stand) × List PoolEvent}
    (h : Stride p now i s stand outcome) (hclosed : p.isClosed = true)
    (hs : p.slots[i]? = some s) (hcalm : stand.IsCalm s.supervisor) :
    p.WindsDown outcome.1.1 ∧ outcome.2 = [] ∧
      ∃ t, outcome.1.1.slots = p.slots.set i t ∧ t.health = s.health ∧
        (t.conn = s.conn ∨ t.conn = none) ∧ outcome.1.2.IsCalm t.supervisor := by
  cases h with
  | @moved q t reached told hages htends hhealth _ _ hstill =>
      obtain ⟨hreached, hquiet⟩ := hstill hclosed hcalm
      have hconn : t.conn = s.conn ∨ t.conn = none := htends.conn.imp_right And.left
      have hqs : q.slots[i]? = some s := by
        rw [hages.slots]
        exact hs
      refine ⟨(WindsDown.of_ages hclosed hages).trans
        (.setSlot (hages.isClosed.trans hclosed) hqs hconn), hquiet, t, ?_, hhealth, hconn,
        hreached⟩
      exact congrArg (List.set · i t) hages.slots
  | installed c hdoing =>
      rw [hdoing] at hcalm
      exact hcalm.elim

/-! ## Pools that recede -/

/-- Two pools of which the later has nothing that the earlier had not: no connection was installed,
and slots may have given theirs up and supervisors may have stopped. -/
structure Recedes (p q : Pool) : Prop where
  config : q.config = p.config
  length : q.conns.length = p.conns.length
  size : q.slots.length = p.slots.length
  slot {i : Nat} {t : Slot} : q.slots[i]? = some t → ∃ s, p.slots[i]? = some s ∧
    (t.conn = s.conn ∨ t.conn = none) ∧ (t.supervisor = s.supervisor ∨ t.supervisor = .stopped)
  accounted : Accounted p → Accounted q

namespace Recedes

/-- Pools that differ by what they remember, or by whether they are closed or torn down. -/
theorem of_eq (hconfig : q.config = p.config) (hslots : q.slots = p.slots)
    (hconns : q.conns = p.conns) : Recedes p q := by
  refine ⟨hconfig, congrArg List.length hconns, congrArg List.length hslots, fun {i t} ht => ?_,
    fun h => h.of_eq hslots hconns⟩
  rw [hslots] at ht
  exact ⟨t, ht, .inl rfl, .inl rfl⟩

/-- Pools that differ by what was done to their connections. -/
theorem of_ages {quiet : Prop} (hages : Ages quiet p q) : Recedes p q := by
  refine ⟨hages.config, hages.length, congrArg List.length hages.slots, fun {i t} ht => ?_,
    fun h => h.of_ages hages⟩
  rw [hages.slots] at ht
  exact ⟨t, ht, .inl rfl, .inl rfl⟩

theorem refl (p : Pool) : Recedes p p := of_eq rfl rfl rfl

theorem trans {r : Pool} (hpq : Recedes p q) (hqr : Recedes q r) : Recedes p r := by
  refine ⟨hqr.config.trans hpq.config, hqr.length.trans hpq.length, hqr.size.trans hpq.size,
    fun {i u} hu => ?_, fun h => hqr.accounted (hpq.accounted h)⟩
  obtain ⟨t, ht, hconn, hsupervisor⟩ := hqr.slot hu
  obtain ⟨s, hs, hconn', hsupervisor'⟩ := hpq.slot ht
  refine ⟨s, hs, ?_, ?_⟩
  · rcases hconn with hsame | hnone
    · rw [hsame]
      exact hconn'
    · exact .inr hnone
  · rcases hsupervisor with hsame | hstopped
    · rw [hsame]
      exact hsupervisor'
    · exact .inr hstopped

theorem setSlot {quiet : Prop} (hages : Ages quiet p q) (hs : p.slots[i]? = some s)
    (hconn : s'.conn = s.conn ∨ s'.conn = none ∧ ∀ n, s.conn = some n → q.isConnClosed n = true)
    (hsupervisor : s'.supervisor = s.supervisor ∨ s'.supervisor = .stopped) :
    Recedes p (q.setSlot i s') := by
  have hqs : q.slots[i]? = some s := by
    rw [hages.slots]
    exact hs
  refine ⟨hages.config, hages.length, ?_, fun {j t} ht => ?_, fun h => ?_⟩
  · show (q.slots.set i s').length = p.slots.length
    rw [List.length_set, hages.slots]
  · have ht' : (q.slots.set i s')[j]? = some t := ht
    rcases getElem?_set_cases ht' with ⟨rfl, rfl⟩ | ⟨_, hold⟩
    · exact ⟨s, hs, hconn.imp_right And.left, hsupervisor⟩
    · rw [hages.slots] at hold
      exact ⟨t, hold, .inl rfl, .inl rfl⟩
  · refine (h.of_ages hages).setSlot hqs hconn fun n hn => ?_
    rcases hsupervisor with hsame | hstopped
    · rw [hsame]
      apply h.attended (List.mem_of_getElem? hs) n
      rcases hconn with hconn | ⟨hnone, _⟩
      · rw [← hconn]
        exact hn
      · rw [hnone] at hn
        cases hn
    · exact .inr hstopped

/-- A closed pool that recedes winds down. -/
theorem windsDown (h : Recedes p q) (hclosed : q.isClosed = true) : WindsDown p q := by
  refine ⟨hclosed, h.length, fun {i t} ht => ?_⟩
  obtain ⟨s, hs, hconn, _⟩ := h.slot ht
  exact ⟨s, hs, hconn⟩

end Recedes

/-- Probes leave connections and supervisors where they are. -/
theorem probed_recedes (p : Pool) (now i : Nat) (valid : Bool) :
    Recedes p (p.probed now i valid).1 ∧ (p.probed now i valid).1.isClosed = p.isClosed ∧
      (p.probed now i valid).1.isTornDown = p.isTornDown ∧
      .closed ∉ (p.probed now i valid).2 := by
  cases hs : p.slots[i]? with
  | none =>
      rw [probed, hs]
      exact ⟨.refl p, rfl, rfl, List.not_mem_nil⟩
  | some s =>
      obtain ⟨q, t, told, hages, hconn, hsupervisor, htold, heq⟩ := probed_parts hs now valid
      rw [heq]
      exact ⟨.setSlot hages hs (.inl hconn) (.inl hsupervisor), hages.isClosed, hages.isTornDown,
        htold⟩

/-- A connection that is taken out of its slot is closed. -/
theorem emptySlot_parts (hs : p.slots[i]? = some s) (now : Nat) :
    ∃ q, Ages True p q ∧ (∀ n, s.conn = some n → q.isConnClosed n = true) ∧
      p.emptySlot now i = q.setSlot i { s with conn := none } := by
  refine ⟨p.performOn now s .shutdown,
    performOn_ages Action.leavesWatches_shutdown p now s, fun n hn => ?_, ?_⟩
  · rw [performOn, hn]
    exact isConnClosed_performAll_shutdown (List.mem_singleton_self n) p now
  · rw [emptySlot, hs]

/-! ## Judging a round of probes -/

/-- Judges the outcomes of probes one after the other, and collects what is told. -/
def judge (now : Nat) : Pool → List (Nat × Bool) → Pool × List PoolEvent
  | p, [] => (p, [])
  | p, (position, valid) :: rest =>
      let (p, told) := p.probed now position valid
      let (p, more) := judge now p rest
      (p, told ++ more)

/-- Two pools whose slots are in the same health. -/
structure SameHealth (p q : Pool) : Prop where
  config : q.config = p.config
  health : q.slots.map Slot.health = p.slots.map Slot.health

end Pool

/-- What is told of a probe has nothing to do with what is done to keep a slot connected. -/
theorem LoneSlot.probed_turnTo (rules : ProbeRules) (l : LoneSlot) (valid isClosed : Bool)
    (duty : Duty) :
    ({ l with duty, isClosed } : LoneSlot).probed rules valid =
      ({ (l.probed rules valid).1 with duty, isClosed }, (l.probed rules valid).2) := by
  unfold LoneSlot.probed
  generalize l.history.record rules valid = judged
  obtain ⟨verdict, history⟩ := judged
  cases verdict with
  | unchanged => rfl
  | dead => rfl
  | invalidated =>
      simp only [applyVerdict]
      split <;> rfl
  | recovered =>
      simp only [applyVerdict]
      split <;> rfl
  | reinstated =>
      simp only [applyVerdict]
      split <;> rfl

namespace Pool

variable {p q r : Pool} {now i : Nat} {s s' : Slot}

/-- The health of a slot before a probe decides on its health after that, and on what is told. -/
theorem probed_health (hs : p.slots[i]? = some s) (now : Nat) (valid : Bool) :
    let judged := s.health.probed p.config.rules valid
    (p.probed now i valid).1.config = p.config ∧
      (∃ t, (p.probed now i valid).1.slots = p.slots.set i t ∧
        t.health = { judged.1 with duty := .stopped, isClosed := false }) ∧
      (p.probed now i valid).2 = judged.2.map s.tell := by
  obtain ⟨hconfig, _, ⟨t, hslots, _, halone⟩, htold⟩ := probed_sets hs now valid
  have hjudged : (s.alone p.isClosed).probed p.config.rules valid = _ :=
    LoneSlot.probed_turnTo p.config.rules s.health valid p.isClosed s.supervisor.duty
  rw [hjudged] at halone htold
  refine ⟨hconfig, ⟨t, hslots, ?_⟩, htold⟩
  exact congrArg (fun l : LoneSlot => { l with duty := .stopped, isClosed := false }) halone

namespace SameHealth

theorem refl (p : Pool) : SameHealth p p := ⟨rfl, rfl⟩

theorem trans (hpq : SameHealth p q) (hqr : SameHealth q r) : SameHealth p r :=
  ⟨hqr.config.trans hpq.config, hqr.health.trans hpq.health⟩

theorem symm (h : SameHealth p q) : SameHealth q p := ⟨h.config.symm, h.health.symm⟩

theorem of_eq (hconfig : q.config = p.config) (hslots : q.slots = p.slots) : SameHealth p q :=
  ⟨hconfig, congrArg (List.map Slot.health) hslots⟩

/-- A slot may give its connection up and be looked after by something else. -/
theorem of_set (hconfig : q.config = p.config) (hs : p.slots[i]? = some s)
    (hslots : q.slots = p.slots.set i s') (hhealth : s'.health = s.health) : SameHealth p q := by
  refine ⟨hconfig, ?_⟩
  obtain ⟨hlt, hs⟩ := List.getElem?_eq_some_iff.1 hs
  rw [hslots, List.map_set, hhealth, ← hs, ← List.getElem_map Slot.health (h := by simpa using hlt),
    List.set_getElem_self]

/-- Slots in the same health are told the same of, and are in the same health after that. -/
theorem probed (h : SameHealth p q) (now later i : Nat) (valid : Bool) :
    (q.probed later i valid).2 = (p.probed now i valid).2 ∧
      SameHealth (p.probed now i valid).1 (q.probed later i valid).1 := by
  have hat : (q.slots[i]?).map Slot.health = (p.slots[i]?).map Slot.health := by
    rw [← List.getElem?_map, ← List.getElem?_map, h.health]
  cases hs : p.slots[i]? with
  | none =>
      rw [hs, Option.map_none, Option.map_eq_none_iff] at hat
      rw [Pool.probed, Pool.probed, hs, hat]
      exact ⟨rfl, h⟩
  | some s =>
      rw [hs, Option.map_some, Option.map_eq_some_iff] at hat
      obtain ⟨t, ht, hhealth⟩ := hat
      obtain ⟨hpconfig, ⟨s', hpslots, hs'⟩, hptold⟩ := probed_health hs now valid
      obtain ⟨hqconfig, ⟨t', hqslots, ht'⟩, hqtold⟩ := probed_health ht later valid
      rw [h.config, hhealth] at ht' hqtold
      have htell : t.tell = s.tell := by
        funext event
        have hgroup : t.group = s.group := congrArg LoneSlot.group hhealth
        have hindex : t.index = s.index := congrArg LoneSlot.index hhealth
        rw [Slot.tell, Slot.tell, hgroup, hindex]
      refine ⟨?_, ?_, ?_⟩
      · rw [hqtold, hptold, htell]
      · rw [hqconfig, hpconfig, h.config]
      · rw [hqslots, hpslots, List.map_set, List.map_set, h.health, ht', hs']

/-- So they are told the same of after a whole round. -/
theorem judge (h : SameHealth p q) (now later : Nat) (outcomes : List (Nat × Bool)) :
    (q.judge later outcomes).2 = (p.judge now outcomes).2 := by
  induction outcomes generalizing p q with
  | nil => rfl
  | cons outcome rest ih =>
      obtain ⟨htold, hhealth⟩ := h.probed now later outcome.1 outcome.2
      show (q.probed later outcome.1 outcome.2).2 ++ _ = (p.probed now outcome.1 outcome.2).2 ++ _
      rw [htold]
      exact congrArg _ (ih hhealth)

end SameHealth

end Pool

end TupleWire

/-
  What one step does to the slots of an open pool.

  As long as nobody closes the pool, one of four things happens: no slot
  changes, the supervisor of one slot goes on, a connection is installed, or a
  probe of a slot is judged.  Meanwhile connections may be closed, and nothing
  else happens to their states (`Fades`).  `step_turn` says that there is
  nothing else; what is said of every run of a pool rests on it.
-/
import TupleWire.Pool.Supervision
import TupleWire.Proofs.Connection.Handover
import TupleWire.Proofs.Connection.Turn

set_option autoImplicit false

namespace TupleWire

/-- What stands in a place of a list of which one place was overwritten. -/
theorem getElem?_set_cases {α : Type} {xs : List α} {i j : Nat} {x y : α}
    (h : (xs.set i x)[j]? = some y) : j = i ∧ y = x ∨ j ≠ i ∧ xs[j]? = some y := by
  by_cases hj : j = i
  · subst hj
    have hlt : j < (xs.set j x).length := (List.getElem?_eq_some_iff.1 h).1
    rw [List.length_set] at hlt
    rw [List.getElem?_set_self hlt] at h
    exact .inl ⟨rfl, (Option.some.inj h).symm⟩
  · rw [List.getElem?_set_ne (Ne.symm hj)] at h
    exact .inr ⟨hj, h⟩

namespace Pool

/-! ## Connections that may be closed -/

/-- Two pools that differ by what connections do by themselves: their slots are the same, and a
connection is in the state in which it was, or closed. -/
structure Fades (p q : Pool) : Prop where
  config : q.config = p.config
  slots : q.slots = p.slots
  isClosed : q.isClosed = p.isClosed
  closing : q.closing = p.closing
  length : q.conns.length = p.conns.length
  lifecycle {n : Nat} {c : Connection} : p.conns[n]? = some c →
    ∃ d, q.conns[n]? = some d ∧ (d.lifecycle = c.lifecycle ∨ d.lifecycle = .closed)

namespace Fades

/-- Pools with the same slots and the same connections. -/
theorem of_eq {p q : Pool} (hconfig : q.config = p.config) (hslots : q.slots = p.slots)
    (hclosed : q.isClosed = p.isClosed) (hclosing : q.closing = p.closing)
    (hconns : q.conns = p.conns) : Fades p q where
  config := hconfig
  slots := hslots
  isClosed := hclosed
  closing := hclosing
  length := congrArg List.length hconns
  lifecycle h := ⟨_, hconns ▸ h, .inl rfl⟩

theorem refl (p : Pool) : Fades p p := of_eq rfl rfl rfl rfl rfl

theorem trans {p q r : Pool} (hpq : Fades p q) (hqr : Fades q r) : Fades p r where
  config := hqr.config.trans hpq.config
  slots := hqr.slots.trans hpq.slots
  isClosed := hqr.isClosed.trans hpq.isClosed
  closing := hqr.closing.trans hpq.closing
  length := hqr.length.trans hpq.length
  lifecycle {n c} h := by
    obtain ⟨d, hd, hcd⟩ := hpq.lifecycle h
    obtain ⟨e, he, hde⟩ := hqr.lifecycle hd
    exact ⟨e, he, Connection.lifecycle_of_stays hde hcd⟩

end Fades

variable {p q : Pool} {now : Nat} {action : Action}

/-! ## Acting on connections -/

/-- Acting on a connection leaves the others alone. -/
theorem conns_perform (p : Pool) (now : Nat) (action : Action) (n m : Nat) :
    (p.perform now action n).conns[m]? =
      if n = m then p.conns[m]?.map fun c => (c.act now action).2.1 else p.conns[m]? := by
  unfold perform act
  by_cases hn : n = m
  · subst hn
    rw [if_pos rfl]
    cases hc : p.conns[n]? with
    | none => exact hc
    | some c =>
        have hlt : n < p.conns.length := (List.getElem?_eq_some_iff.1 hc).1
        exact List.getElem?_set_self hlt
  · rw [if_neg hn]
    cases hc : p.conns[n]? with
    | none => rfl
    | some c => exact List.getElem?_set_ne hn

/-- Acting on a connection changes nothing else that a slot depends on. -/
theorem frame_perform (p : Pool) (now : Nat) (action : Action) (n : Nat) :
    (p.perform now action n).config = p.config ∧
      (p.perform now action n).slots = p.slots ∧
      (p.perform now action n).isClosed = p.isClosed ∧
      (p.perform now action n).closing = p.closing ∧
      (p.perform now action n).conns.length = p.conns.length := by
  unfold perform act
  cases p.conns[n]? with
  | none => exact ⟨rfl, rfl, rfl, rfl, rfl⟩
  | some c => exact ⟨rfl, rfl, rfl, rfl, List.length_set⟩

theorem perform_fades (haction : ∀ state, action ≠ .setLifecycle state) (p : Pool) (now n : Nat) :
    Fades p (p.perform now action n) := by
  obtain ⟨hconfig, hslots, hclosed, hclosing, hlength⟩ := p.frame_perform now action n
  refine ⟨hconfig, hslots, hclosed, hclosing, hlength, fun {m c} hc => ?_⟩
  rw [conns_perform, hc]
  by_cases hn : n = m
  · rw [if_pos hn]
    exact ⟨_, rfl, c.lifecycle_act now haction⟩
  · rw [if_neg hn]
    exact ⟨c, rfl, .inl rfl⟩

section Several

-- What pools keep from one to the next: their slots, say, or what they remember.
variable {R : Pool → Pool → Prop} (hrefl : ∀ p, R p p)
  (htrans : ∀ {p q r}, R p q → R q r → R p r)

include hrefl htrans

/-- What each of several steps keeps, all of them keep. -/
theorem foldl_keeps {α : Type} {f : Pool → α → Pool} {as : List α}
    (hf : ∀ p, ∀ a ∈ as, R p (f p a)) (p : Pool) : R p (as.foldl f p) :=
  List.foldlRecOn as f (hrefl p) fun q hq a ha => htrans hq (hf q a ha)

/-- What an action on any one connection keeps, a broadcast of it keeps. -/
theorem performEach_keeps (hperform : ∀ p n, R p (p.perform now action n)) (p : Pool)
    (ns : List Nat) : R p (performEach now action p ns).2.2 := by
  induction ns generalizing p with
  | nil => exact hrefl p
  | cons n rest ih =>
      have hfirst := hperform p n
      unfold performEach
      unfold perform at hfirst
      split
      · exact ih p
      · split
        · rename_i hact
          rw [hact] at hfirst
          exact hfirst
        · rename_i hact
          rw [hact] at hfirst
          exact htrans hfirst (ih _)

end Several

theorem foldl_fades {α : Type} {f : Pool → α → Pool} (hf : ∀ p a, Fades p (f p a)) (as : List α)
    (p : Pool) : Fades p (as.foldl f p) :=
  foldl_keeps Fades.refl Fades.trans (fun p a _ => hf p a) p

theorem performEach_fades (haction : ∀ state, action ≠ .setLifecycle state) (now : Nat)
    (p : Pool) (ns : List Nat) : Fades p (performEach now action p ns).2.2 :=
  performEach_keeps Fades.refl Fades.trans (fun p n => perform_fades haction p now n) p ns

theorem watch_fades (p : Pool) (now : Nat) (key : String) (callback : WatchCallback) :
    Fades p (p.watch now key callback).2 := by
  unfold watch
  split
  · exact .refl p
  · have hnoted : Fades p { p with watches := p.watches.insert key callback } :=
      .of_eq rfl rfl rfl rfl rfl
    have heach : Fades _ (performEach now (.watch key callback)
        { p with watches := p.watches.insert key callback }
        { p with watches := p.watches.insert key callback }.installed).2.2 :=
      performEach_fades (by simp) now _ _
    simp only
    split
    · rename_i hdone
      rw [hdone] at heach
      exact hnoted.trans heach
    · rename_i done q hdone
      rw [hdone] at heach
      have hforgotten : Fades q { q with watches := q.watches.erase key } :=
        .of_eq rfl rfl rfl rfl rfl
      exact ((hnoted.trans heach).trans hforgotten).trans
        (foldl_fades (fun p n => perform_fades (by simp) p now n) done _)

theorem unwatch_fades (p : Pool) (now : Nat) (key : String) :
    Fades p (p.unwatch now key).2 := by
  unfold unwatch
  split
  · exact .refl p
  · have hforgotten : Fades p { p with watches := p.watches.erase key } :=
      .of_eq rfl rfl rfl rfl rfl
    exact hforgotten.trans (performEach_fades (by simp) now _ _)

/-! ## Probes -/

/-- The outcome that an event has for the probes of the slot in a position. -/
def Event.outcomeAt? (position : Nat) : Event → Option Bool
  | .probed target valid => if target = position then some valid else none
  | _ => none

/-! ## Steps -/

/-- The events of an open pool: nobody closes it, and the states of its connections are set by
nobody else. -/
def Event.isRegular : Event → Prop
  | .close => False
  | .conn _ action => ∀ state, action ≠ .setLifecycle state
  | _ => True

/-- What a step of an open pool can do to its slots. -/
inductive Turn (p : Pool) (now : Nat) : Event → Pool → Prop
  /-- no slot changes -/
  | faded {event : Event} {q : Pool} (fades : Fades p q)
      (quiet : ∀ i < p.slots.length, event.outcomeAt? i = none) : Turn p now event q
  /-- a supervisor goes on, and its slot may give its connection up -/
  | supervised {event : Event} {q : Pool} {position : Nat} {s s' : Slot} (fades : Fades p q)
      (found : p.slots[position]? = some s) (history : s'.history = s.history)
      (evicted : s'.isEvicted = s.isEvicted) (quarantined : s'.isQuarantined = s.isQuarantined)
      (conn : s'.conn = none ∨ s'.conn = s.conn)
      (quiet : ∀ i < p.slots.length, event.outcomeAt? i = none) :
      Turn p now event (q.setSlot position s')
  /-- a connection that a handshake has handed over is installed -/
  | installed {event : Event} {q : Pool} {position : Nat} {s : Slot} {c : Connection}
      (fades : Fades p q) (found : p.slots[position]? = some s)
      (handedOver : c.lifecycle = .ready ∨ c.lifecycle = .closed)
      (quiet : ∀ i < p.slots.length, event.outcomeAt? i = none) :
      Turn p now event (q.install now position s c).1
  /-- a probe is judged -/
  | judged {position : Nat} {s : Slot} {valid : Bool} (found : p.slots[position]? = some s) :
      Turn p now (.probed position valid) (p.probed now position valid).1

section Supervisors

variable {event : Event} {position : Nat} {s : Slot}

theorem supervise_turn (hfades : Fades p q) (hs : p.slots[position]? = some s)
    (hquiet : ∀ i < p.slots.length, event.outcomeAt? i = none) (next : Supervisor) :
    Turn p now event (q.supervise position s next) :=
  .supervised hfades hs rfl rfl rfl (.inr rfl) hquiet

/-- A failed attempt in an open pool leads to another one. -/
theorem fail_turn (hopen : p.isClosed = false) (hfades : Fades p q)
    (hs : p.slots[position]? = some s) (hquiet : ∀ i < p.slots.length, event.outcomeAt? i = none)
    (cause : ClientError) : Turn p now event (q.fail position s cause).1 := by
  have hq : q.isClosed = false := hfades.isClosed.trans hopen
  simp only [fail, rest, hq, Bool.false_eq_true, if_false]
  exact supervise_turn hfades hs hquiet .resting

/-- A handshake goes on, ends, or hands a connection over. -/
theorem proceed_turn (hopen : p.isClosed = false) (hs : p.slots[position]? = some s)
    (hquiet : ∀ i < p.slots.length, event.outcomeAt? i = none)
    {progress : HandshakeProgress × List Effect}
    (hready : ∀ c, progress.1 = .ready c → c.lifecycle = .ready ∨ c.lifecycle = .closed) :
    Turn p now event (p.proceed now position s progress).1 := by
  have hfades : Fades p { p with shared := p.shared.applyAll progress.2 } :=
    .of_eq rfl rfl rfl rfl rfl
  unfold proceed
  split
  · exact supervise_turn hfades hs hquiet _
  · rename_i c hc
    have hstill : ¬ p.isClosed = true := by simp [hopen]
    rw [succeed, if_neg hstill]
    exact .installed hfades hs (hready c hc) hquiet
  · exact fail_turn hopen hfades hs hquiet _

/-- A supervisor notices the loss of its connection. -/
theorem notice_turn (hopen : p.isClosed = false) (hs : p.slots[position]? = some s)
    (hquiet : ∀ i < p.slots.length, event.outcomeAt? i = none) (conn : Nat) :
    Turn p now event (p.notice position s conn).1 := by
  simp only [notice, rest, hopen, Bool.false_eq_true, if_false]
  refine .supervised (.refl p) hs rfl rfl rfl ?_ hquiet
  show s.conn.filter (· ≠ conn) = none ∨ s.conn.filter (· ≠ conn) = s.conn
  cases s.conn with
  | none => exact .inl rfl
  | some n =>
      rw [Option.filter_some]
      split
      · exact .inr rfl
      · exact .inl rfl

theorem stepSlot_turn (hopen : p.isClosed = false) (hs : p.slots[position]? = some s)
    (hquiet : ∀ i < p.slots.length, event.outcomeAt? i = none) :
    Turn p now event (p.stepSlot now position s event).1 := by
  have hsame : Turn p now event p := .faded (.refl p) hquiet
  unfold stepSlot
  split
  · split
    · split
      · exact fail_turn hopen (.refl p) hs hquiet _
      · rename_i progress hgreeted
        apply proceed_turn hopen hs hquiet
        intro c hc
        obtain ⟨first, effects⟩ := progress
        cases hc
        exact absurd hgreeted Connection.ready_ne_greeted
    · exact hsame
  · split
    · apply proceed_turn hopen hs hquiet
      intro c hc
      exact Handshake.lifecycle_of_onEvent (Prod.ext hc rfl)
    · exact hsame
  · split
    · exact fail_turn hopen (.refl p) hs hquiet _
    · exact hsame
  · split
    · split
      · exact notice_turn hopen hs hquiet _
      · exact hsame
    · exact hsame
  · split
    · simp only [hopen, Bool.false_eq_true, if_false]
      exact hsame
    · simp only [hopen, Bool.false_eq_true, if_false]
      exact hsame
    · exact hsame
  · split
    · exact supervise_turn (.refl p) hs hquiet _
    · exact hsame
  · exact hsame

end Supervisors

/-- An event for a position is taken into account by the slot there, if there is one. -/
theorem step_of_position? {event : Event} {position : Nat}
    (hposition : event.position? = some position) :
    p.step now event = (p, []) ∨
      ∃ s, p.slots[position]? = some s ∧ p.step now event = p.stepSlot now position s event := by
  cases hs : p.slots[position]? with
  | none =>
      left
      cases event <;> cases hposition <;> simp [step, Event.position?, hs]
  | some s =>
      right
      refine ⟨s, rfl, ?_⟩
      cases event <;> cases hposition <;> simp [step, Event.position?, hs]

/-- Every step of an open pool is one of the four turns. -/
theorem step_turn (hopen : p.isClosed = false) (hclosing : p.closing = []) {event : Event}
    (hevent : event.isRegular) : Turn p now event (p.step now event).1 := by
  have hslot {position : Nat} (hposition : event.position? = some position)
      (hquiet : ∀ i < p.slots.length, event.outcomeAt? i = none) :
      Turn p now event (p.step now event).1 := by
    rcases step_of_position? hposition with hstep | ⟨s, hs, hstep⟩
    · rw [hstep]
      exact .faded (.refl p) hquiet
    · rw [hstep]
      exact stepSlot_turn hopen hs hquiet
  cases event with
  | conn number action => exact .faded (perform_fades hevent p now number) fun _ _ => rfl
  | probed position valid =>
      cases hs : p.slots[position]? with
      | none =>
          have hsame : (p.probed now position valid).1 = p := by
            rw [probed, hs]
          show Turn p now _ (p.probed now position valid).1
          rw [hsame]
          refine .faded (.refl p) ?_
          intro target htarget
          have hbound := List.getElem?_eq_none_iff.1 hs
          rw [Event.outcomeAt?, if_neg (by omega)]
      | some s => exact .judged hs
  | watch key callback => exact .faded (watch_fades p now key callback) fun _ _ => rfl
  | unwatch key => exact .faded (unwatch_fades p now key) fun _ _ => rfl
  | close => exact absurd hevent id
  | drained number =>
      have hsame : p.closeDrained now number = p := by
        simp [closeDrained, hclosing]
      show Turn p now _ (p.closeDrained now number)
      rw [hsame]
      exact .faded (.refl p) fun _ _ => rfl
  | graceOver =>
      have hsame : p.closeAll now = p := by
        simp [closeAll, hclosing]
      show Turn p now _ (p.closeAll now)
      rw [hsame]
      exact .faded (.refl p) fun _ _ => rfl
  | tearDown =>
      have hsame : (p.tearDown now).1 = p := by
        simp [tearDown, canTearDown, hopen]
      show Turn p now _ (p.tearDown now).1
      rw [hsame]
      exact .faded (.refl p) fun _ _ => rfl
  | greeted position requestTimeout raw => exact hslot rfl fun _ _ => rfl
  | handshake position event => exact hslot rfl fun _ _ => rfl
  | unreachable position cause => exact hslot rfl fun _ _ => rfl
  | lost position => exact hslot rfl fun _ _ => rfl
  | dismissed position => exact hslot rfl fun _ _ => rfl
  | rested position => exact hslot rfl fun _ _ => rfl

end Pool

end TupleWire

/-
  What acting on connections leaves as it was.

  Acting on the connections of a pool changes none of its slots and nothing
  that it remembers, and a connection that is closed stays so.  `Ages` says so
  for any number of actions, and says besides, where nobody asks for a key to be
  watched, that what is watched stays the same.
-/
import TupleWire.Pool.Supervision
import TupleWire.Proofs.Connection.Watching
import TupleWire.Proofs.Pool.Turn

set_option autoImplicit false

namespace TupleWire

/-- What may become of a connection: once closed it stays closed, and it watches what it watched as
long as that is left alone. -/
structure Connection.Ages (quiet : Prop) (c d : Connection) : Prop where
  closed : c.isClosed = true → d.isClosed = true
  watches : quiet → d.negotiated = c.negotiated ∧ d.watchers = c.watchers

namespace Connection.Ages

variable {quiet : Prop}

theorem refl (c : Connection) : Ages quiet c c := ⟨id, fun _ => ⟨rfl, rfl⟩⟩

theorem trans {c d e : Connection} (hcd : Ages quiet c d) (hde : Ages quiet d e) :
    Ages quiet c e where
  closed hc := hde.closed (hcd.closed hc)
  watches hquiet := by
    obtain ⟨hnegotiated, hwatchers⟩ := hcd.watches hquiet
    obtain ⟨hnegotiated', hwatchers'⟩ := hde.watches hquiet
    exact ⟨hnegotiated'.trans hnegotiated, hwatchers'.trans hwatchers⟩

/-- A connection that is open was open before. -/
theorem isOpen {c d : Connection} (h : Ages quiet c d) (hopen : d.isClosed = false) :
    c.isClosed = false :=
  Bool.eq_false_iff.2 (mt h.closed (Bool.eq_false_iff.1 hopen))

theorem act (c : Connection) (now : Nat) {action : Action}
    (h : quiet → action.leavesWatches) : Ages quiet c (c.act now action).2.1 :=
  ⟨Connection.isClosed_act now action, fun hquiet => c.watches_act now (h hquiet)⟩

end Connection.Ages

namespace Pool

/-- Two pools that differ by what was done to their connections. -/
structure Ages (quiet : Prop) (p q : Pool) : Prop where
  config : q.config = p.config
  slots : q.slots = p.slots
  watches : q.watches = p.watches
  isClosed : q.isClosed = p.isClosed
  closing : q.closing = p.closing
  isTornDown : q.isTornDown = p.isTornDown
  length : q.conns.length = p.conns.length
  conn {n : Nat} {c : Connection} : p.conns[n]? = some c →
    ∃ d, q.conns[n]? = some d ∧ Connection.Ages quiet c d

variable {quiet : Prop} {p q r : Pool} {now : Nat} {action : Action}

namespace Ages

theorem refl (p : Pool) : Ages quiet p p :=
  ⟨rfl, rfl, rfl, rfl, rfl, rfl, rfl, fun {_ c} hc => ⟨c, hc, .refl c⟩⟩

theorem trans (hpq : Ages quiet p q) (hqr : Ages quiet q r) : Ages quiet p r where
  config := hqr.config.trans hpq.config
  slots := hqr.slots.trans hpq.slots
  watches := hqr.watches.trans hpq.watches
  isClosed := hqr.isClosed.trans hpq.isClosed
  closing := hqr.closing.trans hpq.closing
  isTornDown := hqr.isTornDown.trans hpq.isTornDown
  length := hqr.length.trans hpq.length
  conn {n c} hc := by
    obtain ⟨d, hd, hcd⟩ := hpq.conn hc
    obtain ⟨e, he, hde⟩ := hqr.conn hd
    exact ⟨e, he, hcd.trans hde⟩

theorem of_quiet (h : Ages quiet p q) (hquiet : quiet) : Ages True p q := by
  refine ⟨h.config, h.slots, h.watches, h.isClosed, h.closing, h.isTornDown, h.length, ?_⟩
  intro n c hc
  obtain ⟨d, hd, hages⟩ := h.conn hc
  exact ⟨d, hd, hages.closed, fun _ => hages.watches hquiet⟩

/-- A connection of the later pool is one of the earlier pool. -/
theorem conn_of_later (h : Ages quiet p q) {n : Nat} {d : Connection} (hd : q.conns[n]? = some d) :
    ∃ c, p.conns[n]? = some c ∧ Connection.Ages quiet c d := by
  have hlt : n < q.conns.length := (List.getElem?_eq_some_iff.1 hd).1
  rw [h.length] at hlt
  have hc : p.conns[n]? = some p.conns[n] := List.getElem?_eq_getElem hlt
  obtain ⟨d', hd', hages⟩ := h.conn hc
  rw [hd] at hd'
  cases hd'
  exact ⟨_, hc, hages⟩

/-- A closed connection stays closed. -/
theorem isConnClosed (h : Ages quiet p q) {n : Nat} (hn : p.isConnClosed n = true) :
    q.isConnClosed n = true := by
  rw [Pool.isConnClosed, Option.all_eq_true]
  intro d hd
  obtain ⟨c, hc, hages⟩ := h.conn_of_later hd
  apply hages.closed
  rw [Pool.isConnClosed, hc] at hn
  exact hn

theorem installed (h : Ages quiet p q) : q.installed = p.installed :=
  congrArg (List.filterMap Slot.conn) h.slots

end Ages

theorem isClosed_of_isConnClosed {n : Nat} {c : Connection} (h : p.isConnClosed n = true)
    (hc : p.conns[n]? = some c) : c.isClosed = true := by
  rw [Pool.isConnClosed, hc] at h
  exact h

/-! ## Acting on connections -/

/-- Acting on a connection leaves what the pool remembers alone. -/
theorem watches_perform (p : Pool) (now : Nat) (action : Action) (n : Nat) :
    (p.perform now action n).watches = p.watches ∧
      (p.perform now action n).isTornDown = p.isTornDown := by
  unfold perform act
  cases p.conns[n]? with
  | none => exact ⟨rfl, rfl⟩
  | some c => exact ⟨rfl, rfl⟩

theorem perform_ages (p : Pool) (now n : Nat) (h : quiet → action.leavesWatches) :
    Ages quiet p (p.perform now action n) := by
  obtain ⟨hconfig, hslots, hclosed, hclosing, hlength⟩ := p.frame_perform now action n
  obtain ⟨hwatches, htorn⟩ := p.watches_perform now action n
  refine ⟨hconfig, hslots, hwatches, hclosed, hclosing, htorn, hlength, ?_⟩
  intro m c hc
  rw [conns_perform, hc]
  by_cases hn : n = m
  · rw [if_pos hn]
    exact ⟨_, rfl, .act c now h⟩
  · rw [if_neg hn]
    exact ⟨c, rfl, .refl c⟩

theorem foldl_ages {α : Type} {f : Pool → α → Pool} (hf : ∀ p a, Ages quiet p (f p a))
    (as : List α) (p : Pool) : Ages quiet p (as.foldl f p) :=
  foldl_keeps Ages.refl Ages.trans (fun p a _ => hf p a) p

/-- What connections share may change on the way. -/
theorem shared_ages (p : Pool) (shared : Shared) : Ages quiet p { p with shared } :=
  ⟨rfl, rfl, rfl, rfl, rfl, rfl, rfl, fun {_ c} hc => ⟨c, hc, .refl c⟩⟩

end Pool

end TupleWire

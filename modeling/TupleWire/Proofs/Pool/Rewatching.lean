/-
  Every live connection watches what the pool remembers.

  What is watched through a pool gets to a connection in two ways: it is asked
  for on all that are live, and on every new one before it is installed.  A watch
  that fails and one that is given up leave the pool without the key, so that
  nothing is asked of the connections for it; all other keys are left alone on
  every connection.  The invariant is `Covers`, and every step keeps it as long
  as new connections watch what the others do and nobody watches past the pool.
-/
import TupleWire.Proofs.Pool.Attendance

set_option autoImplicit false

namespace TupleWire

namespace Connection

variable {c d : Connection} {key : String} {now : Nat}

/-- Two connections that differ in what they watch under one key at most. -/
structure Beside (key : String) (c d : Connection) : Prop where
  closed : c.isClosed = true → d.isClosed = true
  canWatch : d.canWatch = c.canWatch
  watchers {other : String} : key ≠ other → d.watchers.get? other = c.watchers.get? other

theorem Beside.refl (key : String) (c : Connection) : Beside key c c := ⟨id, rfl, fun _ => rfl⟩

theorem Beside.trans {e : Connection} (hcd : Beside key c d) (hde : Beside key d e) :
    Beside key c e where
  closed hc := hde.closed (hcd.closed hc)
  canWatch := hde.canWatch.trans hcd.canWatch
  watchers hother := (hde.watchers hother).trans (hcd.watchers hother)

theorem Beside.isOpen (h : Beside key c d) (hopen : d.isClosed = false) : c.isClosed = false :=
  Bool.eq_false_iff.2 (mt h.closed (Bool.eq_false_iff.1 hopen))

/-- To watch a key leaves the other keys alone. -/
theorem beside_watch (c : Connection) (now : Nat) (key : String) (callback : WatchCallback) :
    Beside key c (c.act now (.watch key callback)).2.1 := by
  refine ⟨isClosed_act now _, Pool.canWatch_watch c, fun {other} hother => ?_⟩
  rw [Pool.watchers_watch]
  split
  · rw [Dict.get?_insert, if_neg hother]
  · rfl

/-- To stop watching a key leaves the other keys alone. -/
theorem beside_unwatch (c : Connection) (now : Nat) (key : String) :
    Beside key c (c.act now (.unwatch key)).2.1 := by
  refine ⟨isClosed_act now _, ?_, fun {other} hother => ?_⟩
  · obtain ⟨issued, hunwatched⟩ := c.conn_unwatch now key
    rw [hunwatched]
    rfl
  · rw [Pool.watchers_unwatch]
    split
    · rw [Dict.get?_erase, if_neg hother]
    · rfl

/-! ## A new connection -/

/-- A connection that is asked to watch several keys watches all of them, if it can. -/
theorem watchers_actAll (es : List (String × WatchCallback)) (c : Connection) (now : Nat) :
    (c.actAll now (es.map fun w => .watch w.1 w.2)).canWatch = c.canWatch ∧
      (c.canWatch = true → (c.actAll now (es.map fun w => .watch w.1 w.2)).watchers =
        es.foldl (fun d e => d.insert e.1 e.2) c.watchers) := by
  induction es generalizing c with
  | nil => exact ⟨rfl, fun _ => rfl⟩
  | cons w rest ih =>
      obtain ⟨hcan, hwatchers⟩ := ih (c.act now (.watch w.1 w.2)).2.1
      rw [Pool.canWatch_watch] at hcan hwatchers
      refine ⟨hcan, ?_⟩
      intro hc
      show ((c.act now (.watch w.1 w.2)).2.1.actAll now _).watchers = _
      rw [hwatchers hc, Pool.watchers_watch, if_pos hc]
      rfl

end Connection

namespace Pool

variable {p q : Pool} {now i n : Nat} {s s' : Slot} {event : Event} {key : String}
  {callback : WatchCallback}

/-- A connection that is prepared for a pool watches what is watched through it, if it can. -/
theorem watchers_prepared (hrewatches : p.config.rewatches = true) {c : Connection}
    (hcan : (c.actAll now (p.preparations s)).canWatch = true)
    (hkey : p.watches.get? key = some callback) :
    (c.actAll now (p.preparations s)).watchers.get? key = some callback := by
  let marks : List Action := if s.isQuarantined then [.setLifecycle .degraded] else []
  have hprepared : c.actAll now (p.preparations s) =
      (c.actAll now marks).actAll now (p.watches.entries.map fun w => .watch w.1 w.2) := by
    rw [preparations, if_pos hrewatches]
    exact List.foldl_append
  obtain ⟨hsame, hwatchers⟩ :=
    Connection.watchers_actAll p.watches.entries (c.actAll now marks) now
  rw [hprepared, hsame] at hcan
  rw [hprepared, hwatchers hcan]
  exact Dict.get?_foldl_insert_entries hkey _

/-! ## One key, and the others -/

/-- Two pools that differ in what is watched under one key at most. -/
structure Beside (key : String) (p q : Pool) : Prop where
  slots : q.slots = p.slots
  watches {other : String} : key ≠ other → q.watches.get? other = p.watches.get? other
  conn {n : Nat} {d : Connection} : q.conns[n]? = some d →
    ∃ c, p.conns[n]? = some c ∧ Connection.Beside key c d

namespace Beside

theorem refl (key : String) (p : Pool) : Beside key p p :=
  ⟨rfl, fun _ => rfl, fun {_ d} hd => ⟨d, hd, .refl key d⟩⟩

theorem trans {r : Pool} (hpq : Beside key p q) (hqr : Beside key q r) : Beside key p r where
  slots := hqr.slots.trans hpq.slots
  watches hother := (hqr.watches hother).trans (hpq.watches hother)
  conn {n e} he := by
    obtain ⟨d, hd, hde⟩ := hqr.conn he
    obtain ⟨c, hc, hcd⟩ := hpq.conn hd
    exact ⟨c, hc, hcd.trans hde⟩

theorem insert (p : Pool) (key : String) (callback : WatchCallback) :
    Beside key p { p with watches := p.watches.insert key callback } where
  slots := rfl
  watches hother := by
    show (p.watches.insert key callback).get? _ = _
    rw [Dict.get?_insert, if_neg hother]
  conn {n d} hd := ⟨d, hd, .refl key d⟩

theorem erase (p : Pool) (key : String) : Beside key p { p with watches := p.watches.erase key } where
  slots := rfl
  watches hother := by
    show (p.watches.erase key).get? _ = _
    rw [Dict.get?_erase, if_neg hother]
  conn {n d} hd := ⟨d, hd, .refl key d⟩

/-- Acting on a connection is beside a key if the action is. -/
theorem perform {action : Action} (haction : ∀ c : Connection,
    Connection.Beside key c (c.act now action).2.1) (p : Pool) (n : Nat) :
    Beside key p (p.perform now action n) := by
  obtain ⟨_, hslots, _⟩ := p.frame_perform now action n
  obtain ⟨hwatches, _⟩ := p.watches_perform now action n
  refine ⟨hslots, fun _ => congrArg (Dict.get? · _) hwatches, fun {m d} hd => ?_⟩
  rw [conns_perform] at hd
  split at hd
  · obtain ⟨c, hc, rfl⟩ := Option.map_eq_some_iff.1 hd
    exact ⟨c, hc, haction c⟩
  · exact ⟨d, hd, .refl key d⟩

theorem performAll {action : Action} (haction : ∀ c : Connection,
    Connection.Beside key c (c.act now action).2.1) (p : Pool) (ns : List Nat) :
    Beside key p (p.performAll now action ns) :=
  foldl_keeps (refl key) trans (fun p n _ => perform haction p n) p

/-- A connection that is live is one that was live. -/
theorem live (h : Beside key p q) (hn : n ∈ q.live) : n ∈ p.live := by
  obtain ⟨hmem, _⟩ := mem_live_iff.1 hn
  obtain ⟨d, hd, hopen⟩ := conn_of_mem_live hn
  obtain ⟨c, hc, hcd⟩ := h.conn hd
  have hinstalled : q.installed = p.installed := congrArg (List.filterMap Slot.conn) h.slots
  refine mem_live_iff.2 ⟨hinstalled ▸ hmem, ?_⟩
  rw [isConnClosed, hc]
  exact hcd.isOpen hopen

end Beside

/-- A watch that fails leaves the other keys alone, and the pool without the key. -/
theorem watch_beside (hopen : p.isClosed = false) (hdistinct : p.installed.Nodup) (now : Nat)
    (key : String) (callback : WatchCallback) :
    Beside key p (p.watch now key callback).2 ∧
      ((p.watch now key callback).2.watches.get? key = none ∨
        (∀ n ∈ p.live, p.accepts now (.watch key callback) n = true) ∧
          (p.watch now key callback).2 =
            (p.noted key callback).performAll now (.watch key callback) p.live) := by
  have hwatch (p : Pool) (ns : List Nat) : Beside key p (p.performAll now (.watch key callback) ns) :=
    .performAll (fun c => c.beside_watch now key callback) p ns
  rcases watch_cases hopen hdistinct now key callback with
    ⟨haccepted, heq⟩ | ⟨e, reached, refusing, beyond, heq, _⟩
  · rw [heq]
    exact ⟨(Beside.insert p key callback).trans (hwatch _ _), .inr ⟨haccepted, rfl⟩⟩
  · rw [heq]
    refine ⟨?_, .inl ?_⟩
    · have hbegun := (Beside.insert p key callback).trans (hwatch _ (reached ++ [refusing]))
      have hforgotten := hbegun.trans (Beside.erase _ key)
      exact hforgotten.trans (.performAll (fun c => c.beside_unwatch now key) _ reached)
    · show (p.undone now key callback reached refusing).watches.get? key = none
      rw [watches_undone, Dict.get?_erase, if_pos rfl]

theorem unwatch_beside (hopen : p.isClosed = false) (hdistinct : p.installed.Nodup) (now : Nat)
    (key : String) :
    Beside key p (p.unwatch now key).2 ∧ (p.unwatch now key).2.watches.get? key = none := by
  obtain ⟨touched, heq, _⟩ := unwatch_reaches hopen hdistinct now key
  rw [heq]
  refine ⟨(Beside.erase p key).trans (.performAll (fun c => c.beside_unwatch now key) _ touched), ?_⟩
  rw [watches_performAll]
  exact (Dict.get?_erase _ _ _).trans (if_pos rfl)

/-! ## The invariant -/

/-- Every live connection that can watch has the callbacks that the pool remembers. -/
def Covers (p : Pool) : Prop :=
  ∀ n ∈ p.live, ∀ c, p.conns[n]? = some c → c.canWatch = true →
    ∀ key callback, p.watches.get? key = some callback → c.watchers.get? key = some callback

namespace Covers

/-- Nothing is asked for where nothing is watched. -/
theorem of_empty (h : p.watches = Dict.empty) : Covers p := by
  intro n _ c _ _ key callback hkey
  rw [h] at hkey
  cases hkey

/-- Connections that go on as before watch what they watched. -/
theorem of_ages (h : Covers p) (hages : Ages True p q) : Covers q := by
  intro n hn d hd hcan key callback hkey
  obtain ⟨c, hc, haged⟩ := hages.conn_of_later hd
  obtain ⟨hnegotiated, hwatchers⟩ := haged.watches trivial
  have hcan' : c.canWatch = true := by
    rw [Connection.canWatch, hnegotiated] at hcan
    exact hcan
  rw [hages.watches] at hkey
  rw [hwatchers]
  exact h n (hages.live hn) c hc hcan' key callback hkey

/-- Whoever gives connections up has fewer to look after. -/
theorem of_fewer (h : Covers p) (hconns : q.conns = p.conns) (hwatches : q.watches = p.watches)
    (hfewer : ∀ n ∈ q.installed, n ∈ p.installed) : Covers q := by
  intro n hn c hc hcan key callback hkey
  obtain ⟨hmem, hopen⟩ := mem_live_iff.1 hn
  rw [isConnClosed, hconns] at hopen
  rw [hconns] at hc
  rw [hwatches] at hkey
  exact h n (mem_live_iff.2 ⟨hfewer n hmem, hopen⟩) c hc hcan key callback hkey

/-- What changes under one key only has to be looked at under that key. -/
theorem of_beside (h : Covers p) (hbeside : Beside key p q)
    (hown : ∀ callback, q.watches.get? key = some callback → ∀ n ∈ q.live, ∀ d,
      q.conns[n]? = some d → d.canWatch = true → d.watchers.get? key = some callback) :
    Covers q := by
  intro n hn d hd hcan other callback hkey
  by_cases hother : key = other
  · subst hother
    exact hown callback hkey n hn d hd hcan
  · obtain ⟨c, hc, hcd⟩ := hbeside.conn hd
    rw [hbeside.watches hother] at hkey
    rw [hcd.watchers hother]
    exact h n (hbeside.live hn) c hc (hcd.canWatch ▸ hcan) other callback hkey

theorem watch (h : Covers p) (hdistinct : p.installed.Nodup) (now : Nat) (key : String)
    (callback : WatchCallback) : Covers (p.watch now key callback).2 := by
  by_cases hclosed : p.isClosed = true
  · rw [watch_of_closed hclosed]
    exact h
  · have hopen : p.isClosed = false := by simpa using hclosed
    obtain ⟨hbeside, hkey⟩ := watch_beside hopen hdistinct now key callback
    refine h.of_beside hbeside ?_
    intro found hfound n hn d hd _
    -- If the pool remembers the key now, the watch was accepted by every live connection.
    rcases hkey with hforgotten | ⟨haccepted, heq⟩
    · rw [hforgotten] at hfound
      cases hfound
    · have hlive := hbeside.live hn
      obtain ⟨c, hc, _⟩ := conn_of_mem_live hlive
      have hable := ((accepts_watch_iff hlive).1 (haccepted n hlive) c hc).1
      rw [heq, watches_performAll] at hfound
      have hcallback : some callback = some found := by
        rw [← hfound]
        exact ((Dict.get?_insert _ _ _ _).trans (if_pos rfl)).symm
      rw [heq, conns_performAll (nodup_live hdistinct), if_pos hlive] at hd
      obtain ⟨c', hc', rfl⟩ := Option.map_eq_some_iff.1 hd
      have hsame : p.conns[n]? = some c' := hc'
      rw [hc] at hsame
      cases hsame
      rw [watchers_watch, if_pos hable, Dict.get?_insert, if_pos rfl]
      exact hcallback

theorem unwatch (h : Covers p) (hdistinct : p.installed.Nodup) (now : Nat) (key : String) :
    Covers (p.unwatch now key).2 := by
  by_cases hclosed : p.isClosed = true
  · rw [unwatch_of_closed hclosed]
    exact h
  · have hopen : p.isClosed = false := by simpa using hclosed
    obtain ⟨hbeside, hforgotten⟩ := unwatch_beside hopen hdistinct now key
    refine h.of_beside hbeside ?_
    intro found hfound
    rw [hforgotten] at hfound
    cases hfound

/-- A connection is installed with everything that the pool remembers. -/
theorem install (h : Covers p) (hrewatches : p.config.rewatches = true)
    (hs : p.slots[i]? = some s) (now : Nat) (c : Connection) : Covers (p.install now i s c).1 := by
  obtain ⟨q, hages, hothers, hnew, hinstall⟩ := p.install_parts now i s c
  rw [hinstall]
  intro n hn d hd hcan key callback hkey
  have hd' : q.conns[n]? = some d := hd
  have hkey' : p.watches.get? key = some callback := by
    have hwatches : q.watches = p.watches := hages.watches
    rw [← hwatches]
    exact hkey
  by_cases hown : n = p.conns.length
  · subst hown
    rw [hnew] at hd'
    cases hd'
    exact watchers_prepared hrewatches hcan hkey'
  · rw [hothers n hown] at hd'
    obtain ⟨hmem, hopen⟩ := mem_live_iff.1 hn
    have hqs : q.slots[i]? = some s := by
      rw [hages.slots]
      exact hs
    have hold : n ∈ p.installed := by
      rcases mem_installed_setSlot hqs hmem with hnumber | hold
      · exact absurd (Option.some.inj hnumber).symm hown
      · rw [hages.installed] at hold
        exact hold
    have hlive : n ∈ p.live := by
      refine mem_live_iff.2 ⟨hold, ?_⟩
      have hopen' : q.isConnClosed n = false := hopen
      rw [isConnClosed, hothers n hown] at hopen'
      exact hopen'
    exact h n hlive d hd' hcan key callback hkey'

/-- A step keeps it so unless somebody watches past the pool. -/
theorem step (h : Covers p) (hattended : Attended p) (hrewatches : p.config.rewatches = true)
    (now : Nat) (hevent : ∀ n action, event = .conn n action → action.leavesWatches) :
    Covers (p.step now event).1 := by
  have hshift := p.step_shift now event
  -- Apart from watching and from giving a key up, only installing asks for anything.
  have hquiet (hleaves : event.leavesWatches) : Covers (p.step now event).1 := by
    generalize p.step now event = outcome at hshift
    cases hshift with
    | @acted _ q watches hages hkept =>
        rw [hkept hleaves] at hages
        exact h.of_ages (hages.of_quiet hleaves)
    | @supervised _ q i s s' told hages hs _ htends _ =>
        rw [← hages.slots] at hs
        refine (h.of_ages hages).of_fewer rfl rfl ?_
        have hfewer := installed_setSlot_sublist hs (htends.conn.imp_right And.left)
        intro n hn
        exact hfewer.subset hn
    | @judged q i s s' valid told hages hs hconn _ _ =>
        rw [← hages.slots] at hs
        refine (h.of_ages hages).of_fewer rfl rfl ?_
        intro n hn
        exact (installed_setSlot_sublist hs (.inl hconn)).subset hn
    | @installed _ i s handshake shared c _ hs _ =>
        exact (h.of_ages (shared_ages p shared)).install hrewatches hs now c
    | @closed q _ hages =>
        have hsame : Covers { p with isClosed := true, closing := p.installed } := h
        exact hsame.of_ages hages
    | @tornDown q _ hages _ =>
        refine (h.of_ages hages).of_fewer rfl rfl ?_
        intro n hn
        obtain ⟨t, ht, hconn⟩ := List.mem_filterMap.1 hn
        obtain ⟨s, _, rfl⟩ := List.mem_map.1 ht
        cases hconn
  cases event with
  | watch key callback => exact h.watch hattended.apart now key callback
  | unwatch key => exact h.unwatch hattended.apart now key
  | conn n action => exact hquiet (hevent n action rfl)
  | _ => exact hquiet trivial

theorem run (h : Covers p) (hattended : Attended p) (hrewatches : p.config.rewatches = true)
    {steps : List (Nat × Event)}
    (hsteps : ∀ step ∈ steps, ∀ n action, step.2 = .conn n action → action.leavesWatches) :
    Covers (p.run steps).1 := by
  induction steps generalizing p with
  | nil => exact h
  | cons step rest ih =>
      have hnow := h.step hattended hrewatches step.1 (hsteps step List.mem_cons_self)
      have hstill : (p.step step.1 step.2).1.config.rewatches = true := by
        rw [(p.step_shift step.1 step.2).config_eq]
        exact hrewatches
      exact ih hnow (hattended.step step.1 step.2) hstill fun next hnext =>
        hsteps next (List.mem_cons_of_mem _ hnext)

end Covers

/-- Where new connections watch what the others do, and what a connection watches and has agreed on
is changed by nobody but the pool, every connection in a slot that is not closed and has agreed on
watching has the callback that the pool remembers for a key, for every key that it remembers.  This
is so after any steps from the start on: watches that succeed or fail, keys given up, connections
lost and replaced. -/
theorem watches_reach_every_connection {config : PoolConfig} {groups : List Group}
    {shared : Shared} {results : List (Except ClientError Connection)} {events : List PoolEvent}
    (hstart : start config groups shared now results = (.ok p, events))
    (hrewatches : config.rewatches = true) {steps : List (Nat × Event)}
    (hsteps : ∀ step ∈ steps, ∀ n action, step.2 = .conn n action → action.leavesWatches)
    {c : Connection} (hs : (p.run steps).1.slots[i]? = some s)
    (hc : (p.run steps).1.current? s = some c) (hopen : c.isClosed = false)
    (hcan : c.negotiated.allows .watch = true)
    (hkey : (p.run steps).1.watches.get? key = some callback) :
    c.watchers.get? key = some callback := by
  have hopened := Opened.of_start hstart
  have hcovers : Covers (p.run steps).1 := by
    refine (Covers.of_empty hopened.unwatched).run hopened.attended ?_ hsteps
    rw [hopened.config_eq]
    exact hrewatches
  obtain ⟨n, hn, hconn⟩ := Option.bind_eq_some_iff.1 hc
  have hlive : n ∈ (p.run steps).1.live := by
    refine mem_live_iff.2 ⟨List.mem_filterMap.2 ⟨s, List.mem_of_getElem? hs, hn⟩, ?_⟩
    rw [isConnClosed, hconn]
    exact hopen
  exact hcovers n hlive c hconn hcan key callback hkey

namespace Return

/-- One connection to one instance. -/
def group : Group := { tag := "default", host := "localhost", port := 3301, size := 1 }

/-- What is watched is watched on new connections as well. -/
def config : PoolConfig := ⟨.ofMillis 10, false, .ofMillis 0, true, ⟨2, 1, 2⟩⟩

/-- A connection that is ready and can watch. -/
def conn : Connection :=
  { tag := "default", index := 0, salt := [], requestTimeout := .ofMillis 1000,
    lifecycle := .ready, negotiated := ⟨protocolVersion, .all⟩ }

/-- A key is watched, and watched once more with another callback; the connection is lost, and
replaced by a new one that can watch. -/
def steps : List (Nat × Event) :=
  [(1, .watch "config" ⟨1⟩), (2, .watch "config" ⟨2⟩), (3, .conn 0 .shutdown), (4, .lost 0),
    (5, .rested 0),
    (6, .greeted 0 (.ofMillis 1000) (Greeting.encode ⟨"Tarantool", List.replicate 20 0⟩)),
    (7, .handshake 0 (.conn (.receive
      ⟨[], ⟨⟨0, 1, some 1, none⟩, Body.identify protocolVersion .all⟩⟩))),
    (8, .handshake 0 (.conn (.receive ⟨[], ⟨⟨0, 2, some 1, none⟩, Body.empty⟩⟩)))]

/-- The pool as it is started. -/
def begun : Pool :=
  (start config [group] {} 0 [.ok conn]).1.toOption.getD { config, slots := [], shared := {} }

/-- The new connection has the callback that was there last. -/
theorem watches_reach_new_connection : ∃ s c, (begun.run steps).1.slots[0]? = some s ∧
    (begun.run steps).1.current? s = some c ∧ s.conn = some 1 ∧ c.isClosed = false ∧
    c.watchers.get? "config" = some ⟨2⟩ := by
  have hslot : (begun.run steps).1.slots[0]?.bind Slot.conn = some 1 := by decide +kernel
  have hconn : (begun.run steps).1.conns[1]?.map (fun c => (c.isClosed, c.canWatch)) =
      some (false, true) := by decide +kernel
  have hkey : (begun.run steps).1.watches.get? "config" = some ⟨2⟩ := by decide +kernel
  obtain ⟨s, hs, hone⟩ := Option.bind_eq_some_iff.1 hslot
  obtain ⟨c, hc, hflags⟩ := Option.map_eq_some_iff.1 hconn
  obtain ⟨hopen, hcan⟩ := Prod.mk.inj hflags
  have hcurrent : (begun.run steps).1.current? s = some c := by
    rw [current?, hone]
    exact hc
  have hsteps (step : Nat × Event) (hstep : step ∈ steps) (n : Nat) (action : Action)
      (heq : step.2 = .conn n action) : action.leavesWatches := by
    simp only [steps, List.mem_cons, List.not_mem_nil, or_false] at hstep
    rcases hstep with rfl | rfl | rfl | rfl | rfl | rfl | rfl | rfl <;> cases heq
    exact Action.leavesWatches_shutdown
  have hstart : start config [group] {} 0 [.ok conn] =
      (.ok begun, (start config [group] {} 0 [.ok conn]).2) := rfl
  have hrewatches : config.rewatches = true := rfl
  exact ⟨s, c, hs, hcurrent, hone, hopen, watches_reach_every_connection hstart hrewatches hsteps hs
    hcurrent hopen hcan hkey⟩

end Return

end Pool

end TupleWire

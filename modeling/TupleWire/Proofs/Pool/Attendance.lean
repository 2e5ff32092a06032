/-
  Who looks after a connection.

  Whatever happens to a pool, no two slots share a connection, a connection that
  is not closed is in a slot, and a connection in a slot is watched over by the
  supervisor there until the pool stops it.  So a pool that is torn down has no
  connection left that is not closed.
-/
import TupleWire.Proofs.Pool.Shift

set_option autoImplicit false

namespace TupleWire

/-- A slot whose supervisor is at an attempt has no connection that could be lost to it. -/
theorem Slot.IsAttended.conn_eq_none {s : Slot} (h : s.IsAttended) {handshake : Option Handshake}
    (hattempting : s.supervisor = .attempting handshake) : s.conn = none := by
  cases hconn : s.conn with
  | none => rfl
  | some n =>
      rcases h n hconn with hother | hother
      · rw [hattempting] at hother
        cases hother
      · rw [hattempting] at hother
        cases hother

namespace Pool

variable {p q : Pool} {now i n : Nat} {s s' : Slot} {event : Event}

/-! ## The invariant -/

/-- A pool that knows where its connections are. -/
structure Accounted (p : Pool) : Prop where
  /-- no two slots share a connection -/
  apart : p.installed.Nodup
  known {n : Nat} : n ∈ p.installed → n < p.conns.length
  /-- a connection that is not closed is in a slot -/
  held {n : Nat} {c : Connection} : p.conns[n]? = some c → c.isClosed = false → n ∈ p.installed
  attended {s : Slot} : s ∈ p.slots → s.IsAttended

/-- A pool that knows where its connections are, and has none left once it is torn down. -/
structure Attended (p : Pool) : Prop extends Accounted p where
  /-- a pool that is torn down is closed, and nobody looks after its slots, which are empty -/
  emptied : p.isTornDown = true → p.isClosed = true ∧
    ∀ s ∈ p.slots, s.conn = none ∧ s.supervisor = .stopped

namespace Accounted

/-- Acting on connections keeps them where they are. -/
theorem of_ages {quiet : Prop} (h : Accounted p) (hages : Ages quiet p q) : Accounted q where
  apart := by
    rw [hages.installed]
    exact h.apart
  known hn := by
    rw [hages.length]
    rw [hages.installed] at hn
    exact h.known hn
  held {n d} hd hopen := by
    obtain ⟨c, hc, haged⟩ := hages.conn_of_later hd
    rw [hages.installed]
    exact h.held hc (haged.isOpen hopen)
  attended hs := by
    rw [hages.slots] at hs
    exact h.attended hs

/-- What the pool remembers, and whether it is closed or torn down, has nothing to do with it. -/
theorem of_eq (h : Accounted p) (hslots : q.slots = p.slots) (hconns : q.conns = p.conns) :
    Accounted q := by
  have hinstalled : q.installed = p.installed := congrArg (List.filterMap Slot.conn) hslots
  refine ⟨?_, fun {n} hn => ?_, fun {n c} hc hopen => ?_, fun {t} ht => ?_⟩
  · rw [hinstalled]
    exact h.apart
  · rw [hinstalled] at hn
    rw [hconns]
    exact h.known hn
  · rw [hconns] at hc
    rw [hinstalled]
    exact h.held hc hopen
  · rw [hslots] at ht
    exact h.attended ht

/-- A slot may give up a connection that is closed. -/
theorem setSlot (h : Accounted p) (hs : p.slots[i]? = some s)
    (hconn : s'.conn = s.conn ∨ s'.conn = none ∧ ∀ n, s.conn = some n → p.isConnClosed n = true)
    (hattended : s'.IsAttended) : Accounted (p.setSlot i s') := by
  obtain ⟨before, after, hinstalled, hset⟩ := installed_split hs
  have hsublist : List.Sublist (p.setSlot i s').installed p.installed :=
    installed_setSlot_sublist hs (hconn.imp_right And.left)
  refine ⟨h.apart.sublist hsublist, fun hn => h.known (hsublist.subset hn),
    fun {n c} hc hopen => ?_,
    fun {t} ht => ?_⟩
  · have hold : n ∈ p.installed := h.held hc hopen
    rcases hconn with hsame | ⟨hnone, hclosed⟩
    · rw [hset, hsame, ← hinstalled]
      exact hold
    · rw [hinstalled] at hold
      rw [hset, hnone]
      cases hn : s.conn with
      | none =>
          rw [hn] at hold
          exact hold
      | some m =>
          have hother : n ≠ m := by
            rintro rfl
            rw [isClosed_of_isConnClosed (hclosed n hn) hc] at hopen
            cases hopen
          rw [hn] at hold
          simpa [hother] using hold
  · rcases List.mem_or_eq_of_mem_set ht with ht | rfl
    · exact h.attended ht
    · exact hattended

/-- Where every slot is empty, every connection that was ever installed is closed. -/
theorem isClosed_of_empty (h : Accounted p) (hempty : ∀ s ∈ p.slots, s.conn = none) :
    ∀ c ∈ p.conns, c.isClosed = true := by
  intro c hc
  obtain ⟨n, hn⟩ := List.mem_iff_getElem?.1 hc
  cases hclosed : c.isClosed with
  | true => rfl
  | false =>
      obtain ⟨s, hs, hconn⟩ := List.mem_filterMap.1 (h.held hn hclosed)
      rw [hempty s hs] at hconn
      cases hconn

/-- A connection that is installed gets a number that no slot has. -/
theorem install (h : Accounted p) (hs : p.slots[i]? = some s) (hfree : s.conn = none) (now : Nat)
    (c : Connection) : Accounted (p.install now i s c).1 := by
  obtain ⟨q, hages, hothers, hnew, hinstall⟩ := p.install_parts now i s c
  have hqs : q.slots[i]? = some s := by
    rw [hages.slots]
    exact hs
  obtain ⟨before, after, hinstalled, hset⟩ := installed_split hqs
  have hold : p.installed = before ++ after := by
    have hsame : q.installed = p.installed := hages.installed
    rw [← hsame, hinstalled, hfree]
    simp
  have hnow (n : Nat) : n ∈ before ++ [p.conns.length] ++ after ↔
      n = p.conns.length ∨ n ∈ p.installed := by
    rw [hold]
    simp only [List.mem_append, List.mem_singleton]
    rw [or_assoc, or_left_comm]
  have hlength : q.conns.length = p.conns.length + 1 := by
    rw [hages.length]
    exact List.length_append
  rw [hinstall]
  refine ⟨?_, fun {n} hn => ?_, fun {n d} hd hlive => ?_, fun {t} ht => ?_⟩
  · rw [hset]
    show (before ++ [p.conns.length] ++ after).Nodup
    have hfresh : (p.conns.length :: (before ++ after)).Nodup := by
      rw [← hold]
      exact List.nodup_cons.2 ⟨fun hmem => Nat.lt_irrefl _ (h.known hmem), h.apart⟩
    rw [List.append_assoc, List.singleton_append]
    exact List.perm_middle.symm.nodup hfresh
  · rw [hset] at hn
    show n < q.conns.length
    rw [hlength]
    rcases (hnow n).1 hn with rfl | hn
    · exact Nat.lt_succ_self _
    · exact Nat.lt_succ_of_lt (h.known hn)
  · rw [hset]
    apply (hnow n).2
    by_cases hn : n = p.conns.length
    · exact .inl hn
    · right
      have hd' : p.conns[n]? = some d := by
        rw [← hothers n hn]
        exact hd
      exact h.held hd' hlive
  · rcases List.mem_or_eq_of_mem_set ht with ht | rfl
    · rw [hages.slots] at ht
      exact h.attended ht
    · intro n hn
      exact .inl (congrArg Supervisor.watching (Option.some.inj hn))

end Accounted

namespace Attended

/-- Acting on connections keeps them where they are. -/
theorem of_ages {quiet : Prop} (h : Attended p) (hages : Ages quiet p q) : Attended q := by
  refine ⟨h.toAccounted.of_ages hages, fun htorn => ?_⟩
  rw [hages.isTornDown] at htorn
  rw [hages.isClosed, hages.slots]
  exact h.emptied htorn

/-- What the pool remembers has nothing to do with it. -/
theorem remember (h : Attended p) (watches : Dict String WatchCallback) :
    Attended { p with watches } := ⟨h.toAccounted.of_eq rfl rfl, h.emptied⟩

/-- A slot may give up a connection that is closed. -/
theorem setSlot (h : Attended p) (hs : p.slots[i]? = some s)
    (hconn : s'.conn = s.conn ∨ s'.conn = none ∧ ∀ n, s.conn = some n → p.isConnClosed n = true)
    (hattended : s'.IsAttended)
    (hemptied : p.isTornDown = true → s'.conn = none ∧ s'.supervisor = .stopped) :
    Attended (p.setSlot i s') := by
  refine ⟨h.toAccounted.setSlot hs hconn hattended,
    fun htorn => ⟨(h.emptied htorn).1, fun t ht => ?_⟩⟩
  rcases List.mem_or_eq_of_mem_set ht with ht | rfl
  · exact (h.emptied htorn).2 t ht
  · exact hemptied htorn

/-- A connection is installed in an open pool. -/
theorem install (h : Attended p) (hopen : p.isClosed = false) (hs : p.slots[i]? = some s)
    (hfree : s.conn = none) (now : Nat) (c : Connection) :
    Attended (p.install now i s c).1 := by
  refine ⟨h.toAccounted.install hs hfree now c, fun htorn => ?_⟩
  obtain ⟨q, hages, _, _, hinstall⟩ := p.install_parts now i s c
  rw [hinstall] at htorn
  have htorn' : q.isTornDown = true := htorn
  rw [hages.isTornDown] at htorn'
  have hclosed := (h.emptied htorn').1
  rw [hopen] at hclosed
  cases hclosed

/-- When the slots are emptied, nothing is left that is not closed. -/
theorem empty (h : Attended p) (hclosed : p.isClosed = true)
    (hgone : ∀ n ∈ p.installed, p.isConnClosed n = true) :
    Attended { p with
      slots := p.slots.map fun s => { s with conn := none, supervisor := .stopped }
      isTornDown := true } := by
  have hslot {t : Slot} (ht : t ∈ p.slots.map fun s =>
      { s with conn := none, supervisor := .stopped }) :
      t.conn = none ∧ t.supervisor = .stopped := by
    obtain ⟨s, _, rfl⟩ := List.mem_map.1 ht
    exact ⟨rfl, rfl⟩
  have hempty : (p.slots.map fun s =>
      { s with conn := none, supervisor := .stopped }).filterMap Slot.conn = [] := by
    rw [List.filterMap_eq_nil_iff]
    intro t ht
    exact (hslot ht).1
  refine ⟨⟨?_, fun {n} hn => ?_, fun {n c} hc hopen => ?_, fun {t} ht n hn => ?_⟩,
    fun _ => ⟨hclosed, fun t ht => hslot ht⟩⟩
  · rw [installed, hempty]
    exact .nil
  · rw [installed, hempty] at hn
    cases hn
  · have hc' : p.conns[n]? = some c := hc
    rw [isClosed_of_isConnClosed (hgone n (h.held hc' hopen)) hc'] at hopen
    cases hopen
  · rw [(hslot ht).1] at hn
    cases hn

/-- Every shift keeps it so. -/
theorem of_shift (h : Attended p) {outcome : Pool × List PoolEvent}
    (hshift : Shift p now event outcome) : Attended outcome.1 := by
  cases hshift with
  | @acted _ q watches hages _ => exact (h.remember watches).of_ages hages
  | @supervised _ q i s s' told hages hs hgoing htends _ =>
      have hqs : q.slots[i]? = some s := by
        rw [hages.slots]
        exact hs
      have hmem := List.mem_of_getElem? hs
      refine (h.of_ages hages).setSlot hqs ?_ (htends.attended (h.attended hmem)) ?_
      · rcases htends.conn with hsame | ⟨hnone, hclosed⟩
        · exact .inl hsame
        · exact .inr ⟨hnone, fun n hn => hages.isConnClosed (hclosed n hn)⟩
      · -- No supervisor goes on in a pool that is torn down.
        intro htorn
        rw [hages.isTornDown] at htorn
        exact absurd ((h.emptied htorn).2 s hmem).2 hgoing
  | @judged q i s s' valid told hages hs hconn hsupervisor _ =>
      have hqs : q.slots[i]? = some s := by
        rw [hages.slots]
        exact hs
      have hmem := List.mem_of_getElem? hs
      refine (h.of_ages hages).setSlot hqs (.inl hconn) ?_ ?_
      · intro n hn
        rw [hsupervisor]
        exact h.attended hmem n (hconn ▸ hn)
      · intro htorn
        rw [hages.isTornDown] at htorn
        rw [hconn, hsupervisor]
        exact (h.emptied htorn).2 s hmem
  | @installed _ i s handshake shared c hopen hs hattempting =>
      have hfree : s.conn = none :=
        (h.attended (List.mem_of_getElem? hs)).conn_eq_none hattempting
      have hages : Ages True p { p with shared } := shared_ages p shared
      exact (h.of_ages hages).install hopen hs hfree now c
  | @closed q hopen hages =>
      have hclosed : Attended { p with isClosed := true, closing := p.installed } :=
        ⟨h.toAccounted.of_eq rfl rfl, fun htorn => ⟨rfl, (h.emptied htorn).2⟩⟩
      exact hclosed.of_ages hages
  | @tornDown q hcan hages hgone =>
      unfold canTearDown at hcan
      simp only [Bool.and_eq_true] at hcan
      refine (h.of_ages hages).empty (hages.isClosed.trans hcan.1.1) ?_
      intro n hn
      rw [hages.installed] at hn
      exact hgone n hn

theorem step (h : Attended p) (now : Nat) (event : Event) : Attended (p.step now event).1 :=
  h.of_shift (p.step_shift now event)

theorem run (h : Attended p) (steps : List (Nat × Event)) : Attended (p.run steps).1 := by
  induction steps generalizing p with
  | nil => exact h
  | cons step rest ih => exact ih (h.step step.1 step.2)

end Attended

/-! ## Starting -/

/-- A pool as it is started: open, and nothing is watched through it. -/
structure Opened (config : PoolConfig) (p : Pool) : Prop where
  attended : Attended p
  config_eq : p.config = config
  isOpen : p.isClosed = false
  notTornDown : p.isTornDown = false
  unwatched : p.watches = Dict.empty

variable {config : PoolConfig}

/-- A pool that was started has settled its first attempts, and told of them. -/
theorem settleFrom_of_start {groups : List Group} {shared : Shared}
    {results : List (Except ClientError Connection)} {events : List PoolEvent}
    (hstart : start config groups shared now results = (.ok p, events)) :
    settleFrom now 0 { config, slots := slotsOf groups, shared } results = (p, events) := by
  unfold start at hstart
  generalize settleFrom now 0 { config, slots := slotsOf groups, shared } results = settled
    at hstart ⊢
  obtain ⟨q, told⟩ := settled
  dsimp only at hstart
  split at hstart
  · split at hstart
    · cases hstart
    · cases hstart
      rfl
  · cases hstart
    rfl

namespace Opened

/-- Before the first attempts, nothing is installed. -/
theorem slot_initial {groups : List Group} (hs : s ∈ slotsOf groups) :
    s.conn = none ∧ s.IsAttended := by
  obtain ⟨group, _, hmem⟩ := List.mem_flatMap.1 hs
  obtain ⟨index, _, rfl⟩ := List.mem_map.1 hmem
  refine ⟨rfl, ?_⟩
  intro n hn
  cases hn

theorem initial (config : PoolConfig) (groups : List Group) (shared : Shared) :
    Opened config { config, slots := slotsOf groups, shared } := by
  have hempty : (slotsOf groups).filterMap Slot.conn = [] := by
    rw [List.filterMap_eq_nil_iff]
    intro s hs
    exact (slot_initial hs).1
  refine ⟨⟨⟨?_, fun {n} hn => ?_, fun {n c} hc => ?_, fun {s} hs => (slot_initial hs).2⟩,
    fun htorn => ?_⟩, rfl, rfl, rfl, rfl⟩
  · rw [installed, hempty]
    exact .nil
  · rw [installed, hempty] at hn
    cases hn
  · cases hc
  · cases htorn

theorem install (h : Opened config p) (hs : p.slots[i]? = some s) (hfree : s.conn = none)
    (now : Nat) (c : Connection) : Opened config (p.install now i s c).1 := by
  obtain ⟨q, hages, _, _, hinstall⟩ := p.install_parts now i s c
  have hlater := h.attended.install h.isOpen hs hfree now c
  rw [hinstall] at hlater ⊢
  refine ⟨hlater, ?_, ?_, ?_, ?_⟩
  · exact hages.config.trans h.config_eq
  · exact hages.isClosed.trans h.isOpen
  · exact hages.isTornDown.trans h.notTornDown
  · exact hages.watches.trans h.unwatched

/-- The first attempts are settled slot by slot, and those to come have nothing yet. -/
theorem settleFrom (h : Opened config p) (now position : Nat)
    (hfree : ∀ j t, position ≤ j → p.slots[j]? = some t → t.conn = none)
    (results : List (Except ClientError Connection)) :
    Opened config (Pool.settleFrom now position p results).1 := by
  induction results generalizing p position with
  | nil => exact h
  | cons result rest ih =>
      unfold Pool.settleFrom
      split
      · exact h
      · rename_i s hs
        cases result with
        | error e =>
            exact ih h (position + 1) fun j t hj ht => hfree j t (Nat.le_of_succ_le hj) ht
        | ok c =>
            refine ih (h.install hs (hfree position s (Nat.le_refl _) hs) now c) (position + 1) ?_
            intro j t hj ht
            obtain ⟨_, hslots⟩ := p.frame_install now position s c
            have ht' : (p.install now position s c).1.slots[j]? = some t := ht
            rw [hslots, List.getElem?_set_ne (by omega)] at ht'
            exact hfree j t (Nat.le_of_succ_le hj) ht'

theorem of_start {groups : List Group} {shared : Shared}
    {results : List (Except ClientError Connection)} {events : List PoolEvent}
    (hstart : start config groups shared now results = (.ok p, events)) : Opened config p := by
  have hsettled := (initial config groups shared).settleFrom now 0
    (fun j t _ ht => (slot_initial (List.mem_of_getElem? ht)).1) results
  rw [settleFrom_of_start hstart] at hsettled
  exact hsettled

end Opened

end Pool

end TupleWire

/-
  What the clock does to an endpoint that nobody closes.

  After every step an endpoint carries out what is due.  Where nobody waits for a
  close this is the end of requests alone: of those that wait just those are left
  whose time is not up (`complete_settled`), all else stays, and the effects are
  timeouts.
-/
import Mathlib.Data.List.Induction
import TupleWire.Connection.Endpoint
import TupleWire.Proofs.Map.Sorted

set_option autoImplicit false

namespace TupleWire

/-- Whether an effect is that the time of a request is up. -/
def Effect.IsLapse (effect : Effect) : Prop :=
  ∃ n timeout after, effect = .resolved n (.error (.timeout n timeout)) after

theorem Effect.IsLapse.isClosing {effect : Effect} (h : effect.IsLapse) :
    effect.isClosing = false := by
  obtain ⟨_, _, _, rfl⟩ := h
  rfl

/-- When the time of a request is up it waits no more, if it did. -/
theorem Connection.expire_eq (c : Connection) (now : Nat) (n : UInt64) :
    (c.expire now n).1 = { c with pending := c.pending.erase n } ∧
      ∀ effect ∈ (c.expire now n).2, effect.IsLapse := by
  rw [expire]
  cases hwaits : c.pending.get? n with
  | none =>
      have hsame : c.pending.erase n = c.pending := by
        refine SortedMap.ext_get? fun m => ?_
        rw [SortedMap.get?_erase]
        split
        · rename_i hn
          rw [← hn, hwaits]
        · rfl
      exact ⟨by rw [hsame], fun _ h => absurd h List.not_mem_nil⟩
  | some w =>
      refine ⟨rfl, fun effect h => ?_⟩
      rw [List.mem_singleton.1 h]
      exact ⟨_, _, _, rfl⟩

/-- An endpoint with other requests that wait and other things shared. -/
def Endpoint.holding (e : Endpoint) (pending : SortedMap UInt64 Waiter) (shared : Shared) :
    Endpoint :=
  { e with conn := { e.conn with pending }, shared }

namespace Endpoint

variable {e : Endpoint}

theorem fst_andThen (first second : Step) (e : Endpoint) :
    (andThen first second e).1 = (second (first e).1).1 := rfl

theorem effects_andThen (first second : Step) (e : Endpoint) :
    (andThen first second e).2.effects =
      (first e).2.effects ++ (second (first e).1).2.effects := rfl

/-! ## Alarms of requests -/

/-- What alarms of requests leave of an endpoint. -/
structure Lapses (e : Endpoint) (alarms : List Alarm) (out : Endpoint × Report) : Prop where
  frame : ∃ pending shared, out.1 = e.holding pending shared
  waits : ∀ n, out.1.conn.pending.get? n =
    if .request n ∈ alarms then none else e.conn.pending.get? n
  effects : ∀ effect ∈ out.2.effects, effect.IsLapse

theorem lapses_skip (e : Endpoint) : Lapses e [] (skip e) where
  frame := ⟨e.conn.pending, e.shared, rfl⟩
  waits _ := (if_neg List.not_mem_nil).symm
  effects _ h := absurd h List.not_mem_nil

/-- An alarm takes its request out, if that still waits. -/
theorem lapses_ring (e : Endpoint) (n : UInt64) : Lapses e [.request n] (ring (.request n) e) := by
  obtain ⟨hconn, hlapses⟩ := e.conn.expire_eq e.now n
  have hopen : (e.conn.expire e.now n).2.any Effect.isClosing = false :=
    List.any_eq_false.2 fun effect h => by rw [(hlapses effect h).isClosing]; exact Bool.false_ne_true
  refine ⟨⟨e.conn.pending.erase n, e.shared.applyAll (e.conn.expire e.now n).2, ?_⟩, ?_, hlapses⟩
  · simp only [ring, lift, hconn, hopen, Bool.or_false]
    rfl
  · intro m
    have hgone : n = m ↔ Alarm.request m ∈ [Alarm.request n] := by
      rw [List.mem_singleton, Alarm.request.injEq, eq_comm]
    show (e.conn.expire e.now n).1.pending.get? m = _
    rw [hconn]
    exact (SortedMap.get?_erase _ _ _).trans (if_congr hgone rfl rfl)

theorem Lapses.andThen {first second : Step} {alarms more : List Alarm}
    (h : Lapses e alarms (first e)) (hsecond : Lapses (first e).1 more (second (first e).1)) :
    Lapses e (alarms ++ more) (andThen first second e) where
  frame := by
    obtain ⟨_, _, hfirst⟩ := h.frame
    obtain ⟨pending, shared, hframe⟩ := hsecond.frame
    refine ⟨pending, shared, ?_⟩
    rw [fst_andThen, hframe, hfirst]
    rfl
  waits n := by
    rw [fst_andThen, hsecond.waits, h.waits]
    by_cases hmore : Alarm.request n ∈ more
    · rw [if_pos hmore, if_pos (List.mem_append_right _ hmore)]
    · simp only [hmore, if_false, List.mem_append, or_false]
  effects := List.forall_mem_append.2 ⟨h.effects, hsecond.effects⟩

theorem sequence_concat (steps : List Step) (last : Step) :
    sequence (steps ++ [last]) = Endpoint.andThen (sequence steps) last :=
  List.foldl_append

theorem lapses_sequence {alarms : List Alarm} (h : ∀ alarm ∈ alarms, ∃ n, alarm = .request n)
    (e : Endpoint) : Lapses e alarms (sequence (alarms.map ring) e) := by
  induction alarms using List.reverseRecOn with
  | nil => exact lapses_skip e
  | append_singleton alarms alarm ih =>
      obtain ⟨hbefore, hlast⟩ := List.forall_mem_append.1 h
      obtain ⟨n, rfl⟩ := hlast alarm List.mem_cons_self
      rw [List.map_append, List.map_singleton, sequence_concat]
      exact (ih hbefore).andThen (lapses_ring _ n)

/-! ## Everything that is due -/

theorem mem_due_iff {alarm : Alarm} : alarm ∈ e.due ↔
    ∃ a ∈ e.conn.pending.entries.map requestAlarm ++ e.closers.map graceAlarm,
      a.1.1 ≤ e.now ∧ a.2 = alarm := by
  simp only [due, List.mem_map, List.mem_mergeSort, List.mem_filter, decide_eq_true_eq, and_assoc]

/-- Where nobody waits for a close only requests have alarms. -/
theorem isRequest_of_mem_due (hclosers : e.closers = []) {alarm : Alarm} (h : alarm ∈ e.due) :
    ∃ n, alarm = .request n := by
  obtain ⟨a, ha, _, rfl⟩ := mem_due_iff.1 h
  rw [hclosers, List.map_nil, List.append_nil] at ha
  obtain ⟨entry, _, rfl⟩ := List.mem_map.1 ha
  exact ⟨entry.1, rfl⟩

/-- The requests that are due are those whose time is up. -/
theorem request_mem_due_iff {n : UInt64} :
    .request n ∈ e.due ↔ ∃ w, e.conn.pending.get? n = some w ∧ w.deadline ≤ e.now := by
  rw [mem_due_iff]
  constructor
  · rintro ⟨a, ha, hdue, hn⟩
    rcases List.mem_append.1 ha with ha | ha
    · obtain ⟨⟨m, w⟩, hentry, rfl⟩ := List.mem_map.1 ha
      cases hn
      exact ⟨w, SortedMap.get?_eq_some_iff.2 hentry, hdue⟩
    · obtain ⟨closer, _, rfl⟩ := List.mem_map.1 ha
      cases hn
  · rintro ⟨w, hw, hdue⟩
    have hentry := SortedMap.get?_eq_some_iff.1 hw
    exact ⟨requestAlarm (n, w), List.mem_append_left _ (List.mem_map_of_mem hentry), hdue, rfl⟩

theorem releaseAll_of_closers_nil (hclosers : e.closers = []) : releaseAll e = skip e := by
  rw [releaseAll, hclosers]
  exact ite_self _

/-- Where nobody waits for a close, just the requests end whose time is up. -/
theorem lapses_settle (hclosers : e.closers = []) : Lapses e e.due (settle e) := by
  have hdue := lapses_sequence (fun _ h => isRequest_of_mem_due hclosers h) e
  have hrest : (sequence (e.due.map ring) e).1.closers = [] := by
    obtain ⟨_, _, hframe⟩ := hdue.frame
    rw [hframe]
    exact hclosers
  have hreleased := lapses_skip (sequence (e.due.map ring) e).1
  rw [← releaseAll_of_closers_nil hrest] at hreleased
  rw [← List.append_nil e.due]
  exact hdue.andThen hreleased

/-! ## Steps and what they make possible -/

/-- An endpoint after a step and everything that it made possible. -/
structure Settled (step out : Endpoint × Report) : Prop where
  frame : ∃ pending shared, out.1 = step.1.holding pending shared
  waits : ∀ n, out.1.conn.pending.get? n =
    (step.1.conn.pending.get? n).filter fun w => decide (step.1.now < w.deadline)
  effects : ∃ lapses, out.2.effects = step.2.effects ++ lapses ∧ ∀ effect ∈ lapses, effect.IsLapse

theorem complete_settled {step : Step} (hclosers : (step e).1.closers = []) :
    Settled (step e) (complete step e) := by
  have hlapses := lapses_settle hclosers
  have hafter : (complete step e).1 =
      { (settle (step e).1).1 with
        shared := (deliver (settle (step e).1).1).1.shared } := rfl
  refine ⟨?_, ?_, (settle (step e).1).2.effects, ?_, hlapses.effects⟩
  · obtain ⟨pending, _, hframe⟩ := hlapses.frame
    refine ⟨pending, (deliver (settle (step e).1).1).1.shared, ?_⟩
    rw [hafter, hframe]
    rfl
  · intro n
    rw [hafter, hlapses.waits]
    simp only [request_mem_due_iff]
    cases (step e).1.conn.pending.get? n with
    | none => rw [Option.filter_none, ite_self]
    | some w =>
        by_cases hdue : w.deadline ≤ (step e).1.now
        · rw [if_pos ⟨w, rfl, hdue⟩, Option.filter_some_neg (by simpa using hdue)]
        · have hwaits : ¬ ∃ w', some w = some w' ∧ w'.deadline ≤ (step e).1.now := by
            rintro ⟨_, hsame, hother⟩
            cases hsame
            exact hdue hother
          rw [if_neg hwaits, Option.filter_some_pos (by simpa using hdue)]
  · have hdelivered (e : Endpoint) : (deliver e).2.effects = [] := rfl
    rw [complete, effects_andThen, effects_andThen, hdelivered, List.append_nil]

end Endpoint

end TupleWire

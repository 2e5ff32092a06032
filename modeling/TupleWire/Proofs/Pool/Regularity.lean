/-
  The order in which a slot tells what happens to it.

  What is told of a slot, with a mark wherever an attempt to connect it begins,
  makes a story.  `Stage` is the protocol of its connection and `Health` that of
  its probes, and `LoneSlot.Keeps` says that a slot by itself keeps to both,
  whatever happens to it.  `Regular` is what follows for a story as a whole.
-/
import TupleWire.Proofs.Pool.Alone

set_option autoImplicit false

namespace TupleWire

/-! ## Stories -/

/-- What is noted of a slot. -/
inductive Mark where
  /-- the pool is started, and the first attempt begins -/
  | dialed
  /-- an attempt of its supervisor begins -/
  | attempt
  | told (event : SlotEvent)
  deriving DecidableEq

namespace Mark

/-- What is told. -/
def told? : Mark → Option SlotEvent
  | told event => some event
  | dialed | attempt => none

/-- Whether it tells that the slot is connected, or no longer connected. -/
def up? : Mark → Option Bool
  | told .connected => some true
  | told .disconnected => some false
  | _ => none

/-- Whether it is about the connection of the slot, and not about its probes. -/
def isOfConnection : Mark → Bool
  | told .invalidated | told .recovered | told .evicted | told .reinstated => false
  | _ => true

end Mark

/-- Whether an attempt to connect is on its way. -/
def Duty.isAttempting : Duty → Bool
  | attempting _ => true
  | watching | resting | stopped => false

/-- What is noted of a step: what is told, and whether an attempt begins. -/
def Mark.noted (before after : Duty) (told : List SlotEvent) : List Mark :=
  told.map .told ++ if !before.isAttempting && after.isAttempting then [.attempt] else []

/-- What is noted of a slot by itself in the course of what happens to it. -/
def LoneSlot.marks (config : PoolConfig) : LoneSlot → List LoneSlot.Occurrence → List Mark
  | _, [] => []
  | l, occurrence :: rest =>
      Mark.noted l.duty (l.step config occurrence).1.duty (l.step config occurrence).2 ++
        marks config (l.step config occurrence).1 rest

namespace LoneSlot

/-- A slot of which nothing was probed, in an open pool. -/
def fresh (group : Group) (index : Nat) (duty : Duty) : LoneSlot :=
  ⟨group, index, duty, .fresh, false, false, false⟩

/-- The story of a slot, given the result of its first attempt and what happens to it from then
on. -/
def story (config : PoolConfig) (group : Group) (index : Nat)
    (first : Except ClientError Connection) (occurrences : List Occurrence) : List Mark :=
  match first with
  | .ok _ => [.dialed, .told .connected] ++ (fresh group index .watching).marks config occurrences
  | .error cause =>
      [.dialed, .told (.connectFailed cause), .attempt] ++
        (fresh group index (.attempting none)).marks config occurrences

end LoneSlot

/-! ## The protocol of a connection -/

/-- How far a slot has come with its connection. -/
inductive Stage where
  | unborn
  /-- the first attempt is on its way -/
  | dialing
  /-- the first attempt has failed -/
  | missed
  /-- an attempt of the supervisor is on its way -/
  | trying
  | up
  /-- the connection is lost, or the supervisor's attempt has failed -/
  | down
  /-- it was told when the next attempt comes -/
  | waiting
  deriving DecidableEq

namespace Stage

/-- The stage after something was noted, if it may be noted at a stage. -/
def next? (delay : Duration) : Stage → Mark → Option Stage
  | .unborn, .dialed => some .dialing
  | .dialing, .told .connected => some .up
  | .dialing, .told (.connectFailed _) => some .missed
  | .missed, .attempt => some .trying
  | .trying, .told .connected => some .up
  | .trying, .told (.connectFailed _) => some .down
  | .up, .told .disconnected => some .down
  | .down, .told (.reconnecting told) => if told = delay then some .waiting else none
  | .waiting, .attempt => some .trying
  | stage, mark => if mark.isOfConnection then none else some stage

/-- The stage after a story, if it keeps to the protocol. -/
def after? (delay : Duration) (stage : Stage) (marks : List Mark) : Option Stage :=
  marks.foldlM (next? delay) stage

def isUp : Stage → Bool
  | up => true
  | unborn | dialing | missed | trying | down | waiting => false

/-- Whether the first attempt is over. -/
def isBorn : Stage → Bool
  | unborn | dialing => false
  | missed | trying | up | down | waiting => true

/-- Whether what is done to keep a slot connected is what a stage asks for. -/
def Suits : Stage → Duty → Prop
  | .up, .watching | .trying, .attempting _ | .waiting, .resting => True
  | _, .stopped => True
  | _, _ => False

theorem Suits.eq_trying {stage : Stage} {handshake : Option Handshake}
    (h : stage.Suits (.attempting handshake)) : stage = .trying := by
  cases stage with
  | trying => rfl
  | unborn | dialing | missed | up | down | waiting => exact h.elim

theorem Suits.eq_up {stage : Stage} (h : stage.Suits .watching) : stage = .up := by
  cases stage with
  | up => rfl
  | unborn | dialing | missed | trying | down | waiting => exact h.elim

theorem Suits.eq_waiting {stage : Stage} (h : stage.Suits .resting) : stage = .waiting := by
  cases stage with
  | waiting => rfl
  | unborn | dialing | missed | trying | up | down => exact h.elim

theorem after?_append (delay : Duration) (stage : Stage) (first second : List Mark) :
    after? delay stage (first ++ second) =
      (after? delay stage first).bind fun next => after? delay next second := by
  rw [after?, List.foldlM_append]
  rfl

/-- What probes come to is nothing to the connection. -/
theorem next?_of_probe (delay : Duration) (stage : Stage) {mark : Mark}
    (hmark : mark.isOfConnection = false) : next? delay stage mark = some stage := by
  cases mark with
  | dialed | attempt => cases hmark
  | told event =>
      cases event with
      | connected | disconnected | connectFailed cause | reconnecting delay => cases hmark
      | invalidated | recovered | evicted | reinstated => cases stage <;> rfl

theorem after?_of_probes {delay : Duration} {stage : Stage} {told : List SlotEvent}
    (htold : ∀ event ∈ told, (Mark.told event).isOfConnection = false) :
    after? delay stage (told.map .told) = some stage := by
  induction told with
  | nil => rfl
  | cons event rest ih =>
      rw [List.map_cons, after?, List.foldlM_cons,
        next?_of_probe delay stage (htold event List.mem_cons_self)]
      exact ih fun later hlater => htold later (List.mem_cons_of_mem _ hlater)

end Stage

/-! ## The protocol of probes -/

/-- What the verdicts on a slot have come to. -/
inductive Health where
  | healthy
  | invalidated
  | evicted
  deriving DecidableEq

namespace Health

/-- The health after something was told, if it may be told. -/
def next? : Health → SlotEvent → Option Health
  | .healthy, .invalidated => some .invalidated
  | .healthy, .evicted => some .evicted
  | .invalidated, .recovered => some .healthy
  | .invalidated, .evicted => some .evicted
  | .evicted, .reinstated => some .healthy
  | _, .invalidated | _, .recovered | _, .evicted | _, .reinstated => none
  | health, .connected | health, .disconnected | health, .connectFailed _
  | health, .reconnecting _ => some health

/-- The health after all that was told, if it keeps to the protocol. -/
def after? (health : Health) (told : List SlotEvent) : Option Health :=
  told.foldlM next? health

theorem after?_append (health : Health) (first second : List SlotEvent) :
    after? health (first ++ second) =
      (after? health first).bind fun next => after? next second := by
  rw [after?, List.foldlM_append]
  rfl

/-- What becomes of the connection is nothing to the probes. -/
theorem after?_of_connection {health : Health} {told : List SlotEvent}
    (htold : ∀ event ∈ told, (Mark.told event).isOfConnection = true) :
    after? health told = some health := by
  induction told with
  | nil => rfl
  | cons event rest ih =>
      have hnext : next? health event = some health := by
        have hevent := htold event List.mem_cons_self
        cases event with
        | invalidated | recovered | evicted | reinstated => cases hevent
        | connected | disconnected | connectFailed cause | reconnecting delay =>
            cases health <;> rfl
      rw [after?, List.foldlM_cons, hnext]
      exact ih fun later hlater => htold later (List.mem_cons_of_mem _ hlater)

end Health

/-! ## A slot keeps to both -/

namespace LoneSlot

/-- The health of a slot, as its marks have it. -/
def health (l : LoneSlot) : Health :=
  if l.isEvicted then .evicted else if l.isQuarantined then .invalidated else .healthy

/-- What was noted of a slot keeps to both protocols and has led to where the slot is. -/
structure Keeps (delay : Duration) (l : LoneSlot) (marks : List Mark) : Prop where
  stage : ∃ stage, Stage.after? delay .unborn marks = some stage ∧ stage.Suits l.duty
  health : Health.after? .healthy (marks.filterMap Mark.told?) = some l.health
  evicted : l.isEvicted = l.history.isDead
  quarantined : l.isQuarantined = l.history.isBad

variable {delay : Duration} {config : PoolConfig} {l : LoneSlot} {marks : List Mark}

theorem filterMap_noted (before after : Duty) (told : List SlotEvent) :
    (Mark.noted before after told).filterMap Mark.told? = told := by
  have htold : (told.map Mark.told).filterMap Mark.told? = told := by
    rw [List.filterMap_map]
    simp [Function.comp_def, Mark.told?]
  rw [Mark.noted, List.filterMap_append, htold]
  split
  · simp [Mark.told?]
  · simp

namespace Keeps

/-- A slot that turns to something else tells what its stage allows. -/
theorem turnTo (h : Keeps delay l marks) {duty : Duty} {told : List SlotEvent}
    (hstage : ∀ stage : Stage, stage.Suits l.duty → ∃ next,
      Stage.after? delay stage (Mark.noted l.duty duty told) = some next ∧ next.Suits duty)
    (hconnection : ∀ event ∈ told, (Mark.told event).isOfConnection = true) :
    Keeps delay (l.turnTo duty) (marks ++ Mark.noted l.duty duty told) where
  stage := by
    obtain ⟨stage, hreached, hsuits⟩ := h.stage
    obtain ⟨next, hnext, hnextSuits⟩ := hstage stage hsuits
    refine ⟨next, ?_, hnextSuits⟩
    rw [Stage.after?_append, hreached]
    exact hnext
  health := by
    rw [List.filterMap_append, filterMap_noted, Health.after?_append, h.health]
    exact Health.after?_of_connection hconnection
  evicted := h.evicted
  quarantined := h.quarantined

/-- Nothing happens. -/
theorem still (h : Keeps delay l marks) :
    Keeps delay l (marks ++ Mark.noted l.duty l.duty []) := by
  have hnothing : Mark.noted l.duty l.duty [] = [] := by simp [Mark.noted]
  rw [hnothing, List.append_nil]
  exact h

/-- A supervisor stops without a word. -/
theorem stop (h : Keeps delay l marks) :
    Keeps delay (l.turnTo .stopped) (marks ++ Mark.noted l.duty .stopped []) := by
  refine h.turnTo ?_ (by simp [Mark.isOfConnection])
  intro stage _
  exact ⟨stage, by simp [Mark.noted, Duty.isAttempting, Stage.after?], by cases stage <;> trivial⟩

/-- An attempt that fails is told, and in an open pool when the next one comes. -/
theorem fail (h : Keeps delay l marks) {handshake : Option Handshake}
    (hduty : l.duty = .attempting handshake) (cause : ClientError) :
    Keeps delay (l.fail delay cause).1
      (marks ++ Mark.noted l.duty (l.fail delay cause).1.duty (l.fail delay cause).2) := by
  by_cases hclosed : l.isClosed = true
  · have hfail : l.fail delay cause = (l.turnTo .stopped, [.connectFailed cause]) := by
      rw [LoneSlot.fail, rest, if_pos hclosed]
    rw [hfail]
    refine h.turnTo ?_ (by simp [Mark.isOfConnection])
    intro stage hsuits
    rw [hduty] at hsuits ⊢
    obtain rfl := hsuits.eq_trying
    exact ⟨.down, rfl, trivial⟩
  · have hfail : l.fail delay cause =
        (l.turnTo .resting, [.connectFailed cause, .reconnecting delay]) := by
      rw [LoneSlot.fail, rest, if_neg hclosed]
    rw [hfail]
    refine h.turnTo ?_ (by simp [Mark.isOfConnection])
    intro stage hsuits
    rw [hduty] at hsuits ⊢
    obtain rfl := hsuits.eq_trying
    refine ⟨.waiting, ?_, trivial⟩
    simp [Mark.noted, Duty.isAttempting, Stage.after?, Stage.next?]

/-- A handshake goes on, ends, or connects the slot. -/
theorem proceed (h : Keeps delay l marks) {handshake : Option Handshake}
    (hduty : l.duty = .attempting handshake) (progress : HandshakeProgress) :
    Keeps delay (l.proceed delay progress).1
      (marks ++ Mark.noted l.duty (l.proceed delay progress).1.duty
        (l.proceed delay progress).2) := by
  cases progress with
  | going next =>
      have hproceed : l.proceed delay (.going next) = (l.turnTo (.attempting (some next)), []) :=
        rfl
      rw [hproceed]
      refine h.turnTo ?_ (by simp [Mark.isOfConnection])
      intro stage hsuits
      rw [hduty] at hsuits ⊢
      obtain rfl := hsuits.eq_trying
      exact ⟨.trying, rfl, trivial⟩
  | failed c cause => exact h.fail hduty cause
  | ready c =>
      by_cases hclosed : l.isClosed = true
      · have hproceed : l.proceed delay (.ready c) = (l.turnTo .stopped, []) := if_pos hclosed
        rw [hproceed]
        exact h.stop
      · have hproceed : l.proceed delay (.ready c) = (l.turnTo .watching, [.connected]) :=
          if_neg hclosed
        rw [hproceed]
        refine h.turnTo ?_ (by simp [Mark.isOfConnection])
        intro stage hsuits
        rw [hduty] at hsuits ⊢
        obtain rfl := hsuits.eq_trying
        exact ⟨.up, rfl, trivial⟩

/-- A loss is told in an open pool, and when the next attempt comes. -/
theorem notice (h : Keeps delay l marks) (hduty : l.duty = .watching) :
    Keeps delay (l.notice delay).1
      (marks ++ Mark.noted l.duty (l.notice delay).1.duty (l.notice delay).2) := by
  by_cases hclosed : l.isClosed = true
  · have hnotice : l.notice delay = (l.turnTo .stopped, []) := if_pos hclosed
    rw [hnotice]
    exact h.stop
  · have hnotice : l.notice delay =
        (l.turnTo .resting, [.disconnected, .reconnecting delay]) := by
      rw [LoneSlot.notice, if_neg hclosed, rest, if_neg hclosed]
    rw [hnotice]
    refine h.turnTo ?_ (by simp [Mark.isOfConnection])
    intro stage hsuits
    rw [hduty] at hsuits ⊢
    obtain rfl := hsuits.eq_up
    refine ⟨.waiting, ?_, trivial⟩
    simp [Mark.noted, Duty.isAttempting, Stage.after?, Stage.next?]

/-- Verdicts say nothing of the connection. -/
theorem judge (h : Keeps delay l marks) {l' : LoneSlot} {told : List SlotEvent}
    (hduty : l'.duty = l.duty) (htold : ∀ event ∈ told, (Mark.told event).isOfConnection = false)
    (hhealth : Health.after? l.health told = some l'.health)
    (hevicted : l'.isEvicted = l'.history.isDead)
    (hquarantined : l'.isQuarantined = l'.history.isBad) :
    Keeps delay l' (marks ++ Mark.noted l.duty l'.duty told) where
  stage := by
    obtain ⟨stage, hreached, hsuits⟩ := h.stage
    refine ⟨stage, ?_, hduty ▸ hsuits⟩
    have hnoted : Mark.noted l.duty l'.duty told = told.map .told := by
      rw [hduty]
      simp [Mark.noted]
    have hsame : Stage.after? delay stage (told.map .told) = some stage :=
      Stage.after?_of_probes htold
    rw [hnoted, Stage.after?_append, hreached]
    exact hsame
  health := by
    rw [List.filterMap_append, filterMap_noted, Health.after?_append, h.health]
    exact hhealth
  evicted := hevicted
  quarantined := hquarantined

/-- A probe is judged, and its verdict comes when it may come. -/
theorem probed (h : Keeps delay l marks) (rules : ProbeRules) (valid : Bool) :
    Keeps delay (l.probed rules valid).1
      (marks ++ Mark.noted l.duty (l.probed rules valid).1.duty (l.probed rules valid).2) := by
  have hexplains := ProbeHistory.record_explains rules l.history valid
  have hlater := ProbeHistory.isBad_of_explains hexplains
  have hevicted := h.evicted
  have hquarantined := h.quarantined
  unfold LoneSlot.probed
  generalize l.history.record rules valid = judged at hexplains hlater ⊢
  obtain ⟨verdict, after⟩ := judged
  dsimp only at hexplains hlater ⊢
  cases verdict with
  | unchanged =>
      obtain ⟨_, hdead⟩ := hexplains
      have hnothing : ∀ event ∈ ([] : List SlotEvent), (Mark.told event).isOfConnection = false :=
        by simp
      exact h.judge rfl hnothing rfl (hevicted.trans hdead.symm) (hquarantined.trans hlater.symm)
  | invalidated =>
      obtain ⟨hgood, _, hdead⟩ := hexplains
      have hfree : l.isQuarantined = false := hquarantined.trans hgood
      have halive : l.isEvicted = false :=
        hevicted.trans (ProbeHistory.isDead_of_isBad hgood)
      simp only [applyVerdict, hfree, Bool.false_eq_true, if_false]
      refine h.judge rfl (by simp [Mark.isOfConnection]) ?_ (halive.trans hdead.symm) hlater.symm
      simp [LoneSlot.health, halive, hfree, Health.after?, Health.next?]
  | recovered =>
      obtain ⟨hmarked, hdead, hgood⟩ := hexplains
      have hbarred : l.isQuarantined = true := by
        rw [hquarantined, ProbeHistory.isBad, hmarked]
        rfl
      have halive : l.isEvicted = false := hevicted.trans hdead
      simp only [applyVerdict, hbarred, halive, Bool.not_true, Bool.or_self, Bool.false_eq_true,
        if_false]
      refine h.judge rfl (by simp [Mark.isOfConnection]) ?_
        (ProbeHistory.isDead_of_isBad hgood).symm hgood.symm
      simp [LoneSlot.health, halive, hbarred, Health.after?, Health.next?]
  | dead =>
      obtain ⟨hdead, _, hgone⟩ := hexplains
      have halive : l.isEvicted = false := hevicted.trans hdead
      simp only [applyVerdict, halive, Bool.false_eq_true, if_false]
      refine h.judge rfl (by simp [Mark.isOfConnection]) ?_ hgone.symm hlater.symm
      cases hbarred : l.isQuarantined with
      | true => simp [LoneSlot.health, halive, hbarred, Health.after?, Health.next?]
      | false => simp [LoneSlot.health, halive, hbarred, Health.after?, Health.next?]
  | reinstated =>
      obtain ⟨hdead, hgood⟩ := hexplains
      have hgone : l.isEvicted = true := hevicted.trans hdead
      simp only [applyVerdict, hgone, Bool.not_true, Bool.false_eq_true, if_false]
      refine h.judge rfl (by simp [Mark.isOfConnection]) ?_
        (ProbeHistory.isDead_of_isBad hgood).symm hgood.symm
      simp [LoneSlot.health, hgone, Health.after?, Health.next?]

/-- Whatever happens to a slot, what is noted of it keeps to both protocols. -/
theorem step (h : Keeps config.reconnectDelay l marks) (occurrence : Occurrence) :
    Keeps config.reconnectDelay (l.step config occurrence).1
      (marks ++ Mark.noted l.duty (l.step config occurrence).1.duty
        (l.step config occurrence).2) := by
  cases occurrence with
  | greeted now requestTimeout raw =>
      simp only [LoneSlot.step]
      split
      · rename_i hduty
        cases Connection.greeted l.group l.index requestTimeout now raw with
        | error cause => exact h.fail hduty cause
        | ok progress => exact h.proceed hduty progress.1
      · exact h.still
  | handshake now event =>
      simp only [LoneSlot.step]
      split
      · rename_i hduty
        exact h.proceed hduty _
      · exact h.still
  | unreachable cause =>
      simp only [LoneSlot.step]
      split
      · rename_i hduty
        exact h.fail hduty cause
      · exact h.still
  | lost =>
      simp only [LoneSlot.step]
      split
      · rename_i hduty
        exact h.notice hduty
      · exact h.still
  | dismissed =>
      have hdismissed : Keeps config.reconnectDelay
          (if l.isClosed then (l.turnTo .stopped, ([] : List SlotEvent)) else (l, [])).1
          (marks ++ Mark.noted l.duty
            (if l.isClosed then (l.turnTo .stopped, ([] : List SlotEvent)) else (l, [])).1.duty
            (if l.isClosed then (l.turnTo .stopped, ([] : List SlotEvent)) else (l, [])).2) := by
        split
        · exact h.stop
        · exact h.still
      simp only [LoneSlot.step]
      split
      · exact hdismissed
      · exact hdismissed
      · exact h.still
  | rested =>
      simp only [LoneSlot.step]
      split
      · rename_i hduty
        split
        · exact h.stop
        · refine h.turnTo ?_ (by simp)
          intro stage hsuits
          rw [hduty] at hsuits ⊢
          obtain rfl := hsuits.eq_waiting
          exact ⟨.trying, rfl, trivial⟩
      · exact h.still
  | probed valid => exact h.probed config.rules valid
  | closed =>
      have hnothing : ∀ event ∈ ([] : List SlotEvent), (Mark.told event).isOfConnection = false :=
        by simp
      have hsame : Health.after? l.health [] = some l.health := rfl
      exact h.judge rfl hnothing hsame h.evicted h.quarantined
  | tornDown => exact h.stop

theorem run (h : Keeps config.reconnectDelay l marks) (occurrences : List Occurrence) :
    Keeps config.reconnectDelay (l.run config occurrences).1
      (marks ++ l.marks config occurrences) := by
  induction occurrences generalizing l marks with
  | nil =>
      rw [LoneSlot.marks, List.append_nil]
      exact h
  | cons occurrence rest ih =>
      rw [LoneSlot.marks, ← List.append_assoc]
      exact ih (h.step occurrence)

/-- A slot whose first attempt succeeded. -/
theorem of_connected (delay : Duration) (group : Group) (index : Nat) :
    Keeps delay (fresh group index .watching) [.dialed, .told .connected] :=
  ⟨⟨.up, rfl, trivial⟩, rfl, rfl, rfl⟩

/-- A slot whose first attempt failed makes the next one at once. -/
theorem of_failed (delay : Duration) (group : Group) (index : Nat) (cause : ClientError) :
    Keeps delay (fresh group index (.attempting none))
      [.dialed, .told (.connectFailed cause), .attempt] :=
  ⟨⟨.trying, rfl, trivial⟩, rfl, rfl, rfl⟩

end Keeps

/-- The story of a slot keeps to both protocols. -/
theorem story_keeps (config : PoolConfig) (group : Group) (index : Nat)
    (first : Except ClientError Connection) (occurrences : List Occurrence) :
    ∃ l, Keeps config.reconnectDelay l (story config group index first occurrences) := by
  cases first with
  | ok c => exact ⟨_, (Keeps.of_connected _ group index).run occurrences⟩
  | error cause => exact ⟨_, (Keeps.of_failed _ group index cause).run occurrences⟩

end LoneSlot

/-! ## What follows for a story -/

/-- Whether answers alternate, beginning with a given one. -/
def Alternating : Bool → List Bool → Prop
  | _, [] => True
  | first, answer :: rest => answer = first ∧ Alternating (!first) rest

/-- What is to be expected of the story of a slot. -/
structure Regular (delay : Duration) (story : List Mark) : Prop where
  /-- it is connected and disconnected by turns, and connected first -/
  alternates : Alternating true (story.filterMap Mark.up?)
  /-- between a loss, or a failed attempt that was not the first, and the next attempt it is told
  once when that comes, and nothing else of the connection -/
  spaced {before between after : List Mark} {event : SlotEvent} :
    story = before ++ .told event :: between ++ .attempt :: after → .attempt ∉ between →
    (event = .disconnected ∨ (∃ cause, event = .connectFailed cause) ∧ .attempt ∈ before) →
    between.filter Mark.isOfConnection = [.told (.reconnecting delay)]
  /-- the verdicts of its probes come in order, and none of them twice -/
  health : (Health.after? .healthy (story.filterMap Mark.told?)).isSome

namespace Stage

variable {delay : Duration} {stage next : Stage} {mark : Mark} {marks : List Mark}

theorem after?_cons (delay : Duration) (stage : Stage) (mark : Mark) (marks : List Mark) :
    after? delay stage (mark :: marks) = (next? delay stage mark).bind (after? delay · marks) :=
  rfl

/-- The stage in the midst of a story. -/
theorem after?_eq_some_of_append {first second : List Mark}
    (h : after? delay stage (first ++ second) = some next) :
    ∃ middle, after? delay stage first = some middle ∧ after? delay middle second = some next := by
  rw [after?_append] at h
  exact Option.bind_eq_some_iff.1 h

theorem after?_eq_some_of_cons (h : after? delay stage (mark :: marks) = some next) :
    ∃ middle, next? delay stage mark = some middle ∧ after? delay middle marks = some next := by
  rw [after?_cons] at h
  exact Option.bind_eq_some_iff.1 h

/-- What marks that are about the connection lead to. -/
inductive Leads (delay : Duration) : Stage → Mark → Stage → Prop
  | dial : Leads delay .unborn .dialed .dialing
  | begin : Leads delay .dialing (.told .connected) .up
  | miss (cause : ClientError) : Leads delay .dialing (.told (.connectFailed cause)) .missed
  | retry : Leads delay .missed .attempt .trying
  | connect : Leads delay .trying (.told .connected) .up
  | fail (cause : ClientError) : Leads delay .trying (.told (.connectFailed cause)) .down
  | lose : Leads delay .up (.told .disconnected) .down
  | rest : Leads delay .down (.told (.reconnecting delay)) .waiting
  | attempt : Leads delay .waiting .attempt .trying

theorem leads_of_next? (h : next? delay stage mark = some next) :
    mark.isOfConnection = false ∧ next = stage ∨
      mark.isOfConnection = true ∧ Leads delay stage mark next := by
  unfold next? at h
  split at h
  case h_8 told =>
    split at h
    · rename_i htold
      obtain rfl := htold
      cases h
      exact .inr ⟨rfl, .rest⟩
    · cases h
  case h_10 =>
    split at h
    · cases h
    · rename_i hmark
      cases h
      exact .inl ⟨by simpa using hmark, rfl⟩
  all_goals
    cases h
    exact .inr ⟨rfl, by constructor⟩

/-- A mark that says that the slot is connected, or no longer connected, says what changes. -/
theorem isUp_of_next? (h : next? delay stage mark = some next) :
    mark.up? = none ∧ next.isUp = stage.isUp ∨
      mark.up? = some (!stage.isUp) ∧ next.isUp = !stage.isUp := by
  rcases leads_of_next? h with ⟨hprobe, rfl⟩ | ⟨_, hleads⟩
  · left
    refine ⟨?_, rfl⟩
    cases mark with
    | dialed | attempt => rfl
    | told event =>
        cases event with
        | connected | disconnected => cases hprobe
        | connectFailed _ | reconnecting _ | invalidated | recovered | evicted | reinstated => rfl
  · cases hleads with
    | begin | connect | lose => exact .inr ⟨rfl, rfl⟩
    | dial | miss _ | retry | fail _ | rest | attempt => exact .inl ⟨rfl, rfl⟩

theorem alternating_of_after? (h : after? delay stage marks = some next) :
    Alternating (!stage.isUp) (marks.filterMap Mark.up?) := by
  induction marks generalizing stage with
  | nil => trivial
  | cons mark rest ih =>
      obtain ⟨middle, hmiddle, hrest⟩ := after?_eq_some_of_cons h
      have hlater := ih hrest
      rw [List.filterMap_cons]
      rcases isUp_of_next? hmiddle with ⟨hsilent, hsame⟩ | ⟨htells, hturned⟩
      · rw [hsilent]
        rw [hsame] at hlater
        exact hlater
      · rw [htells]
        rw [hturned] at hlater
        exact ⟨rfl, hlater⟩

/-- Once an attempt of the supervisor has begun the first one is over. -/
theorem isBorn_of_after? (h : after? delay stage marks = some next)
    (hborn : stage.isBorn = true ∨ .attempt ∈ marks) : next.isBorn = true := by
  induction marks generalizing stage with
  | nil =>
      cases h
      rcases hborn with hborn | hmem
      · exact hborn
      · cases hmem
  | cons mark rest ih =>
      obtain ⟨middle, hmiddle, hrest⟩ := after?_eq_some_of_cons h
      refine ih hrest ?_
      rcases hborn with hborn | hmem
      · left
        rcases leads_of_next? hmiddle with ⟨_, rfl⟩ | ⟨_, hleads⟩
        · exact hborn
        · cases hleads with
          | dial | begin | miss _ => cases hborn
          | retry | connect | fail _ | lose | rest | attempt => rfl
      · rcases List.mem_cons.1 hmem with hmark | hlater
        · left
          subst hmark
          rcases leads_of_next? hmiddle with ⟨hprobe, _⟩ | ⟨_, hleads⟩
          · cases hprobe
          · cases hleads with
            | retry | attempt => rfl
        · exact .inr hlater

/-- Before an attempt that was announced nothing else is told of the connection. -/
theorem quiet_of_waiting {between after : List Mark}
    (h : after? delay .waiting (between ++ .attempt :: after) = some next)
    (hnone : .attempt ∉ between) : between.filter Mark.isOfConnection = [] := by
  induction between with
  | nil => rfl
  | cons mark rest ih =>
      obtain ⟨middle, hmiddle, hrest⟩ := after?_eq_some_of_cons h
      have hother : Mark.attempt ≠ mark := List.ne_of_not_mem_cons hnone
      have hlater : Mark.attempt ∉ rest := List.not_mem_of_not_mem_cons hnone
      rcases leads_of_next? hmiddle with ⟨hprobe, rfl⟩ | ⟨_, hleads⟩
      · rw [List.filter_cons_of_neg (by simp [hprobe])]
        exact ih hrest hlater
      · cases hleads with
        | attempt => exact absurd rfl hother

/-- A slot that is down tells once when the next attempt comes. -/
theorem announced_of_down {between after : List Mark}
    (h : after? delay .down (between ++ .attempt :: after) = some next)
    (hnone : .attempt ∉ between) :
    between.filter Mark.isOfConnection = [.told (.reconnecting delay)] := by
  induction between with
  | nil =>
      obtain ⟨middle, hmiddle, _⟩ := after?_eq_some_of_cons h
      rcases leads_of_next? hmiddle with ⟨hprobe, _⟩ | ⟨_, hleads⟩
      · cases hprobe
      · cases hleads
  | cons mark rest ih =>
      obtain ⟨middle, hmiddle, hrest⟩ := after?_eq_some_of_cons h
      have hlater : Mark.attempt ∉ rest := List.not_mem_of_not_mem_cons hnone
      rcases leads_of_next? hmiddle with ⟨hprobe, rfl⟩ | ⟨_, hleads⟩
      · rw [List.filter_cons_of_neg (by simp [hprobe])]
        exact ih hrest hlater
      · cases hleads with
        | rest =>
            rw [List.filter_cons_of_pos rfl, quiet_of_waiting hrest hlater]

/-- A loss, and a failed attempt that was not the first, leave the slot down. -/
theorem down_of_next? {event : SlotEvent} (h : next? delay stage (.told event) = some next)
    (hevent : event = .disconnected ∨
      (∃ cause, event = .connectFailed cause) ∧ stage.isBorn = true) : next = .down := by
  rcases leads_of_next? h with ⟨hprobe, _⟩ | ⟨_, hleads⟩
  · rcases hevent with rfl | ⟨⟨cause, rfl⟩, _⟩
    · cases hprobe
    · cases hprobe
  · cases hleads with
    | lose | fail _ => rfl
    | miss _ =>
        rcases hevent with hevent | ⟨_, hborn⟩
        · cases hevent
        · cases hborn
    | begin | connect | rest =>
        rcases hevent with hevent | ⟨⟨cause, hevent⟩, _⟩
        · cases hevent
        · cases hevent

/-- A story that keeps to the protocol announces its attempts. -/
theorem spaced_of_after? {before between after : List Mark} {event : SlotEvent}
    (h : after? delay .unborn (before ++ .told event :: between ++ .attempt :: after) = some next)
    (hnone : .attempt ∉ between)
    (hevent : event = .disconnected ∨
      (∃ cause, event = .connectFailed cause) ∧ .attempt ∈ before) :
    between.filter Mark.isOfConnection = [.told (.reconnecting delay)] := by
  rw [List.append_assoc, List.cons_append] at h
  obtain ⟨stage, hbefore, hfrom⟩ := after?_eq_some_of_append h
  obtain ⟨middle, hmiddle, hrest⟩ := after?_eq_some_of_cons hfrom
  have hdown : middle = .down := by
    refine down_of_next? hmiddle ?_
    rcases hevent with hlost | ⟨hfailed, hmem⟩
    · exact .inl hlost
    · exact .inr ⟨hfailed, isBorn_of_after? hbefore (.inr hmem)⟩
  subst hdown
  exact announced_of_down hrest hnone

end Stage

/-- What keeps to both protocols is regular. -/
theorem LoneSlot.Keeps.regular {delay : Duration} {l : LoneSlot} {story : List Mark}
    (h : l.Keeps delay story) : Regular delay story where
  alternates := by
    obtain ⟨stage, hreached, _⟩ := h.stage
    exact Stage.alternating_of_after? hreached
  spaced hsplit hnone hevent := by
    obtain ⟨stage, hreached, _⟩ := h.stage
    rw [hsplit] at hreached
    exact Stage.spaced_of_after? hreached hnone hevent
  health := by
    rw [h.health]
    rfl

end TupleWire

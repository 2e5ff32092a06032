/-
  The books of connections that share one registry.

  The registry and the pending tables are kept apart from each other.  A turn of a
  connection moves a request from one side to the other in both of them
  (`Turn.balance`); what the registry then shows follows from the effects alone
  (`Metrics.Shows.applyAll`).  `Fleet.Kept` puts the two together for any number of
  connections.
-/
import TupleWire.Connection.Fleet
import TupleWire.Pool.Basic
import TupleWire.Proofs.Connection.Queue
import TupleWire.Proofs.Metrics.Tally

set_option autoImplicit false

namespace TupleWire

/-! ## What effects record -/

namespace Effect

/-- Whether an effect is the begin of a request. -/
def isStart : Effect → Bool
  | .started _ => true
  | _ => false

/-- How a request ended, where an effect is the end of one. -/
def outcome? : Effect → Option RequestOutcome
  | .resolved _ result _ => some (.ofResult result)
  | _ => none

/-- How many requests begin. -/
def beginnings (effects : List Effect) : Nat := effects.countP isStart

/-- How requests end, in order. -/
def outcomesOf (effects : List Effect) : List RequestOutcome := effects.filterMap outcome?

variable {effects more : List Effect}

@[simp] theorem beginnings_append :
    beginnings (effects ++ more) = beginnings effects + beginnings more :=
  List.countP_append

@[simp] theorem outcomesOf_append :
    outcomesOf (effects ++ more) = outcomesOf effects ++ outcomesOf more :=
  List.filterMap_append

theorem beginnings_of_silent (h : ∀ e ∈ effects, e.request? = none) : beginnings effects = 0 := by
  rw [beginnings, List.countP_eq_zero]
  intro e he hstart
  have hnone := h e he
  cases e with
  | started => cases hnone
  | queued | resolved | ignored | notified | observed | closed => cases hstart

theorem outcomesOf_of_silent (h : ∀ e ∈ effects, e.request? = none) : outcomesOf effects = [] := by
  rw [outcomesOf, List.filterMap_eq_nil_iff]
  intro e he
  have hnone := h e he
  cases e with
  | resolved => cases hnone
  | started | queued | ignored | notified | observed | closed => rfl

theorem beginnings_failures (now : Nat) (entries : List (UInt64 × Waiter)) :
    beginnings (entries.map (failure now)) = 0 := by
  rw [beginnings, List.countP_map, List.countP_eq_zero]
  intro entry _ hstart
  cases hstart

/-- Closing ends as many requests as wait. -/
theorem outcomesOf_failures (now : Nat) (entries : List (UInt64 × Waiter)) :
    outcomesOf (entries.map (failure now)) = List.replicate entries.length .closed := by
  induction entries with
  | nil => rfl
  | cons entry rest ih => exact congrArg (List.cons RequestOutcome.closed) ih

end Effect

open Effect

/-- What a registry shows after effects were recorded in it. -/
theorem Metrics.Shows.applyAll {s : Shared} {begun : Nat} {outcomes : List RequestOutcome}
    (h : s.metrics.Shows begun outcomes) (effects : List Effect) :
    (s.applyAll effects).metrics.Shows (begun + beginnings effects)
      (outcomes ++ outcomesOf effects) := by
  induction effects generalizing s begun outcomes with
  | nil =>
      rw [outcomesOf, List.filterMap_nil, List.append_nil]
      exact h
  | cons e rest ih =>
      have hsplit : e :: rest = [e] ++ rest := rfl
      rw [hsplit, beginnings_append, outcomesOf_append, ← Nat.add_assoc, ← List.append_assoc]
      refine ih (s := s.apply e) ?_
      cases e with
      | started sync =>
          rw [outcomesOf, List.filterMap_cons_none rfl, List.filterMap_nil, List.append_nil]
          exact h.start
      | resolved sync result after => exact h.finish _ _
      | ignored payload =>
          rw [outcomesOf, List.filterMap_cons_none rfl, List.filterMap_nil, List.append_nil]
          exact h.ignore
      | queued | notified | observed | closed =>
          rw [outcomesOf, List.filterMap_cons_none rfl, List.filterMap_nil, List.append_nil]
          exact h

namespace Connection

variable {c c' : Connection} {now : Nat} {action : Action} {result : Except ClientError Receipt}
  {effects : List Effect}

/-- A turn begins one request at most, and what waited before it or begins in it ends in it or
waits after it. -/
theorem Turn.balance (h : Turn c now action (result, c', effects))
    (hfresh : result = .ok (.sync c.nextSync) → c.pending.get? c.nextSync = none) :
    beginnings effects ≤ 1 ∧
      c.pendingCount + beginnings effects = (outcomesOf effects).length + c'.pendingCount := by
  cases h with
  | quiet hpending _ _ hsilent _ =>
      rw [beginnings_of_silent hsilent, outcomesOf_of_silent hsilent, pendingCount, pendingCount,
        hpending]
      exact ⟨Nat.zero_le 1, (Nat.zero_add _).symm⟩
  | begun w packet _ =>
      have hsize : (c.pending.insert c.nextSync w).size = c.pending.size + 1 :=
        SortedMap.size_insert (hfresh rfl)
      refine ⟨Nat.le_refl 1, ?_⟩
      rw [pendingCount, pendingCount, hsize]
      exact (Nat.zero_add _).symm
  | @answered p w _ _ hw =>
      have hsize : (c.pending.erase p.packet.header.sync).size + 1 = c.pending.size :=
        SortedMap.size_erase hw
      have hsilent := observation_silent p
      rw [beginnings_append, outcomesOf_append, beginnings_of_silent hsilent,
        outcomesOf_of_silent hsilent, pendingCount, pendingCount, ← hsize]
      exact ⟨Nat.zero_le 1, Nat.add_comm _ 1⟩
  | @expired sync w hw =>
      have hsize : (c.pending.erase sync).size + 1 = c.pending.size := SortedMap.size_erase hw
      rw [pendingCount, pendingCount, ← hsize]
      exact ⟨Nat.zero_le 1, Nat.add_comm _ 1⟩
  | ended _ =>
      have hbegun : beginnings (c.pending.entries.map (failure now) ++ [.closed]) = 0 := by
        rw [beginnings_append, beginnings_failures]
        rfl
      have hended : (outcomesOf (c.pending.entries.map (failure now) ++ [.closed])).length =
          c.pendingCount := by
        rw [outcomesOf_append, outcomesOf_failures, List.length_append, List.length_replicate]
        rfl
      refine ⟨hbegun ▸ Nat.zero_le 1, ?_⟩
      exact congr (congrArg HAdd.hAdd hended.symm) hbegun

/-- Nothing but a frame that comes in answers a request. -/
theorem Turn.unanswered (h : Turn c now action (result, c', effects))
    (haction : ∀ p, action ≠ .receive p) : ∀ o ∈ outcomesOf effects, o.isAnswer = false := by
  intro o ho
  obtain ⟨e, he, houtcome⟩ := List.mem_filterMap.1 ho
  cases e with
  | resolved n outcome after =>
      cases houtcome
      obtain ⟨w, _, hcause⟩ := h.caused he
      cases outcome with
      | ok response =>
          obtain ⟨p, hp, _⟩ := hcause
          exact absurd hp (haction p)
      | error error =>
          cases error with
          | server error =>
              obtain ⟨p, hp, _⟩ := hcause
              exact absurd hp (haction p)
          | timeout | connectionClosed => rfl
          | _ => exact absurd hcause id
  | started | queued | ignored | notified | observed | closed => cases houtcome

/-! ## What the server answers -/

/-- What a frame answers to a request that waits, if it is a response to one. -/
def answer? (c : Connection) (p : ReceivedPacket) : Option (Except ClientError Response) :=
  if p.packet.header.isEvent || p.packet.header.isChunk then none
  else (c.pending.get? p.packet.header.sync).map fun w => resultOf p.packet w.format

/-- What the server says counts as an answer, also if it is an error. -/
theorem isAnswer_resultOf (p : Packet) (format : ResponseFormat) :
    (RequestOutcome.ofResult (resultOf p format)).isAnswer = true := by
  unfold resultOf
  split
  · rfl
  · rfl

theorem outcomesOf_observation (p : ReceivedPacket) : outcomesOf (observation p) = [] :=
  outcomesOf_of_silent (observation_silent p)

theorem outcomesOf_asking (c : Connection) (key : String) : outcomesOf (c.asking key) = [] := by
  unfold asking
  split
  · rfl
  · rfl

/-- A frame that answers a request ends it so, and no other frame ends any. -/
theorem Received.outcomesOf_eq {p : ReceivedPacket} {fate : Fate}
    {outcome : Connection × List Effect} (h : Received c now p fate outcome) :
    outcomesOf outcome.2 = ((c.answer? p).map RequestOutcome.ofResult).toList := by
  cases h with
  | @notified key callback hevent _ _ _ =>
      have hnobody : c.answer? p = none := by
        rw [answer?, hevent, Bool.true_or, if_pos rfl]
      rw [outcomesOf_append, outcomesOf_observation, hnobody, List.nil_append, outcomesOf,
        List.filterMap_cons_none rfl]
      exact c.outcomesOf_asking key
  | @answered w hnoEvent hnoChunk hw =>
      rw [outcomesOf_append, outcomesOf_observation, answer?, hnoEvent, hnoChunk, hw]
      rfl
  | ignored _ hunawaited =>
      have hnobody : c.answer? p = none := by
        unfold answer?
        split
        · rfl
        · rename_i hresponse
          obtain ⟨hevent, hchunk⟩ := Bool.or_eq_false_iff.1 (Bool.eq_false_iff.2 hresponse)
          cases hw : c.pending.get? p.packet.header.sync with
          | none => rfl
          | some w => exact absurd ⟨hevent, hchunk, w, hw⟩ hunawaited
      rw [outcomesOf_append, outcomesOf_observation, hnobody]
      rfl

theorem isAnswer_of_answer? {p : ReceivedPacket} {answer : Except ClientError Response}
    (h : c.answer? p = some answer) : (RequestOutcome.ofResult answer).isAnswer = true := by
  unfold answer? at h
  split at h
  · cases h
  · obtain ⟨w, _, rfl⟩ := Option.map_eq_some_iff.1 h
    exact isAnswer_resultOf _ _

end Connection

namespace Moment

open Connection

/-- What the server answers to a request that waits. -/
def answer? (m : Moment) : Option (Except ClientError Response) :=
  match m.action with
  | .receive p => m.conn.answer? p
  | _ => none

/-- Whether the server answers a request. -/
def isAnswer (m : Moment) : Bool := m.answer?.isSome

/-- Whether the server answers a request with anything but an error. -/
def isOk (m : Moment) : Bool := m.answer?.any Except.isOk

/-- Of the requests that end, those are answered that the server answers. -/
theorem filter_outcomesOf (m : Moment) :
    (outcomesOf m.effects).filter RequestOutcome.isAnswer =
      (m.answer?.map RequestOutcome.ofResult).toList := by
  obtain ⟨conn, now, action⟩ := m
  by_cases hreceive : ∃ p, action = .receive p
  · obtain ⟨p, rfl⟩ := hreceive
    obtain ⟨fate, hreceived⟩ := receive_received conn now p
    have houtcomes : outcomesOf (Moment.effects ⟨conn, now, .receive p⟩) =
        ((conn.answer? p).map RequestOutcome.ofResult).toList := hreceived.outcomesOf_eq
    rw [houtcomes]
    refine List.filter_eq_self.2 fun o ho => ?_
    obtain ⟨answer, hanswer, rfl⟩ := Option.map_eq_some_iff.1 (Option.mem_toList.1 ho)
    exact isAnswer_of_answer? hanswer
  · have haction : ∀ p, action ≠ .receive p := fun p heq => hreceive ⟨p, heq⟩
    have hanswer : Moment.answer? ⟨conn, now, action⟩ = none := by
      cases action with
      | receive p => exact absurd rfl (haction p)
      | _ => rfl
    rw [hanswer]
    exact List.filter_eq_nil_iff.2 fun o ho =>
      Bool.eq_false_iff.1 ((act_turn conn now action).unanswered haction o ho)

/-- What is counted of the outcomes, if only answers count, is counted of the answers. -/
theorem countP_outcomesOf {counts : RequestOutcome → Bool}
    (hcounts : ∀ o, counts o = true → o.isAnswer = true) (moments : List Moment) :
    (outcomesOf (moments.flatMap effects)).countP counts =
      moments.countP fun m => m.answer?.any fun answer => counts (.ofResult answer) := by
  induction moments with
  | nil => rfl
  | cons m rest ih =>
      have hnow : (outcomesOf m.effects).countP counts =
          (m.answer?.map RequestOutcome.ofResult).toList.countP counts := by
        rw [← filter_outcomesOf, List.countP_filter]
        refine List.countP_congr fun o _ => ?_
        simpa using hcounts o
      rw [List.flatMap_cons, outcomesOf_append, List.countP_append, ih, hnow, List.countP_cons,
        Nat.add_comm]
      cases m.answer? with
      | none => rfl
      | some answer => simp [List.countP_cons]

/-- The requests that ended well are those that the server answered well. -/
theorem count_ok (moments : List Moment) :
    (outcomesOf (moments.flatMap effects)).count .ok = moments.countP isOk := by
  rw [List.count_eq_countP, countP_outcomesOf fun o ho => by rw [beq_iff_eq.1 ho]; rfl]
  refine List.countP_congr fun m _ => ?_
  rw [isOk]
  cases m.answer? with
  | none => rfl
  | some answer =>
      cases answer with
      | ok response => simp [RequestOutcome.ofResult, Except.isOk, Except.toBool]
      | error error =>
          cases error <;> simp [RequestOutcome.ofResult, Except.isOk, Except.toBool]

/-- The requests that ended with an answer are those that the server answered. -/
theorem countP_isAnswer (moments : List Moment) :
    (outcomesOf (moments.flatMap effects)).countP RequestOutcome.isAnswer =
      moments.countP isAnswer := by
  rw [countP_outcomesOf fun o ho => ho]
  refine List.countP_congr fun m _ => ?_
  have hall := m.filter_outcomesOf
  rw [isAnswer]
  cases hanswer : m.answer? with
  | none => rfl
  | some answer =>
      rw [hanswer] at hall
      have hmem : RequestOutcome.ofResult answer ∈
          (outcomesOf m.effects).filter RequestOutcome.isAnswer := by
        rw [hall]
        exact List.mem_singleton_self _
      simpa using (List.mem_filter.1 hmem).2

end Moment

/-! ## Fleets -/

namespace Fleet

variable {f : Fleet}

/-- A pool treats its connections as a fleet. -/
theorem step_pool (p : Pool) (now conn : Nat) (action : Action) :
    (⟨p.conns, p.shared⟩ : Fleet).step (.act conn now action) =
      ⟨(p.act now conn action).2.conns, (p.act now conn action).2.shared⟩ := by
  rw [step, Pool.act]
  cases p.conns[conn]? with
  | none => rfl
  | some c => rfl

/-- The number of requests that wait, on all connections together. -/
def pendingCount (f : Fleet) : Nat := (f.conns.map Connection.pendingCount).sum

theorem pendingCount_set {conns : List Connection} {n : Nat} {c c' : Connection} {shared : Shared}
    (h : conns[n]? = some c) :
    pendingCount ⟨conns.set n c', shared⟩ + c.pendingCount =
      pendingCount ⟨conns, shared⟩ + c'.pendingCount := by
  simp only [pendingCount]
  induction conns generalizing n with
  | nil => cases h
  | cons d rest ih =>
      cases n with
      | zero =>
          cases h
          simp only [List.set_cons_zero, List.map_cons, List.sum_cons]
          omega
      | succ n =>
          have hrest := ih h
          simp only [List.set_cons_succ, List.map_cons, List.sum_cons]
          omega

/-- The books of a fleet to which so many things have happened. -/
structure Kept (f : Fleet) (past : List Effect) (n : Nat) : Prop where
  /-- the books of each connection agree, and it has not given out more numbers than that -/
  each : ∀ c ∈ f.conns, c.issued ≤ n ∧ ∃ own, Connection.Balanced c own
  few : beginnings past ≤ n
  /-- a request that has begun has ended or waits -/
  balance : beginnings past = (outcomesOf past).length + f.pendingCount
  shown : f.shared.metrics.Shows (beginnings past) (outcomesOf past)

namespace Kept

variable {past : List Effect} {n : Nat}

/-- What no connection takes part in. -/
theorem other (h : Kept f past n) : Kept f past (n + 1) where
  each c hc := ⟨Nat.le_succ_of_le (h.each c hc).1, (h.each c hc).2⟩
  few := Nat.le_succ_of_le h.few
  balance := h.balance
  shown := h.shown

theorem spawn (h : Kept f past n) (tag : String) (index : Nat) (salt : Bytes)
    (requestTimeout : Duration) :
    Kept (f.step (.spawn tag index salt requestTimeout)) past (n + 1) where
  each c hc := by
    rcases List.mem_append.1 hc with hc | hc
    · exact h.other.each c hc
    · rw [List.mem_singleton.1 hc]
      exact ⟨Nat.zero_le _, [], Connection.balanced_spawned tag index salt requestTimeout⟩
  few := h.other.few
  balance := by
    have hempty : (f.step (.spawn tag index salt requestTimeout)).pendingCount =
        f.pendingCount := by
      simp only [step, pendingCount, List.map_append, List.sum_append]
      rfl
    rw [hempty]
    exact h.balance
  shown := h.shown

theorem act (h : Kept f past n) (hfew : n + 1 < UInt64.size) {k : Nat} {c : Connection}
    (hk : f.conns[k]? = some c) (now : Nat) (action : Action) :
    let m : Moment := ⟨c, now, action⟩
    Kept ⟨f.conns.set k m.after, f.shared.applyAll m.effects⟩ (past ++ m.effects) (n + 1) := by
  intro m
  obtain ⟨hissued, own, hbooks⟩ := h.each c (List.mem_of_getElem? hk)
  have hafter : m.after.issued ≤ n + 1 :=
    Nat.le_trans (Connection.issued_act_le c now action) (Nat.succ_le_succ hissued)
  have hfresh : c.pending.get? c.nextSync = none := hbooks.get?_nextSync (by omega)
  obtain ⟨hone, hbalance⟩ : beginnings m.effects ≤ 1 ∧ c.pendingCount + beginnings m.effects =
      (outcomesOf m.effects).length + m.after.pendingCount :=
    (c.act_turn now action).balance fun _ => hfresh
  refine ⟨?_, ?_, ?_, ?_⟩
  · intro d hd
    rcases List.mem_or_eq_of_mem_set hd with hd | rfl
    · exact h.other.each d hd
    · exact ⟨hafter, own ++ m.effects, hbooks.act now action (Nat.lt_of_le_of_lt hafter hfew)⟩
  · rw [beginnings_append]
    exact Nat.add_le_add h.few hone
  · have hbefore := h.balance
    have hset : pendingCount ⟨f.conns.set k m.after, f.shared.applyAll m.effects⟩ +
        c.pendingCount = f.pendingCount + m.after.pendingCount := pendingCount_set hk
    rw [beginnings_append, outcomesOf_append, List.length_append]
    omega
  · rw [beginnings_append, outcomesOf_append]
    exact h.shown.applyAll m.effects

/-- Whatever happens keeps the books as long as there are numbers left. -/
theorem step (h : Kept f past n) (hfew : n + 1 < UInt64.size) (event : Event) :
    Kept (f.step event) (past ++ (f.moment? event).toList.flatMap Moment.effects) (n + 1) := by
  cases event with
  | spawn tag index salt requestTimeout =>
      rw [moment?, Option.toList_none, List.flatMap_nil, List.append_nil]
      exact h.spawn tag index salt requestTimeout
  | act k now action =>
      rw [moment?, Fleet.step]
      cases hk : f.conns[k]? with
      | none =>
          rw [Option.map_none, Option.toList_none, List.flatMap_nil, List.append_nil]
          exact h.other
      | some c =>
          rw [Option.map_some, Option.toList_some, List.flatMap_singleton]
          exact h.act hfew hk now action

theorem run (h : Kept f past n) (events : List Event) (hfew : n + events.length < UInt64.size) :
    Kept (f.run events) (past ++ (f.history events).flatMap Moment.effects)
      (n + events.length) := by
  induction events generalizing f past n with
  | nil =>
      rw [history, List.flatMap_nil, List.append_nil]
      exact h
  | cons event rest ih =>
      rw [List.length_cons] at hfew
      have hrest := ih (h.step (by omega) event) (by omega)
      rw [List.append_assoc, ← List.flatMap_append] at hrest
      rw [List.length_cons, Nat.add_comm rest.length 1, ← Nat.add_assoc]
      exact hrest

end Kept

/-- A fleet without connections, and a registry in which nothing was recorded. -/
def fresh (bounds : List UInt64) (isAttached : Bool) (tracker : SchemaTracker)
    (queue : WatchQueue) : Fleet :=
  ⟨[], ⟨{ Metrics.withBounds bounds with isAttached }, tracker, queue⟩⟩

/-- Whatever happens to connections that share a registry in which nothing else is recorded, to
each of them and in any order, and as long as there are numbers left to count it: the gauge of
requests that wait shows as many as wait on all of them; a request that has begun waits, was
answered well, has failed or took too long; and there are as many latencies as the server has
answered requests, one in a bucket for each. -/
theorem registry_agrees (bounds : List UInt64) (isAttached : Bool) (tracker : SchemaTracker)
    (queue : WatchQueue) (events : List Event) (f : Fleet)
    (hrun : (fresh bounds isAttached tracker queue).run events = f)
    (hfew : events.length < UInt64.size) :
    let m := f.shared.metrics
    let moments := (fresh bounds isAttached tracker queue).history events
    m.inflight.toNat = f.pendingCount ∧
    m.requests.toNat =
      m.inflight.toNat + moments.countP Moment.isOk + m.errors.toNat + m.timeouts.toNat ∧
    m.latency.samples.toNat = moments.countP Moment.isAnswer ∧
    m.latency.samples.toNat = (m.latency.buckets.map UInt64.toNat).sum := by
  intro m moments
  have hstart : Kept (fresh bounds isAttached tracker queue) [] 0 :=
    ⟨(fun c hc => nomatch hc), Nat.le_refl 0, rfl, Metrics.shows_withBounds bounds isAttached⟩
  have hkept : Kept f (moments.flatMap Moment.effects) events.length := by
    have h := hstart.run events (by omega)
    rwa [List.nil_append, Nat.zero_add, hrun] at h
  obtain ⟨hinflight, hrequests, herrors, htimeouts, hsamples, hbuckets⟩ :=
    hkept.shown.toNat (Nat.lt_of_le_of_lt hkept.few hfew) hkept.balance
  refine ⟨hinflight, ?_, ?_, ?_⟩
  · rw [hrequests, hinflight, herrors, htimeouts, hkept.balance, RequestOutcome.length_eq_counts,
      Moment.count_ok]
    omega
  · rw [hsamples, Moment.countP_isAnswer]
  · rw [hsamples, ← hbuckets, Histogram.total]

/-- The response to a request of a number, without any data. -/
def bareResponse (code : UInt32) (sync : UInt64) : ReceivedPacket :=
  Connection.response code sync Body.empty

/-- Five requests on two connections: one goes well, one fails, one takes too long, one is cut off
and one still waits.  Of the frames that come in, one is for none of them. -/
def fiveRequests : List Event :=
  [.spawn "default" 0 [] (.ofMillis 1000), .spawn "default" 1 [] (.ofMillis 1000),
    .act 0 0 (.request .ping {}), .act 1 1 (.request .ping {}), .act 0 2 (.request .ping {}),
    .act 1 3 (.request .ping {}), .act 1 4 (.request .ping {}),
    .act 0 5 (.receive (bareResponse Status.ok 1)),
    .act 1 6 (.receive (bareResponse (Status.errorBit ||| ServerCode.noSuchSpace) 2)),
    .act 0 7 (.receive (bareResponse Status.ok 1)), .act 1 8 (.expire 1), .act 0 9 .shutdown]

/-- The two connections after that. -/
def afterFive : Fleet := (fresh [100, 5000] true {} (.ofCapacity 16)).run fiveRequests

theorem registry_agrees_after_five :
    fiveRequests.length < UInt64.size ∧ afterFive.shared.metrics.summary = [5, 2, 1, 1, 1] ∧
      afterFive.shared.metrics.latency.buckets = [0, 2, 0] ∧
      afterFive.shared.metrics.latency.samples.toNat =
        ((fresh [100, 5000] true {} (.ofCapacity 16)).history fiveRequests).countP
          Moment.isAnswer ∧
      afterFive.shared.metrics.inflight.toNat = afterFive.pendingCount := by
  have hfew : fiveRequests.length < UInt64.size := by decide
  obtain ⟨hinflight, -, hsamples, -⟩ :=
    registry_agrees [100, 5000] true {} (.ofCapacity 16) fiveRequests afterFive rfl hfew
  refine ⟨hfew, ?_, ?_, hsamples, hinflight⟩
  · decide +kernel
  · decide +kernel

end Fleet

end TupleWire

/-
  Which probes are valid.

  On a connection that listens, a probe is valid if and only if it can be sent at
  all and the answer comes within the time that the probe has
  (`isProbeValid_iff`).  A probe that has no time is up as soon as it is sent, so
  there is no answer with which it is valid.
-/
import TupleWire.Heartbeat.Probe
import TupleWire.Proofs.Connection.Alarms
import TupleWire.Proofs.Instance.Transparency
import TupleWire.Proofs.Packet.Chunks

set_option autoImplicit false

namespace TupleWire

/-! ## Frames -/

namespace Frame

variable {p : Packet} {frame : Bytes} {limit : Nat}

/-- A frame is drained as the one packet that it holds. -/
theorem drain_frame (hframe : p.frame = .ok frame) (hread : Packet.ofPayload p.payload = .ok p)
    (hlimit : p.payload.length ≤ limit) : drain limit frame = ⟨[⟨p.payload, p⟩], none, []⟩ := by
  have hnext := Packet.next_frame hframe hlimit []
  rw [List.append_nil, hread] at hnext
  rw [drain_of_removed_ok hnext, drain_of_wait rfl]

/-- A frame that is longer than what is accepted is refused. -/
theorem drain_frame_of_long (hframe : p.frame = .ok frame) (hlimit : limit < p.payload.length) :
    drain limit frame = ⟨[], some (.frameTooLarge p.payload.length limit), frame⟩ := by
  obtain ⟨hfits, rfl⟩ := Packet.frame_eq_ok_iff.1 hframe
  have hform : p.payload.length < LengthForm.four.capacity := Nat.lt_succ_of_le hfits
  have hlength := readLength_write hform p.payload
  apply drain_of_refused
  rw [LengthForm.write, LengthForm.width] at hlength
  rw [next, hlength]
  exact if_pos hlimit

end Frame

/-! ## Sending -/

/-- Whether a mode names what it asks for, if it has to. -/
def ProbeMode.isNamed : ProbeMode → Bool
  | ping => true
  | call function => !function.isEmpty
  | eval expression => !expression.isEmpty

theorem ProbeMode.check_request (mode : ProbeMode) (negotiated : Negotiated) :
    mode.request.check negotiated = .ok () ↔ mode.isNamed = true := by
  cases mode with
  | ping => exact iff_of_true rfl rfl
  | call text | eval text =>
      simp only [request, Request.check, isNamed]
      cases text.isEmpty with
      | true => simp
      | false => simp

namespace HeartbeatConfig

/-- The packet of a probe. -/
def probePacket (h : HeartbeatConfig) (c : Connection) : Packet :=
  ⟨c.nextHeader h.mode.request.kind none none, h.mode.request.body c.salt⟩

/-- The milliseconds that a probe waits for its answer. -/
def patience (h : HeartbeatConfig) : Nat :=
  min (h.probeTimeoutMs.getD h.pingIntervalMs).toNat Waiter.longestWait

theorem ticks_probeTimeout (h : HeartbeatConfig) :
    h.probeTimeout.ticks = (h.probeTimeoutMs.getD h.pingIntervalMs).toNat := by
  simp only [probeTimeout, millis, Duration.ofMillis, Duration.ticks]
  omega

/-- A probe as it waits. -/
def probeWaiter (h : HeartbeatConfig) (now : Nat) : Waiter := ⟨.data, h.probeTimeout, now⟩

theorem deadline_probeWaiter (h : HeartbeatConfig) (now : Nat) :
    (h.probeWaiter now).deadline = Clock.after now h.patience := by
  rw [Waiter.deadline, patience, ← ticks_probeTimeout]
  rfl

end HeartbeatConfig

/-- A probe that can be sent waits under the next number. -/
theorem Connection.request_probe {c : Connection} {h : HeartbeatConfig} (now : Nat)
    (hopen : c.isClosed = false) (hnamed : h.mode.isNamed = true)
    (hfits : (h.probePacket c).payload.length ≤ Packet.payloadLimit) :
    c.request now h.mode.request h.probeOptions =
      (.ok c.nextSync,
        { c.advance with pending := c.pending.insert c.nextSync (h.probeWaiter now) },
        [.started c.nextSync, .queued (h.probePacket c)]) := by
  have hframe := Packet.frame_eq_ok_iff.2 ⟨hfits, rfl⟩
  rw [HeartbeatConfig.probePacket] at hframe
  rw [request, (h.mode.check_request c.negotiated).2 hnamed]
  simp only [send, hopen, HeartbeatConfig.probeOptions, hframe]
  rfl

/-- A probe that asks for nothing or is too long is not sent. -/
theorem Connection.request_probe_eq_error {c : Connection} {h : HeartbeatConfig} (now : Nat)
    (hunsent : ¬ (h.mode.isNamed = true ∧
      (h.probePacket c).payload.length ≤ Packet.payloadLimit)) :
    ∃ e, (c.request now h.mode.request h.probeOptions).1 = .error e := by
  rw [request]
  cases hcheck : h.mode.request.check c.negotiated with
  | error refusal => exact ⟨_, rfl⟩
  | ok _ =>
      dsimp only
      rw [send]
      split
      · exact ⟨_, rfl⟩
      · cases hframe : (h.probePacket c).frame with
        | error fault =>
            rw [HeartbeatConfig.probePacket] at hframe
            simp only [HeartbeatConfig.probeOptions, hframe]
            exact ⟨_, rfl⟩
        | ok frame =>
            have hnamed := (h.mode.check_request c.negotiated).1 hcheck
            exact absurd ⟨hnamed, (Packet.frame_eq_ok_iff.1 hframe).1⟩ hunsent

/-- An answer that nobody waits for goes to nobody. -/
theorem Connection.receive_answer_of_none {c : Connection} {sync : UInt64}
    (h : c.pending.get? sync = none) (now : Nat) (payload : Bytes) (version : UInt64) (a : Answer) :
    (c.receive now ⟨payload, Instance.answerPacket version sync a⟩).2 =
      [.observed version, .ignored payload] := by
  have hwaiting : c.pending.get? (Instance.answerPacket version sync a).header.sync = none := by
    rw [Instance.answerPacket_sync]
    exact h
  rw [receive, route, Instance.isEvent_answerPacket, Instance.isChunk_answerPacket,
    receiveResponse, Instance.answerPacket_schemaVersion]
  simp only [Bool.false_eq_true, if_false]
  rw [hwaiting]
  rfl

namespace Endpoint

/-! ## Listening -/

/-- An endpoint with an open connection on which nothing is amiss: it reads what comes in, nothing
is left of a frame, nobody waits for a close, and its clock is far from its end. -/
structure Listens (e : Endpoint) : Prop where
  isOpen : e.conn.isClosed = false
  closers : e.closers = []
  hears : e.isDeaf = false
  lasts : e.hasEnded = false
  inbound : e.inbound = []
  clock : e.now + Waiter.longestWait ≤ Clock.last

/-- The part of it that stays while requests end and time passes. -/
structure Hears (e : Endpoint) (limit : Nat) : Prop where
  closers : e.closers = []
  hears : e.isDeaf = false
  lasts : e.hasEnded = false
  inbound : e.inbound = []
  limit : e.limit = limit

variable {e : Endpoint} {limit : Nat}

theorem Hears.holding (h : Hears e limit) (pending : SortedMap UInt64 Waiter) (shared : Shared) :
    Hears (e.holding pending shared) limit :=
  ⟨h.closers, h.hears, h.lasts, h.inbound, h.limit⟩

/-- An endpoint that hears, with its time and with how long a request still waits. -/
structure Awaits (e : Endpoint) (limit now : Nat) (n : UInt64) (waiter : Option Waiter) : Prop where
  hears : Hears e limit
  now : e.now = now
  waits : e.conn.pending.get? n = waiter

variable {now : Nat} {n : UInt64} {waiter : Option Waiter}

/-- After a step a request waits if its time is not up. -/
theorem Awaits.complete {step : Step} (h : Awaits (step e).1 limit now n waiter) :
    Awaits (complete step e).1 limit now n (waiter.filter fun w => decide (now < w.deadline)) := by
  obtain ⟨⟨pending, shared, hframe⟩, hwaits, _⟩ := complete_settled h.hears.closers
  refine ⟨?_, ?_, ?_⟩
  · rw [hframe]
    exact h.hears.holding pending shared
  · rw [hframe]
    exact h.now
  · rw [hwaits, h.waits, h.now]

theorem Awaits.advance (h : Awaits e limit now n waiter) (ms : Nat) :
    Awaits (advance ms e).1 limit (Clock.after now ms) n
      (waiter.filter fun w => decide (Clock.after now ms < w.deadline)) := by
  have hpassed : Awaits { e with now := Clock.after e.now ms } limit (Clock.after now ms) n waiter :=
    ⟨⟨h.hears.closers, h.hears.hears, h.hears.lasts, h.hears.inbound, h.hears.limit⟩,
      congrArg (Clock.after · ms) h.now, h.waits⟩
  exact hpassed.complete

/-- A probe that can be sent waits, if it has any time. -/
theorem Listens.probe (he : Listens e) {h : HeartbeatConfig} (hnamed : h.mode.isNamed = true)
    (hfits : (h.probePacket e.conn).payload.length ≤ Packet.payloadLimit) :
    (e.probe h).1 = .ok (.sync e.conn.nextSync) ∧
      Awaits (e.probe h).2.1 e.limit e.now e.conn.nextSync
        ((some (h.probeWaiter e.now)).filter fun w => decide (e.now < w.deadline)) := by
  have hsent : e.conn.act e.now (.request h.mode.request h.probeOptions) =
      (.ok (.sync e.conn.nextSync),
        { e.conn.advance with
          pending := e.conn.pending.insert e.conn.nextSync (h.probeWaiter e.now) },
        [.started e.conn.nextSync, .queued (h.probePacket e.conn)]) := by
    rw [Connection.act, Connection.request_probe e.now he.isOpen hnamed hfits]
    rfl
  have hasked : Awaits
      (lift (fun c => (c.act e.now (.request h.mode.request h.probeOptions)).2) e).1
      e.limit e.now e.conn.nextSync (some (h.probeWaiter e.now)) := by
    rw [lift, hsent]
    exact ⟨⟨he.closers, he.hears, (Bool.or_false _).trans he.lasts, he.inbound, rfl⟩, rfl,
      (SortedMap.get?_insert _ _ _ _).trans (if_pos rfl)⟩
  have hprobe : e.probe h = (.ok (.sync e.conn.nextSync),
      complete (lift fun c => (c.act e.now (.request h.mode.request h.probeOptions)).2) e) := by
    rw [Endpoint.probe, act, hsent]
  constructor
  · rw [hprobe]
  · rw [hprobe]
    exact hasked.complete

/-! ## Answering -/

theorem isAnswerTo_of_isLapse {effect : Effect} (h : effect.IsLapse) (n : UInt64) :
    effect.isAnswerTo n = false := by
  obtain ⟨_, _, _, rfl⟩ := h
  rfl

/-- What a step makes possible is no answer. -/
theorem any_isAnswerTo_complete {step : Step} (hclosers : (step e).1.closers = []) (n : UInt64) :
    (complete step e).2.effects.any (Effect.isAnswerTo n) =
      (step e).2.effects.any (Effect.isAnswerTo n) := by
  obtain ⟨_, _, lapses, heffects, hlapses⟩ := complete_settled hclosers
  have hnone : lapses.any (Effect.isAnswerTo n) = false :=
    List.any_eq_false.2 fun effect h => by
      rw [isAnswerTo_of_isLapse (hlapses effect h)]
      exact Bool.false_ne_true
  rw [heffects, List.any_append, hnone, Bool.or_false]

/-- Going on with reading shows nothing. -/
theorem readOn_cases (e : Endpoint) : ∃ isDeaf, readOn e = ({ e with isDeaf }, {}) := by
  rw [readOn]
  split
  · exact ⟨e.isDeaf, rfl⟩
  · exact ⟨true, rfl⟩

/-- A packet that comes in alone goes to the connection. -/
theorem Hears.receive_alone (h : Hears e limit) {bytes : Bytes} {p : ReceivedPacket}
    (hdrain : Frame.drain limit bytes = ⟨[p], none, []⟩) :
    (receive bytes e).1.closers = [] ∧
      (receive bytes e).2.effects = (e.conn.receive e.now p).2 := by
  have htaken : Frame.drain e.limit (e.inbound ++ bytes) = ⟨[p], none, []⟩ := by
    rw [h.limit, h.inbound]
    exact hdrain
  have hstep : Endpoint.receive bytes e =
      andThen (sequence [lift fun c => c.receive e.now p]) readOn { e with inbound := [] } := by
    simp only [Endpoint.receive, h.hears, h.lasts, htaken]
    rfl
  rw [hstep, fst_andThen, effects_andThen]
  obtain ⟨isDeaf, hrest⟩ :=
    readOn_cases (sequence [lift fun c => c.receive e.now p] { e with inbound := [] }).1
  rw [hrest]
  exact ⟨h.closers, List.append_nil _⟩

/-- Bytes that are refused are the end of the connection. -/
theorem Hears.receive_of_refused (h : Hears e limit) {bytes : Bytes} {fault : ProtocolError}
    (hdrain : Frame.drain limit bytes = ⟨[], some fault, bytes⟩) :
    (receive bytes e).1.closers = [] ∧
      (receive bytes e).2.effects = (e.conn.shutdown e.now).2 := by
  have htaken : Frame.drain e.limit (e.inbound ++ bytes) = ⟨[], some fault, bytes⟩ := by
    rw [h.limit, h.inbound]
    exact hdrain
  have hstep : Endpoint.receive bytes e =
      andThen (sequence []) stopReading { e with inbound := bytes } := by
    simp only [Endpoint.receive, h.hears, h.lasts, htaken]
    rfl
  rw [hstep]
  exact ⟨h.closers, rfl⟩

/-- Nobody is answered by the end of a connection. -/
theorem any_isAnswerTo_shutdown (c : Connection) (now : Nat) (n : UInt64) :
    (c.shutdown now).2.any (Effect.isAnswerTo n) = false := by
  rw [Connection.shutdown]
  split
  · rfl
  · simp [Effect.isAnswerTo]

/-- An answer is taken for one if the request waits and the frame is not too long, and it is one if
it is no error. -/
theorem Awaits.any_isAnswerTo_feed (h : Awaits e limit now n waiter) {a : Answer}
    (ha : Instance.Deliverable a) (version : UInt64) {frame : Bytes}
    (hframe : (Instance.answerPacket version n a).frame = .ok frame) :
    (feed frame e).2.effects.any (Effect.isAnswerTo n) = true ↔
      a.isOk = true ∧ waiter.isSome = true ∧
        (Instance.answerPacket version n a).payload.length ≤ limit := by
  have hfits := (Packet.frame_eq_ok_iff.1 hframe).1
  have htext := ha.carried version n
  have hread : Packet.ofPayload (Instance.answerPacket version n a).payload =
      .ok (Instance.answerPacket version n a) := by
    have htransmit := ha.transmit version n
    rw [Peer.transmit, hframe, htext] at htransmit
    dsimp only at htransmit
    cases hpayload : Packet.ofPayload (Instance.answerPacket version n a).payload with
    | error fault =>
        rw [hpayload] at htransmit
        cases htransmit
    | ok p =>
        rw [hpayload] at htransmit
        cases htransmit
        rfl
  by_cases hlimit : (Instance.answerPacket version n a).payload.length ≤ limit
  · obtain ⟨hclosers, heffects⟩ := h.hears.receive_alone (Frame.drain_frame hframe hread hlimit)
    rw [feed, any_isAnswerTo_complete hclosers, heffects]
    cases hwaiter : waiter with
    | none =>
        rw [Connection.receive_answer_of_none (h.waits.trans hwaiter)]
        simp [Effect.isAnswerTo]
    | some w =>
        rw [Connection.receive_answer (h.waits.trans hwaiter) e.now,
          Instance.resultOf_answerPacket_eq_received ha.plain]
        cases a with
        | ok body => simp [Instance.received, Effect.isAnswerTo, hlimit, Except.isOk, Except.toBool]
        | error e => simp [Instance.received, Effect.isAnswerTo, Except.isOk, Except.toBool]
  · obtain ⟨hclosers, heffects⟩ :=
      h.hears.receive_of_refused (Frame.drain_frame_of_long hframe (Nat.lt_of_not_le hlimit))
    rw [feed, any_isAnswerTo_complete hclosers, heffects, any_isAnswerTo_shutdown]
    simp [hlimit]

/-! ## Probes -/

/-- A probe waits until its time is over. -/
theorem isSome_probeWaiter_iff {h : HeartbeatConfig} (hclock : now + Waiter.longestWait ≤ Clock.last)
    (ms : Nat) :
    (((some (h.probeWaiter now)).filter fun w => decide (now < w.deadline)).filter fun w =>
      decide (Clock.after now ms < w.deadline)).isSome = true ↔ ms < h.patience := by
  have hpatience : h.patience ≤ Waiter.longestWait := Nat.min_le_right _ _
  have hdeadline : (h.probeWaiter now).deadline = now + h.patience := by
    rw [h.deadline_probeWaiter]
    exact Clock.after_eq (by omega)
  have hlater : Clock.after now ms < now + h.patience ↔ ms < h.patience := by
    rw [Clock.after]
    omega
  have hfiltered (p q : Waiter → Bool) (w : Waiter) :
      (((some w).filter p).filter q).isSome = (p w && q w) := by
    cases hp : p w <;> cases hq : q w <;> simp [Option.filter, hp, hq]
  rw [hfiltered, Bool.and_eq_true, decide_eq_true_iff, decide_eq_true_iff, hdeadline, hlater]
  omega

/-- A probe on a connection that listens is valid if and only if it asks for something and fits a
frame, the answer is no error and no longer than is accepted, and it comes before the time of the
probe is over. -/
theorem isProbeValid_iff (he : Listens e) (h : HeartbeatConfig) (ms : Nat) {a : Answer}
    (ha : Instance.Deliverable a) (version : UInt64) :
    isProbeValid h ms (fun n => Instance.answerPacket version n a) e = true ↔
      (h.mode.isNamed = true ∧ (h.probePacket e.conn).payload.length ≤ Packet.payloadLimit) ∧
        a.isOk = true ∧ ms < h.patience ∧
        (Instance.answerPacket version e.conn.nextSync a).payload.length ≤ e.limit := by
  by_cases hsendable : h.mode.isNamed = true ∧
      (h.probePacket e.conn).payload.length ≤ Packet.payloadLimit
  · obtain ⟨hreceipt, hawaits⟩ := he.probe hsendable.1 hsendable.2
    have hprobe : e.probe h = (.ok (.sync e.conn.nextSync), (e.probe h).2) :=
      Prod.ext hreceipt rfl
    cases hframe : (Instance.answerPacket version e.conn.nextSync a).frame with
    | error fault =>
        have htransmit := ha.transmit version e.conn.nextSync
        rw [Peer.transmit, hframe] at htransmit
        cases htransmit
    | ok frame =>
        have hanswered := (hawaits.advance ms).any_isAnswerTo_feed ha version hframe
        rw [isProbeValid, hprobe]
        simp only [hframe]
        rw [hanswered, isSome_probeWaiter_iff he.clock]
        exact (and_iff_right hsendable).symm
  · obtain ⟨fault, hfault⟩ := Connection.request_probe_eq_error e.now hsendable
    have hreceipt : (e.probe h).1 = .error fault := by
      rw [Endpoint.probe, act, Connection.act, Connection.withReceipt]
      exact congrArg (Except.map Receipt.sync) hfault
    have hprobe : e.probe h = (.error fault, (e.probe h).2) := Prod.ext hreceipt rfl
    rw [isProbeValid, hprobe]
    exact iff_of_false Bool.false_ne_true fun hvalid => hsendable hvalid.1

end Endpoint

end TupleWire

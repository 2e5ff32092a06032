/-
  What becomes of an inbound frame.

  A frame that comes in is handed to a watcher, answers a request that waits, or
  belongs to nobody.  `Received` lists the three with everything that comes with
  them, and `receive_received` says that there are no others.  No other action
  does any of it (`Conduct.unsettled`), so over a run as many frames are settled
  as came in.
-/
import Mathlib.Logic.ExistsUnique
import TupleWire.Proofs.Connection.Settlement
import TupleWire.Proofs.Packet.RoundTrip
import TupleWire.Proofs.Packet.Size

set_option autoImplicit false

namespace TupleWire

/-- Whether an effect settles an inbound frame: a notification that was handed over, a response
that a request got, or a frame of nobody. -/
def Effect.settlesFrame : Effect → Bool
  | .notified _ _ | .ignored _ => true
  | .resolved _ (.ok _) _ | .resolved _ (.error (.server _)) _ => true
  | _ => false

namespace Connection

open Effect

/-! ## Three fates -/

/-- What can become of an inbound frame. -/
inductive Fate where
  /-- it is a notification for somebody who watches -/
  | notified
  /-- it is the response to a request that waits -/
  | answered
  /-- it belongs to nobody -/
  | ignored
  deriving DecidableEq

/-- Whether a frame is a notification of a key that somebody watches. -/
def IsWatched (c : Connection) (p : ReceivedPacket) : Prop :=
  p.packet.header.isEvent = true ∧
    ∃ key callback, p.packet.body.text? Key.eventKey = some key ∧
      c.watchers.get? key = some callback

/-- Whether a frame is the response to a request that waits. -/
def IsAwaited (c : Connection) (p : ReceivedPacket) : Prop :=
  p.packet.header.isEvent = false ∧ p.packet.header.isChunk = false ∧
    ∃ w, c.pending.get? p.packet.header.sync = some w

/-- The packet that asks for the next change of a key. -/
def acknowledgement (c : Connection) (key : String) : Packet :=
  ⟨Header.request .watch c.nextSync, Body.watch key⟩

/-- What the acknowledgement of a key takes besides the key. -/
def acknowledgementRoom : Nat := Header.room + 7

/-- What asking for the next change of a key puts on the queue: the acknowledgement, or nothing if
the key is too long for a frame. -/
def asking (c : Connection) (key : String) : List Effect :=
  if (c.acknowledgement key).payload.length ≤ Packet.payloadLimit then
    [.queued (c.acknowledgement key)]
  else []

/-- What the connection makes of an inbound frame, for each fate of it. -/
inductive Received (c : Connection) (now : Nat) (p : ReceivedPacket) :
    Fate → Connection × List Effect → Prop
  /-- the notification goes to its callback, and the next one is asked for; only a frame of nearly
  the longest length that can be written may have a key too long to ask for -/
  | notified {key : String} {callback : WatchCallback}
      (event : p.packet.header.isEvent = true)
      (named : p.packet.body.text? Key.eventKey = some key)
      (watched : c.watchers.get? key = some callback)
      (asked : Packet.ofPayload p.payload = .ok p.packet →
        p.payload.length + acknowledgementRoom ≤ Packet.payloadLimit →
          c.asking key = [.queued (c.acknowledgement key)]) :
      Received c now p .notified (c.advance, observation p ++
        .notified callback ⟨key, p.packet.body.get? Key.eventData, c.tag, c.index⟩ ::
          c.asking key)
  /-- the request that waits is completed and waits no more -/
  | answered {w : Waiter} (noEvent : p.packet.header.isEvent = false)
      (noChunk : p.packet.header.isChunk = false)
      (waiting : c.pending.get? p.packet.header.sync = some w) :
      Received c now p .answered ({ c with pending := c.pending.erase p.packet.header.sync },
        observation p ++ [.resolved p.packet.header.sync (resultOf p.packet w.format)
          (w.elapsed now)])
  /-- the frame goes to the hook, and the connection stays as it is -/
  | ignored (unwatched : ¬ c.IsWatched p) (unawaited : ¬ c.IsAwaited p) :
      Received c now p .ignored (c, observation p ++ [.ignored p.payload])

variable {c : Connection} {now : Nat} {p : ReceivedPacket}

/-- The key of a notification is short enough to be asked for again, unless the notification is
of nearly the longest length that there is. -/
theorem acknowledgement_fits (hdecodes : Packet.ofPayload p.payload = .ok p.packet) {key : String}
    (hkey : p.packet.body.text? Key.eventKey = some key)
    (hsmall : p.payload.length + acknowledgementRoom ≤ Packet.payloadLimit) :
    (c.acknowledgement key).payload.length ≤ Packet.payloadLimit := by
  obtain ⟨v, hv, htext⟩ := Option.bind_eq_some_iff.1 hkey
  have hlength : (Utf8.encode key).length ≤ p.payload.length := by
    have hsize := Packet.textSize_of_ofPayload hdecodes hv
    cases v with
    | str bytes =>
        rw [Utf8.encode_of_decode? htext]
        exact hsize
    | _ => cases htext
  have hheader := Header.length_write_le (c.acknowledgement key).header
  have hwritten := MsgPack.length_write_text_le key
  have hbody : (MsgPack.write (c.acknowledgement key).body.toValue).length =
      (MsgPack.write (.text key)).length + 2 := by
    show (0x81 :: 0x57 :: (MsgPack.write (.text key) ++ [])).length = _
    rw [List.append_nil, List.length_cons, List.length_cons]
  rw [acknowledgementRoom] at hsmall
  rw [Packet.payload, List.length_append]
  omega

/-- Asking for the next change of a key uses a number up in any case. -/
theorem acknowledge_eq (c : Connection) (key : String) :
    c.acknowledge key = (c.advance, c.asking key) := by
  have hpacket : (⟨c.nextHeader .watch none none, Body.watch key⟩ : Packet) =
      c.acknowledgement key := rfl
  rw [acknowledge, hpacket, asking]
  by_cases hfits : (c.acknowledgement key).payload.length ≤ Packet.payloadLimit
  · simp only [Packet.frame, if_pos hfits]
  · simp only [Packet.frame, if_neg hfits]

theorem eq_of_mem_asking {key : String} {e : Effect} (h : e ∈ c.asking key) :
    e = .queued (c.acknowledgement key) := by
  unfold asking at h
  split at h
  · exact List.mem_singleton.1 h
  · cases h

/-- A notification goes to whoever watches its key, and to the hook if nobody does. -/
theorem receiveEvent_received (hevent : p.packet.header.isEvent = true) :
    ∃ fate, Received c now p fate
      ((c.receiveEvent p).1, observation p ++ (c.receiveEvent p).2) := by
  unfold receiveEvent
  split
  · rename_i hnobody
    refine ⟨.ignored, .ignored ?_ ?_⟩
    · rintro ⟨_, key, callback, hkey, hcallback⟩
      simp [watcherOf?, hkey, hcallback] at hnobody
    · rintro ⟨hnoEvent, _⟩
      rw [hevent] at hnoEvent
      cases hnoEvent
  · rename_i key callback hwatcher
    obtain ⟨hkey, hcallback⟩ : p.packet.body.text? Key.eventKey = some key ∧
        c.watchers.get? key = some callback := by
      simp only [watcherOf?, Option.bind_eq_bind, Option.bind_eq_some_iff] at hwatcher
      obtain ⟨found, hfound, other, hother, heq⟩ := hwatcher
      cases heq
      exact ⟨hfound, hother⟩
    refine ⟨.notified, ?_⟩
    rw [acknowledge_eq]
    exact .notified hevent hkey hcallback fun hdecodes hsmall =>
      if_pos (acknowledgement_fits hdecodes hkey hsmall)

/-- An inbound frame meets one of the three fates. -/
theorem receive_received (c : Connection) (now : Nat) (p : ReceivedPacket) :
    ∃ fate, Received c now p fate (c.receive now p) := by
  unfold receive route
  by_cases hevent : p.packet.header.isEvent = true
  · rw [if_pos hevent]
    exact receiveEvent_received hevent
  · have hunwatched : ¬ c.IsWatched p := fun h => hevent h.1
    have hnoEvent : p.packet.header.isEvent = false := Bool.eq_false_iff.2 hevent
    rw [if_neg hevent]
    by_cases hchunk : p.packet.header.isChunk = true
    · rw [if_pos hchunk]
      refine ⟨.ignored, .ignored hunwatched ?_⟩
      rintro ⟨_, hnoChunk, _⟩
      rw [hchunk] at hnoChunk
      cases hnoChunk
    · rw [if_neg hchunk]
      dsimp only [receiveResponse]
      split
      · rename_i hnobody
        refine ⟨.ignored, .ignored hunwatched ?_⟩
        rintro ⟨_, _, w, hw⟩
        rw [hnobody] at hw
        cases hw
      · rename_i w hw
        exact ⟨.answered, .answered hnoEvent (Bool.eq_false_iff.2 hchunk) hw⟩

/-- No frame meets two. -/
theorem Received.unique {fate other : Fate} {outcome more : Connection × List Effect}
    (h : Received c now p fate outcome) (h' : Received c now p other more) : fate = other := by
  have hexclusive : c.IsWatched p → ¬ c.IsAwaited p := by
    rintro ⟨hevent, _⟩ ⟨hnoEvent, _⟩
    rw [hevent] at hnoEvent
    cases hnoEvent
  have hwatched {outcome : Connection × List Effect} (h : Received c now p .notified outcome) :
      c.IsWatched p := by
    cases h with
    | notified hevent hkey hcallback => exact ⟨hevent, _, _, hkey, hcallback⟩
  have hawaited {outcome : Connection × List Effect} (h : Received c now p .answered outcome) :
      c.IsAwaited p := by
    cases h with
    | answered hnoEvent hnoChunk hw => exact ⟨hnoEvent, hnoChunk, _, hw⟩
  have hignored {outcome : Connection × List Effect} (h : Received c now p .ignored outcome) :
      ¬ c.IsWatched p ∧ ¬ c.IsAwaited p := by
    cases h with
    | ignored hunwatched hunawaited => exact ⟨hunwatched, hunawaited⟩
  cases fate <;> cases other
  case notified.answered => exact absurd (hawaited h') (hexclusive (hwatched h))
  case notified.ignored => exact absurd (hwatched h) (hignored h').1
  case answered.notified => exact absurd (hawaited h) (hexclusive (hwatched h'))
  case answered.ignored => exact absurd (hawaited h) (hignored h').2
  case ignored.notified => exact absurd (hwatched h') (hignored h).1
  case ignored.answered => exact absurd (hawaited h') (hignored h).2
  all_goals rfl

/-! ## What comes with a fate -/

theorem hookCalls_append (c : Connection) (effects more : List Effect) :
    c.hookCalls (effects ++ more) = c.hookCalls effects ++ c.hookCalls more :=
  List.filterMap_append

theorem hookCalls_observation (c : Connection) (p : ReceivedPacket) :
    c.hookCalls (observation p) = [] := by
  unfold observation
  cases p.packet.header.schemaVersion with
  | none => rfl
  | some version => rfl

theorem hookCalls_asking (c : Connection) (key : String) : c.hookCalls (c.asking key) = [] := by
  unfold asking
  split
  · rfl
  · rfl

/-- The hook is called for a frame that belongs to nobody, once, and for no other. -/
theorem Received.hookCalls {fate : Fate} {outcome : Connection × List Effect}
    (h : Received c now p fate outcome) :
    c.hookCalls outcome.2 = if fate = .ignored then [⟨c.tag, c.index, p.payload⟩] else [] := by
  cases h with
  | notified =>
      rw [hookCalls_append, hookCalls_observation, List.nil_append, Connection.hookCalls,
        List.filterMap_cons_none rfl, ← Connection.hookCalls, hookCalls_asking]
      rfl
  | answered =>
      rw [hookCalls_append, hookCalls_observation]
      rfl
  | ignored =>
      rw [hookCalls_append, hookCalls_observation]
      rfl

theorem applyAll_append (s : Shared) (effects more : List Effect) :
    s.applyAll (effects ++ more) = (s.applyAll effects).applyAll more :=
  List.foldl_append

/-- What is shared after the version that a frame shows was noted. -/
theorem applyAll_observation (s : Shared) (p : ReceivedPacket) :
    s.applyAll (observation p) =
      { s with
        tracker := (p.packet.header.schemaVersion.map s.tracker.observe).getD s.tracker } := by
  unfold observation
  cases p.packet.header.schemaVersion with
  | none => rfl
  | some version => rfl

/-- Asking for the next change of a key changes nothing that is shared. -/
theorem applyAll_asking (s : Shared) (c : Connection) (key : String) :
    s.applyAll (c.asking key) = s := by
  unfold asking
  split
  · rfl
  · rfl

theorem ignored_finish (m : Metrics) (outcome : RequestOutcome) (latency : Duration) :
    (m.finish outcome latency).ignored = m.ignored := by
  cases outcome <;> rfl

/-- Whatever becomes of a frame, its version is noted, and it is counted if it belongs to nobody. -/
theorem Received.shared {fate : Fate} {outcome : Connection × List Effect}
    (h : Received c now p fate outcome) (s : Shared) :
    (s.applyAll outcome.2).tracker =
        (p.packet.header.schemaVersion.map s.tracker.observe).getD s.tracker ∧
      (s.applyAll outcome.2).metrics.ignored =
        s.metrics.ignored + if fate = .ignored then 1 else 0 := by
  cases h with
  | notified =>
      rw [applyAll_append, applyAll_observation, Shared.applyAll, List.foldl_cons,
        ← Shared.applyAll, applyAll_asking]
      exact ⟨rfl, (UInt64.add_zero _).symm⟩
  | answered =>
      rw [applyAll_append, applyAll_observation]
      exact ⟨rfl, (ignored_finish _ _ _).trans (UInt64.add_zero _).symm⟩
  | ignored =>
      rw [applyAll_append, applyAll_observation]
      exact ⟨rfl, rfl⟩

/-! ## What every action leaves alone -/

/-- What holds of every action: the connection keeps its tag and its index, what it queues has the
next number, and inbound frames are settled only when they come in. -/
structure Conduct (c : Connection) (action : Action) (outcome : Connection × List Effect) :
    Prop where
  tag : outcome.1.tag = c.tag
  index : outcome.1.index = c.index
  numbered {packet : Packet} : .queued packet ∈ outcome.2 →
    packet.header.sync = c.nextSync ∧ outcome.1.issued = c.issued + 1
  unsettled : (∀ p, action ≠ .receive p) → ∀ e ∈ outcome.2, e.settlesFrame = false

variable {action : Action}

theorem Conduct.silent {c' : Connection} (htag : c'.tag = c.tag) (hindex : c'.index = c.index) :
    Conduct c action (c', []) :=
  ⟨htag, hindex, by simp, by simp⟩

theorem send_conduct (kind : RequestType) (body : Body) (options : RequestOptions)
    (streamId : Option UInt64) :
    Conduct c action (c.send now kind body options streamId).2 := by
  unfold send
  split
  · exact .silent rfl rfl
  · dsimp only
    split
    · exact .silent rfl rfl
    · refine ⟨rfl, rfl, ?_, ?_⟩
      · intro packet hpacket
        rcases List.mem_cons.1 hpacket with hstarted | hqueued
        · cases hstarted
        · cases List.mem_singleton.1 hqueued
          exact ⟨rfl, rfl⟩
      · intro _ e he
        rcases List.mem_cons.1 he with rfl | he
        · rfl
        · rw [List.mem_singleton.1 he]
          rfl

/-- Sending what is never answered, also if the callbacks were changed before. -/
theorem sendOneway_conduct {d : Connection} (htag : d.tag = c.tag) (hindex : d.index = c.index)
    (hissued : d.issued = c.issued) (kind : RequestType) (body : Body) :
    Conduct c action (d.sendOneway kind body).2 := by
  unfold sendOneway
  split
  · exact .silent htag hindex
  · dsimp only
    split
    · exact .silent htag hindex
    · refine ⟨htag, hindex, ?_, ?_⟩
      · intro packet hpacket
        cases List.mem_singleton.1 hpacket
        have hnext : d.nextSync = c.nextSync := congrArg (fun n => UInt64.ofNat (n + 1)) hissued
        exact ⟨hnext, congrArg (· + 1) hissued⟩
      · intro _ e he
        rw [List.mem_singleton.1 he]
        rfl

theorem Received.conduct {fate : Fate} {outcome : Connection × List Effect}
    (h : Received c now p fate outcome) : Conduct c (.receive p) outcome := by
  have hobservation {packet : Packet} (hpacket : .queued packet ∈ observation p) : False := by
    rw [observation, Option.mem_toList, Option.map_eq_some_iff] at hpacket
    obtain ⟨_, _, heq⟩ := hpacket
    cases heq
  cases h with
  | notified =>
      refine ⟨rfl, rfl, ?_, fun hne => absurd rfl (hne p)⟩
      intro packet hpacket
      rcases List.mem_append.1 hpacket with hobserved | hpacket
      · exact (hobservation hobserved).elim
      · rcases List.mem_cons.1 hpacket with hnotified | hqueued
        · cases hnotified
        · cases eq_of_mem_asking hqueued
          exact ⟨rfl, rfl⟩
  | answered | ignored =>
      refine ⟨rfl, rfl, ?_, fun hne => absurd rfl (hne p)⟩
      intro packet hpacket
      rcases List.mem_append.1 hpacket with hobserved | hpacket
      · exact (hobservation hobserved).elim
      · cases List.mem_singleton.1 hpacket

theorem act_conduct (c : Connection) (now : Nat) (action : Action) :
    Conduct c action (c.act now action).2 := by
  cases action with
  | request r options =>
      simp only [act, withReceipt, request]
      split
      · exact .silent rfl rfl
      · exact send_conduct _ _ _ _
  | inStream stream r options => exact send_conduct _ _ _ _
  | oneway kind body => exact sendOneway_conduct (c := c) rfl rfl rfl kind body
  | watch key callback =>
      simp only [act, withReceipt, watch]
      split
      · exact .silent rfl rfl
      · exact sendOneway_conduct (c := c)
          (d := { c with watchers := c.watchers.insert key callback }) rfl rfl rfl _ _
  | unwatch key =>
      simp only [act, withReceipt, unwatch]
      split
      · exact .silent rfl rfl
      · exact sendOneway_conduct (c := c) (d := { c with watchers := c.watchers.erase key })
          rfl rfl rfl _ _
  | openStream =>
      simp only [act, withReceipt, openStream]
      split
      · exact .silent rfl rfl
      · exact .silent rfl rfl
  | receive p =>
      obtain ⟨_, hreceived⟩ := receive_received c now p
      exact hreceived.conduct
  | expire sync =>
      simp only [act, expire]
      split
      · exact .silent rfl rfl
      · exact ⟨rfl, rfl, by simp, by simp [Effect.settlesFrame]⟩
  | drain => exact .silent rfl rfl
  | shutdown =>
      simp only [act, shutdown]
      split
      · exact .silent rfl rfl
      · refine ⟨rfl, rfl, by simp, ?_⟩
        intro _ e he
        rcases List.mem_append.1 he with hfailed | hclosed
        · obtain ⟨entry, _, rfl⟩ := List.mem_map.1 hfailed
          rfl
        · rw [List.mem_singleton.1 hclosed]
          rfl
  | setLifecycle state =>
      simp only [act, setLifecycle]
      split
      · exact .silent rfl rfl
      · exact .silent rfl rfl
  | agree negotiated => exact .silent rfl rfl

/-! ## Runs -/

/-- Every number on the queue has been given out. -/
def Numbered (c : Connection) (past : List Effect) : Prop :=
  ∀ packet, .queued packet ∈ past →
    0 < packet.header.sync.toNat ∧ packet.header.sync.toNat ≤ c.issued

variable {past : List Effect}

theorem Numbered.act (h : Numbered c past) (now : Nat) (action : Action)
    (hfew : (c.act now action).2.1.issued < UInt64.size) :
    Numbered (c.act now action).2.1 (past ++ (c.act now action).2.2) := by
  intro packet hpacket
  rcases List.mem_append.1 hpacket with hbefore | hnow
  · obtain ⟨hpos, hle⟩ := h packet hbefore
    exact ⟨hpos, Nat.le_trans hle (issued_le_act c now action)⟩
  · obtain ⟨hsync, hissued⟩ := (act_conduct c now action).numbered hnow
    rw [hissued] at hfew
    rw [hsync, hissued, nextSync, UInt64.toNat_ofNat', Nat.mod_eq_of_lt hfew]
    exact ⟨Nat.succ_pos _, Nat.le_refl _⟩

theorem Numbered.run (h : Numbered c past) (steps : List (Nat × Action))
    (hfew : (c.run steps).1.issued < UInt64.size) :
    Numbered (c.run steps).1 (past ++ (c.run steps).2) := by
  induction steps generalizing c past with
  | nil =>
      rw [Connection.run, List.append_nil]
      exact h
  | cons step rest ih =>
      have hnow := h.act step.1 step.2 (Nat.lt_of_le_of_lt (issued_le_run _ rest) hfew)
      have hrest := ih hnow hfew
      rw [List.append_assoc] at hrest
      exact hrest

theorem numbered_spawned (tag : String) (index : Nat) (salt : Bytes) (requestTimeout : Duration) :
    Numbered (spawned tag index salt requestTimeout) [] := by
  intro packet hpacket
  cases hpacket

/-- The number of the next frame is on no packet of the queue. -/
theorem Numbered.fresh (h : Numbered c past) (hfew : c.issued + 1 < UInt64.size) {packet : Packet}
    (hpacket : .queued packet ∈ past) : packet.header.sync ≠ c.nextSync := by
  obtain ⟨_, hle⟩ := h packet hpacket
  intro hsync
  rw [hsync, nextSync, UInt64.toNat_ofNat', Nat.mod_eq_of_lt hfew] at hle
  omega

/-- A connection keeps its tag and its index. -/
theorem identity_run (c : Connection) (steps : List (Nat × Action)) :
    (c.run steps).1.tag = c.tag ∧ (c.run steps).1.index = c.index := by
  induction steps generalizing c with
  | nil => exact ⟨rfl, rfl⟩
  | cons step rest ih =>
      have hconduct := act_conduct c step.1 step.2
      obtain ⟨htag, hindex⟩ := ih (c.act step.1 step.2).2.1
      exact ⟨htag.trans hconduct.tag, hindex.trans hconduct.index⟩

/-- The frames that come in. -/
def framesOf (steps : List (Nat × Action)) : List ReceivedPacket :=
  steps.filterMap fun step =>
    match step.2 with
    | .receive p => some p
    | _ => none

/-- A frame is settled once. -/
theorem Received.countP_settlesFrame {fate : Fate} {outcome : Connection × List Effect}
    (h : Received c now p fate outcome) : outcome.2.countP Effect.settlesFrame = 1 := by
  have hobservation : (observation p).countP Effect.settlesFrame = 0 := by
    unfold observation
    cases p.packet.header.schemaVersion with
    | none => rfl
    | some version => rfl
  cases h with
  | @notified key _ _ _ _ _ =>
      have hasking : (c.asking key).countP Effect.settlesFrame = 0 := by
        rw [List.countP_eq_zero]
        intro e he
        rw [eq_of_mem_asking he]
        exact Bool.false_ne_true
      rw [List.countP_append, hobservation, List.countP_cons, hasking]
      rfl
  | @answered w _ _ _ =>
      have hresult : Effect.settlesFrame (.resolved p.packet.header.sync
          (resultOf p.packet w.format) (w.elapsed now)) = true := by
        unfold resultOf
        split
        · rfl
        · rfl
      rw [List.countP_append, hobservation, List.countP_singleton, hresult]
      rfl
  | ignored =>
      rw [List.countP_append, hobservation]
      rfl

/-- An action settles a frame if it is one that comes in. -/
theorem countP_settlesFrame_act (c : Connection) (now : Nat) (action : Action) :
    (c.act now action).2.2.countP Effect.settlesFrame = (framesOf [(now, action)]).length := by
  by_cases hreceive : ∃ p, action = .receive p
  · obtain ⟨p, rfl⟩ := hreceive
    obtain ⟨_, hreceived⟩ := receive_received c now p
    exact hreceived.countP_settlesFrame
  · have hother : ∀ p, action ≠ .receive p := fun p hp => hreceive ⟨p, hp⟩
    have hnone : framesOf [(now, action)] = [] := by
      cases action with
      | receive p => exact absurd rfl (hother p)
      | _ => rfl
    rw [hnone, List.length_nil, List.countP_eq_zero]
    intro e he
    rw [(act_conduct c now action).unsettled hother e he]
    exact Bool.false_ne_true

/-- Over a run as many frames are settled as came in. -/
theorem countP_settlesFrame_run (c : Connection) (steps : List (Nat × Action)) :
    (c.run steps).2.countP Effect.settlesFrame = (framesOf steps).length := by
  induction steps generalizing c with
  | nil => rfl
  | cons step rest ih =>
      have hsplit : framesOf (step :: rest) = framesOf [step] ++ framesOf rest :=
        List.filterMap_append (l := [step])
      have hnow := countP_settlesFrame_act c step.1 step.2
      rw [hsplit, List.length_append, ← hnow, ← ih]
      exact List.countP_append

/-! ## Responses that come late -/

/-- A response to a request that has its result belongs to nobody. -/
theorem Balanced.late (h : Balanced c past) {n : UInt64} (hp : answers p n)
    (hresult : resultsOf n past ≠ []) (now : Nat) :
    (c.act now (.receive p)).2 = (c, observation p ++ [.ignored p.payload]) := by
  obtain ⟨hnoEvent, hnoChunk, rfl⟩ := hp
  have hnobody : c.pending.get? p.packet.header.sync = none := by
    have hbalance := h.balance p.packet.header.sync
    have honce := h.once p.packet.header.sync
    have hpos := List.length_pos_iff.2 hresult
    cases hw : c.pending.get? p.packet.header.sync with
    | none => rfl
    | some w =>
        rw [waits_of_get? hw] at hbalance
        omega
  obtain ⟨fate, hreceived⟩ := receive_received c now p
  show c.receive now p = _
  generalize c.receive now p = outcome at hreceived ⊢
  cases hreceived with
  | notified hevent =>
      rw [hnoEvent] at hevent
      cases hevent
  | answered _ _ hw =>
      rw [hnobody] at hw
      cases hw
  | ignored => rfl

/-- Whatever has happened to a new connection, in any order: an inbound frame meets just one of the
three fates, with all that `Received` says of it.  In the third, and only there, the hook is
called, once and with the tag and the index of the connection and the payload of the frame, and
one more ignored frame is counted; and in each of them the newest version seen becomes the greater
of what it was and what the frame shows.  So over the whole run just as many frames were settled as
came in.  As long as there are numbers for frames left, the one by which a notification is
acknowledged waits for nothing and is on nothing queued before, and a response to a request that
has its result already, because its time was up or because it was answered before, goes to the
hook and to nobody else. -/
theorem frames_have_one_fate (tag : String) (index : Nat) (salt : Bytes)
    (requestTimeout : Duration) (steps : List (Nat × Action)) (c : Connection)
    (past : List Effect) (hrun : (spawned tag index salt requestTimeout).run steps = (c, past)) :
    (∀ now p, ∃! fate, Received c now p fate (c.act now (.receive p)).2) ∧
    (∀ now p fate, Received c now p fate (c.act now (.receive p)).2 →
      c.hookCalls (c.act now (.receive p)).2.2 =
          (if fate = .ignored then [⟨tag, index, p.payload⟩] else []) ∧
        ∀ shared : Shared,
          (shared.applyAll (c.act now (.receive p)).2.2).metrics.ignored =
              shared.metrics.ignored + (if fate = .ignored then 1 else 0) ∧
            (shared.applyAll (c.act now (.receive p)).2.2).tracker.current =
              (p.packet.header.schemaVersion.map (max shared.tracker.current)).getD
                shared.tracker.current) ∧
    past.countP Effect.settlesFrame = (framesOf steps).length ∧
    (c.issued + 1 < UInt64.size →
      (c.pending.get? c.nextSync = none ∧
        ∀ packet, .queued packet ∈ past → packet.header.sync ≠ c.nextSync) ∧
      ∀ now p n, answers p n → resultsOf n past ≠ [] →
        (c.act now (.receive p)).2 = (c, observation p ++ [.ignored p.payload])) := by
  obtain ⟨htag, hindex⟩ : c.tag = tag ∧ c.index = index := by
    have h := identity_run (spawned tag index salt requestTimeout) steps
    rwa [hrun] at h
  refine ⟨?_, ?_, ?_, fun hfew => ?_⟩
  · intro now p
    obtain ⟨fate, hreceived⟩ := receive_received c now p
    exact ⟨fate, hreceived, fun _ hother => hother.unique hreceived⟩
  · intro now p fate hreceived
    refine ⟨?_, fun shared => ?_⟩
    · rw [hreceived.hookCalls, htag, hindex]
    · obtain ⟨htracker, hignored⟩ := hreceived.shared shared
      refine ⟨hignored, ?_⟩
      rw [htracker]
      cases p.packet.header.schemaVersion with
      | none => rfl
      | some version => rfl
  · have h := countP_settlesFrame_run (spawned tag index salt requestTimeout) steps
    rwa [hrun] at h
  · have hissued : c.issued < UInt64.size := Nat.lt_of_succ_lt hfew
    have hbalanced : Balanced c past := by
      have h := (balanced_spawned tag index salt requestTimeout).run steps (by rwa [hrun])
      rwa [hrun] at h
    have hnumbered : Numbered c past := by
      have h := (numbered_spawned tag index salt requestTimeout).run steps (by rwa [hrun])
      rwa [hrun] at h
    exact ⟨⟨hbalanced.get?_nextSync hissued, fun _ => hnumbered.fresh hfew⟩,
      fun now _ _ hp hresult => hbalanced.late hp hresult now⟩

/-- The reply to the first request of a connection. -/
def lateReply : ReceivedPacket :=
  let packet : Packet := ⟨Header.response Status.ok 1 4, Body.ofData [.bool true]⟩
  ⟨packet.payload, packet⟩

/-- A reply comes after the time of its request: it goes to the hook, and to nobody else. -/
theorem late_reply_has_one_fate :
    let run := (spawned "default" 0 [] (.ofMillis 50)).run
      [(0, .request (.call "slow" []) {}), (50, .expire 1)]
    run.1.issued + 1 < UInt64.size ∧ answers lateReply 1 ∧ resultsOf 1 run.2 ≠ [] ∧
      (run.1.act 300 (.receive lateReply)).2 =
        (run.1, [.observed 4, .ignored lateReply.payload]) ∧
      run.1.hookCalls (run.1.act 300 (.receive lateReply)).2.2 =
        [⟨"default", 0, lateReply.payload⟩] := by
  intro run
  have hfew : run.1.issued + 1 < UInt64.size := by decide +kernel
  have hanswers : answers lateReply 1 := ⟨rfl, rfl, rfl⟩
  have hresult : resultsOf 1 run.2 ≠ [] := by
    rw [← List.length_pos_iff]
    decide +kernel
  obtain ⟨-, -, -, hnumbers⟩ :=
    frames_have_one_fate "default" 0 [] (.ofMillis 50) _ run.1 run.2 rfl
  have houtcome := (hnumbers hfew).2 300 lateReply 1 hanswers hresult
  refine ⟨hfew, hanswers, hresult, houtcome, ?_⟩
  rw [houtcome]
  rfl

end Connection

end TupleWire

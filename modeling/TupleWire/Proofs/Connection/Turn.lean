/-
  What one action does to the requests of a connection.

  Whatever is done to a connection, one of five things happens to its requests:
  none of them begins or ends, one begins to wait, a response or the end of its
  time takes one out of the pending table, or the shutdown takes out all of
  them.  `Turn` lists the five with everything that comes with them, and
  `act_turn` says that there are no others.  What is said of every run of a
  connection rests on it and does not look into the operations again.
-/
import TupleWire.Connection.Action

set_option autoImplicit false

namespace TupleWire

/-- The request that an effect begins or ends. -/
def Effect.request? : Effect → Option UInt64
  | .started sync | .resolved sync _ _ => some sync
  | _ => none

namespace Connection

/-- What an action makes of a connection: a result, the connection after it, and effects. -/
abbrev Outcome : Type := Except ClientError Receipt × Connection × List Effect

/-- The schema version that a packet shows, as an effect. -/
def observation (p : ReceivedPacket) : List Effect :=
  (p.packet.header.schemaVersion.map Effect.observed).toList

/-- What an action can do to the requests of a connection. -/
inductive Turn (c : Connection) (now : Nat) : Action → Outcome → Prop
  /-- no request begins or ends -/
  | quiet {action : Action} {result : Except ClientError Receipt} {c' : Connection}
      {effects : List Effect} (pending : c'.pending = c.pending) (issued : c.issued ≤ c'.issued)
      (lifecycle : c'.lifecycle = c.lifecycle ∨
        c.isClosed = false ∧ action = .setLifecycle c'.lifecycle)
      (silent : ∀ e ∈ effects, e.request? = none) (unnumbered : ∀ n, result ≠ .ok (.sync n)) :
      Turn c now action (result, c', effects)
  /-- a request begins to wait -/
  | begun {action : Action} (w : Waiter) (packet : Packet) (isOpen : c.isClosed = false) :
      Turn c now action (.ok (.sync c.nextSync),
        { c.advance with pending := c.pending.insert c.nextSync w },
        [.started c.nextSync, .queued packet])
  /-- a response ends the wait of the request whose number it carries -/
  | answered {p : ReceivedPacket} {w : Waiter} (noEvent : p.packet.header.isEvent = false)
      (noChunk : p.packet.header.isChunk = false)
      (waiting : c.pending.get? p.packet.header.sync = some w) :
      Turn c now (.receive p) (.ok .nothing,
        { c with pending := c.pending.erase p.packet.header.sync },
        observation p ++ [.resolved p.packet.header.sync (resultOf p.packet w.format)
          (w.elapsed now)])
  /-- the time of a request is up -/
  | expired {sync : UInt64} {w : Waiter} (waiting : c.pending.get? sync = some w) :
      Turn c now (.expire sync) (.ok .nothing, { c with pending := c.pending.erase sync },
        [.resolved sync (.error (.timeout sync w.timeout)) (w.elapsed now)])
  /-- the connection is closed, which ends every wait -/
  | ended (isOpen : c.isClosed = false) :
      Turn c now .shutdown (.ok .nothing, { c with lifecycle := .closed, pending := .empty },
        (c.pending.entries.map fun (sync, waiter) =>
          Effect.resolved sync (.error .connectionClosed) (waiter.elapsed now)) ++ [.closed])

variable {c : Connection} {now : Nat} {action : Action}

/-! ## One operation after the other -/

theorem send_turn (kind : RequestType) (body : Body) (options : RequestOptions)
    (streamId : Option UInt64) :
    Turn c now action (withReceipt .sync (c.send now kind body options streamId)) := by
  unfold send
  split
  · exact .quiet rfl (Nat.le_refl _) (.inl rfl) (by simp) (by simp [Except.map])
  · rename_i hopen
    dsimp only
    split
    · exact .quiet rfl (Nat.le_succ _) (.inl rfl) (by simp) (by simp [Except.map])
    · exact .begun _ _ (by simpa using hopen)

theorem request_turn (r : Request) (options : RequestOptions) :
    Turn c now action (withReceipt .sync (c.request now r options)) := by
  unfold request
  split
  · exact .quiet rfl (Nat.le_refl _) (.inl rfl) (by simp) (by simp [Except.map])
  · exact send_turn _ _ _ _

/-- Sending what is never answered leaves the requests alone, also if the callbacks of the
connection were changed before. -/
theorem sendOneway_turn {d : Connection} (hpending : d.pending = c.pending)
    (hissued : d.issued = c.issued) (hlifecycle : d.lifecycle = c.lifecycle) (kind : RequestType)
    (body : Body) :
    Turn c now action (withReceipt (fun _ => .nothing) (d.sendOneway kind body)) := by
  unfold sendOneway
  split
  · exact .quiet hpending (Nat.le_of_eq hissued.symm) (.inl hlifecycle) (by simp)
      (by simp [Except.map])
  · dsimp only
    split
    · refine .quiet hpending ?_ (.inl hlifecycle) (by simp) (by simp [Except.map])
      simp only [advance]
      omega
    · refine .quiet hpending ?_ (.inl hlifecycle) (by simp [Effect.request?])
        (by simp [Except.map])
      simp only [advance]
      omega

theorem watch_turn (key : String) (callback : WatchCallback) :
    Turn c now action (withReceipt (fun _ => .nothing) (c.watch key callback)) := by
  unfold watch
  split
  · exact .quiet rfl (Nat.le_refl _) (.inl rfl) (by simp) (by simp [Except.map])
  · exact sendOneway_turn (c := c) (d := { c with watchers := c.watchers.insert key callback })
      rfl rfl rfl _ _

theorem unwatch_turn (key : String) :
    Turn c now action (withReceipt (fun _ => .nothing) (c.unwatch key)) := by
  unfold unwatch
  split
  · exact .quiet rfl (Nat.le_refl _) (.inl rfl) (by simp) (by simp [Except.map])
  · exact sendOneway_turn (c := c) (d := { c with watchers := c.watchers.erase key })
      rfl rfl rfl _ _

theorem openStream_turn : Turn c now action (c.act now .openStream) := by
  simp only [act, openStream]
  split
  · exact .quiet rfl (Nat.le_refl _) (.inl rfl) (by simp) (by simp [Except.map])
  · exact .quiet rfl (Nat.le_refl _) (.inl rfl) (by simp) (by simp [Except.map])

/-! ## Inbound packets -/

theorem observation_silent (p : ReceivedPacket) : ∀ e ∈ observation p, e.request? = none := by
  intro e he
  rw [observation, Option.mem_toList, Option.map_eq_some_iff] at he
  obtain ⟨version, _, rfl⟩ := he
  rfl

/-- A notification leaves the requests alone. -/
theorem receiveEvent_quiet (c : Connection) (p : ReceivedPacket) :
    (c.receiveEvent p).1.pending = c.pending ∧ c.issued ≤ (c.receiveEvent p).1.issued ∧
      (c.receiveEvent p).1.lifecycle = c.lifecycle ∧
      ∀ e ∈ (c.receiveEvent p).2, e.request? = none := by
  unfold receiveEvent
  split
  · exact ⟨rfl, Nat.le_refl _, rfl, by simp [Effect.request?]⟩
  · dsimp only [acknowledge]
    split
    · exact ⟨rfl, Nat.le_succ _, rfl, by simp [Effect.request?]⟩
    · exact ⟨rfl, Nat.le_succ _, rfl, by simp [Effect.request?]⟩

theorem receiveResponse_turn (p : ReceivedPacket) (hevent : p.packet.header.isEvent = false)
    (hchunk : p.packet.header.isChunk = false) :
    Turn c now (.receive p) (.ok .nothing, (c.receiveResponse now p).1,
      observation p ++ (c.receiveResponse now p).2) := by
  simp only [receiveResponse]
  split
  · refine .quiet rfl (Nat.le_refl _) (.inl rfl) ?_ (by simp)
    intro e he
    rcases List.mem_append.1 he with he | he
    · exact observation_silent p e he
    · rw [List.mem_singleton.1 he]
      rfl
  · rename_i w hw
    exact .answered hevent hchunk hw

theorem receive_turn (p : ReceivedPacket) :
    Turn c now (.receive p) (c.act now (.receive p)) := by
  simp only [act, receive, route]
  split
  · obtain ⟨hpending, hissued, hlifecycle, hsilent⟩ := receiveEvent_quiet c p
    refine .quiet hpending hissued (.inl hlifecycle) ?_ (by simp)
    intro e he
    rcases List.mem_append.1 he with he | he
    · exact observation_silent p e he
    · exact hsilent e he
  · rename_i hevent
    split
    · refine .quiet rfl (Nat.le_refl _) (.inl rfl) ?_ (by simp)
      intro e he
      rcases List.mem_append.1 he with he | he
      · exact observation_silent p e he
      · rw [List.mem_singleton.1 he]
        rfl
    · rename_i hchunk
      exact receiveResponse_turn p (by simpa using hevent) (by simpa using hchunk)

/-! ## Time and the end -/

theorem expire_turn (sync : UInt64) : Turn c now (.expire sync) (c.act now (.expire sync)) := by
  simp only [act, expire]
  split
  · exact .quiet rfl (Nat.le_refl _) (.inl rfl) (by simp) (by simp)
  · rename_i w hw
    exact .expired hw

theorem shutdown_turn : Turn c now .shutdown (c.act now .shutdown) := by
  simp only [act, shutdown]
  split
  · exact .quiet rfl (Nat.le_refl _) (.inl rfl) (by simp) (by simp)
  · rename_i hopen
    exact .ended (by simpa using hopen)

theorem setLifecycle_turn (state : Lifecycle) :
    Turn c now (.setLifecycle state) (c.act now (.setLifecycle state)) := by
  simp only [act, setLifecycle]
  split
  · exact .quiet rfl (Nat.le_refl _) (.inl rfl) (by simp) (by simp)
  · rename_i hopen
    exact .quiet rfl (Nat.le_refl _) (.inr ⟨by simpa using hopen, rfl⟩) (by simp) (by simp)

/-- Every action is one of the five turns. -/
theorem act_turn (c : Connection) (now : Nat) (action : Action) :
    Turn c now action (c.act now action) := by
  cases action with
  | request r options => exact request_turn r options
  | inStream stream r options => exact send_turn _ _ _ _
  | oneway kind body => exact sendOneway_turn (c := c) rfl rfl rfl kind body
  | watch key callback => exact watch_turn key callback
  | unwatch key => exact unwatch_turn key
  | openStream => exact openStream_turn
  | receive p => exact receive_turn p
  | expire sync => exact expire_turn sync
  | drain => exact .quiet rfl (Nat.le_refl _) (.inl rfl) (by simp) (by simp)
  | shutdown => exact shutdown_turn
  | setLifecycle state => exact setLifecycle_turn state
  | agree negotiated => exact .quiet rfl (Nat.le_refl _) (.inl rfl) (by simp) (by simp)

/-! ## States -/

theorem lifecycle_shutdown (c : Connection) (now : Nat) :
    (c.act now .shutdown).2.1.lifecycle = .closed := by
  simp only [act, shutdown]
  split
  · rename_i hclosed
    exact beq_iff_eq.1 hclosed
  · rfl

theorem lifecycle_setLifecycle (c : Connection) (state : Lifecycle) :
    (c.setLifecycle state).lifecycle = state ∨ (c.setLifecycle state).lifecycle = .closed := by
  unfold setLifecycle
  split
  · rename_i hclosed
    exact .inr (beq_iff_eq.1 hclosed)
  · exact .inl rfl

/-- A connection that stays as another one was, or is closed, is in the state of that one, or
closed. -/
theorem lifecycle_of_stays {c d : Connection} {state : Lifecycle}
    (hd : d.lifecycle = c.lifecycle ∨ d.lifecycle = .closed)
    (hc : c.lifecycle = state ∨ c.lifecycle = .closed) :
    d.lifecycle = state ∨ d.lifecycle = .closed := by
  rcases hd with hsame | hclosed
  · rw [hsame]
    exact hc
  · exact .inr hclosed

/-- Unless its state is set, a connection stays in it or is closed. -/
theorem lifecycle_act (c : Connection) (now : Nat) {action : Action}
    (haction : ∀ state, action ≠ .setLifecycle state) :
    (c.act now action).2.1.lifecycle = c.lifecycle ∨
      (c.act now action).2.1.lifecycle = .closed := by
  have hturn := c.act_turn now action
  generalize c.act now action = outcome at hturn ⊢
  cases hturn with
  | quiet _ _ hlifecycle _ _ =>
      rcases hlifecycle with hsame | ⟨_, hstate⟩
      · exact .inl hsame
      · exact absurd hstate (haction _)
  | begun | answered | expired => exact .inl rfl
  | ended => exact .inr rfl

end Connection

end TupleWire

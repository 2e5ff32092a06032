/-
  What the gauge of requests shows once a client is closed.

  A call that closes a client comes back when the pool is torn down.  By then
  every connection that was ever installed is closed and has ended whatever
  waited on it.  What was under way in a handshake is dropped with its
  supervisor, and nobody ends it.  So the gauge is back where it was before the
  client was connected exactly if no handshake was under way in that moment
  (`gauge_of_closed_client`).
-/
import TupleWire.Proofs.Client.Attachment
import TupleWire.Proofs.Client.Closing
import TupleWire.Proofs.Pool.Handshakes

set_option autoImplicit false

namespace TupleWire

/-! ## First attempts -/

/-- The dialer of a network in which every attempt takes the same course. -/
def Dialer.attempting (requestTimeout : Duration) (opening : Opening)
    (steps : List (Nat × Attempt.Event)) : Dialer := fun group index shared =>
  let made := Attempt.make group index requestTimeout 0 opening steps
  (made.1.result?.getD (.error .connectionClosed), shared.applyAll made.2)

theorem Dialer.makesAttempts_attempting {steps : List (Nat × Attempt.Event)}
    (htime : Attempt.Occurs steps .timeOut) (requestTimeout : Duration) (opening : Opening) :
    (Dialer.attempting requestTimeout opening steps).MakesAttempts := by
  intro group index shared
  obtain ⟨result, hresult⟩ := Option.isSome_iff_exists.1
    (Attempt.isOver_make htime group index requestTimeout 0 opening)
  refine ⟨requestTimeout, 0, opening, steps, ?_, rfl⟩
  rw [hresult, attempting, hresult]
  rfl

/-- An attempt that is over leaves the gauge where it was, and nothing waits on its connection. -/
theorem Dialer.MakesAttempts.settles {dial : Dialer} (hdial : dial.MakesAttempts) (group : Group)
    (index : Nat) (shared : Shared) :
    (dial group index shared).2.metrics.inflight = shared.metrics.inflight ∧
      ∀ c, (dial group index shared).1 = .ok c → c.pending = .empty := by
  obtain ⟨requestTimeout, now, opening, steps, hresult, hshared⟩ := hdial group index shared
  have hsettles := Attempt.settles_make group index requestTimeout now opening steps
  generalize Attempt.make group index requestTimeout now opening steps = made at *
  obtain ⟨a, effects⟩ := made
  dsimp only at *
  have hover : a.isOver = true := by
    rw [Attempt.isOver, hresult]
    rfl
  refine ⟨?_, fun c hc => ?_⟩
  · have hbalance := hsettles.balance
    rw [hsettles.sole.waiting_of_isOver hover] at hbalance
    have hgauge : shared.metrics.inflight = shared.metrics.inflight + UInt64.ofNat 0 :=
      (UInt64.add_zero _).symm
    rw [hshared, Shared.gauge_applyAll hgauge hbalance]
    exact UInt64.add_zero _
  · rw [hc] at hresult
    have hsole := hsettles.sole
    cases hsole with
    | refused e => cases hresult
    | asking hpending hopen => cases hresult
    | answered hpending => cases hresult
    | connected hpending =>
        cases hresult
        exact hpending
    | failed hpending => cases hresult

namespace Client

theorem settles_dialAll {dial : Dialer} (hdial : dial.MakesAttempts) (slots : List Slot)
    (shared : Shared) :
    (dialAll dial slots shared).2.metrics.inflight = shared.metrics.inflight ∧
      ∀ c, .ok c ∈ (dialAll dial slots shared).1 → c.pending = .empty := by
  induction slots generalizing shared with
  | nil => exact ⟨rfl, fun c hc => nomatch hc⟩
  | cons s rest ih =>
      obtain ⟨hinflight, hempty⟩ := hdial.settles s.group s.index shared
      obtain ⟨hlater, hothers⟩ := ih (dial s.group s.index shared).2
      refine ⟨hlater.trans hinflight, fun c hc => ?_⟩
      rcases List.mem_cons.1 hc with hfirst | hrest
      · exact hempty c hfirst.symm
      · exact hothers c hrest

/-- Attaching a registry leaves its gauge alone. -/
theorem inflight_of_attach {given metrics : Option Metrics} (h : attach given = .ok metrics) :
    (metrics.getD .empty).inflight = (given.getD .empty).inflight := by
  cases given with
  | none =>
      cases h
      rfl
  | some m =>
      unfold attach Metrics.attach? at h
      dsimp only at h
      split at h
      · rename_i attached hattached
        cases h
        split at hattached
        · cases hattached
        · cases hattached
          rfl
      · cases h

end Client

namespace Pool

variable {p : Pool} {base : UInt64} {config : PoolConfig} {groups : List Group} {shared : Shared}
  {results : List (Except ClientError Connection)} {events : List PoolEvent} {now : Nat}

/-- A pool without connections and handshakes. -/
theorem gauged_initial (config : PoolConfig) (groups : List Group) (shared : Shared) :
    Gauged shared.metrics.inflight 0 { config, slots := slotsOf groups, shared } ∧
      ∀ s ∈ slotsOf groups, s.supervisor.handshake? = none := by
  have hidle : ∀ s ∈ slotsOf groups, s.supervisor = .attempting none := by
    intro s hs
    obtain ⟨group, _, hmem⟩ := List.mem_flatMap.1 hs
    obtain ⟨index, _, rfl⟩ := List.mem_map.1 hmem
    rfl
  have hnone : ({ config, slots := slotsOf groups, shared } : Pool).handshakes = [] := by
    rw [handshakes, List.filterMap_eq_nil_iff]
    intro s hs
    rw [hidle s hs]
    rfl
  refine ⟨⟨?_, fun {s g} hs hattempting => ?_⟩, fun s hs => ?_⟩
  · rw [hnone]
    exact ⟨fun hc => (nomatch hc), fun hc => (nomatch hc), fun _ => (UInt64.add_zero _).symm⟩
  · rw [hidle s hs] at hattempting
    cases hattempting
  · rw [hidle s hs]
    rfl

/-- The results of the first attempts are installed. -/
theorem Gauged.settleFrom (h : Gauged base 0 p)
    (hidle : ∀ s ∈ p.slots, s.supervisor.handshake? = none)
    (hempty : ∀ c, .ok c ∈ results → c.pending = .empty) (now position : Nat) :
    Gauged base 0 (p.settleFrom now position results).1 := by
  induction results generalizing p position with
  | nil => exact h
  | cons result rest ih =>
      have hlater : ∀ c, .ok c ∈ rest → c.pending = .empty :=
        fun c hc => hempty c (List.mem_cons_of_mem _ hc)
      unfold Pool.settleFrom
      cases hs : p.slots[position]? with
      | none => exact h
      | some s =>
          cases result with
          | error cause => exact ih h hidle hlater (position + 1)
          | ok c =>
              have hchanging := h.changing hs
              rw [hidle s (List.mem_of_getElem? hs)] at hchanging
              have hinstalled := hchanging.install (hempty c List.mem_cons_self) now
              refine ih hinstalled ?_ hlater (position + 1)
              obtain ⟨q, hages, _, _, hinstall⟩ := p.install_parts now position s c
              rw [hinstall]
              intro t ht
              rcases List.mem_or_eq_of_mem_set ht with ht | rfl
              · rw [hages.slots] at ht
                exact hidle t ht
              · rfl

/-- A pool that was started shows what the registry showed after the first attempts. -/
theorem gauged_of_start (hstart : start config groups shared now results = (.ok p, events))
    (hempty : ∀ c, .ok c ∈ results → c.pending = .empty) :
    Gauged shared.metrics.inflight 0 p := by
  obtain ⟨hinitial, hidle⟩ := gauged_initial config groups shared
  have hsettled := hinitial.settleFrom hidle hempty now 0
  rw [settleFrom_of_start hstart] at hsettled
  exact hsettled

/-! ## The size of a pool -/

/-- A pool keeps its slots. -/
theorem Shift.length_slots {event : Event} {outcome : Pool × List PoolEvent}
    (h : Shift p now event outcome) : outcome.1.slots.length = p.slots.length := by
  cases h with
  | acted hages _ => rw [hages.slots]
  | supervised hages _ _ _ _ =>
      rw [setSlot, List.length_set, hages.slots]
  | judged hages _ _ _ _ =>
      rw [setSlot, List.length_set, hages.slots]
  | @installed _ i s handshake shared c _ _ _ =>
      obtain ⟨q, hages, _, _, hinstall⟩ := { p with shared }.install_parts now i s c
      rw [hinstall, setSlot, List.length_set, hages.slots]
  | closed _ hages => rw [hages.slots]
  | tornDown _ hages _ =>
      rw [List.length_map, hages.slots]

end Pool

/-! ## What is dropped -/

/-- Whether something happens to a client in the course of things. -/
def LiveClient.Event.IsOrdinary : Event → Prop
  | pool event => event.IsOrdinary
  | close | proceed _ => True

namespace LiveClient

/-- The handshakes that were under way when the pool was torn down. -/
def dropped : LiveClient → List (Nat × Event) → List Handshake
  | _, [] => []
  | l, (now, event) :: rest =>
      (if (l.step now event).1.pool.isTornDown = l.pool.isTornDown then []
        else l.pool.handshakes) ++ dropped (l.step now event).1 rest

variable {l : LiveClient} {base : UInt64} {already now : Nat}

/-- What a step of a client does to its pool: the pool goes on, or it is torn down. -/
theorem pool_step_cases (l : LiveClient) (now : Nat) (event : Event) :
    (∃ poolEvent : Pool.Event, poolEvent ≠ .tearDown ∧ (event.IsOrdinary → poolEvent.IsOrdinary) ∧
        (l.step now event).1.pool = (l.pool.step now poolEvent).1) ∨
      (l.step now event).1.pool = l.pool ∨
        l.pool.canTearDown = true ∧ (l.step now event).1.pool = (l.pool.tearDown now).1 := by
  cases event with
  | close => exact .inl ⟨.close, by simp, fun _ => trivial, rfl⟩
  | pool event =>
      rw [step]
      split
      · rename_i hadmits
        refine .inl ⟨event, ?_, id, rfl⟩
        rintro rfl
        cases hadmits
      · exact .inr (.inl rfl)
  | proceed i =>
      rcases l.pool_proceed now i with hsame | htorn
      · exact .inr (.inl hsame)
      · cases hcan : l.pool.canTearDown with
        | true => exact .inr (.inr ⟨rfl, htorn⟩)
        | false =>
            rw [Pool.tearDown_of_cannot hcan] at htorn
            exact .inr (.inl htorn)

/-- Nothing but its end tears a pool down. -/
theorem isTornDown_step (p : Pool) (now : Nat) {event : Pool.Event} (htear : event ≠ .tearDown) :
    (p.step now event).1.isTornDown = p.isTornDown := by
  by_cases hclose : event = .close
  · subst hclose
    exact (p.marks_close now).2
  · exact ((p.step_shift now event).marks hclose htear).2.1

theorem gauged_run (h : Pool.Gauged base already l.pool) {steps : List (Nat × Event)}
    (hordinary : ∀ step ∈ steps, step.2.IsOrdinary) :
    Pool.Gauged base (already + (l.dropped steps).length) (l.run steps).1.pool := by
  induction steps generalizing l already with
  | nil => exact h
  | cons step rest ih =>
      obtain ⟨now, event⟩ := step
      have hlater : ∀ step ∈ rest, step.2.IsOrdinary :=
        fun step hstep => hordinary step (List.mem_cons_of_mem _ hstep)
      have hevent : event.IsOrdinary := hordinary (now, event) List.mem_cons_self
      rw [dropped, List.length_append, ← Nat.add_assoc]
      refine ih ?_ hlater
      rcases l.pool_step_cases now event with ⟨poolEvent, htear, hkeeps, hpool⟩ | hsame | ⟨hcan, htorn⟩
      · rw [hpool, if_pos (isTornDown_step l.pool now htear)]
        exact h.step now (hkeeps hevent) htear
      · rw [hsame, if_pos rfl]
        exact h
      · have hbefore : l.pool.isTornDown = false := by
          unfold Pool.canTearDown at hcan
          simp only [Bool.and_eq_true, Bool.not_eq_true'] at hcan
          exact hcan.1.2
        have hafter := (Pool.tearDown_of_can hcan now).1
        rw [htorn, if_neg (by simp [hbefore, hafter])]
        exact h.tearDown hcan now

/-- A pool is torn down once. -/
theorem dropped_of_tornDown (htorn : l.pool.isTornDown = true) (steps : List (Nat × Event)) :
    l.dropped steps = [] := by
  induction steps generalizing l with
  | nil => rfl
  | cons step rest ih =>
      obtain ⟨now, event⟩ := step
      have hstays : (l.step now event).1.pool.isTornDown = l.pool.isTornDown := by
        rcases l.pool_step_cases now event with ⟨poolEvent, htear, _, hpool⟩ | hsame | ⟨hcan, _⟩
        · rw [hpool]
          exact isTornDown_step l.pool now htear
        · rw [hsame]
        · simp [Pool.canTearDown, htorn] at hcan
      rw [dropped, if_pos hstays, List.nil_append]
      exact ih (hstays.trans htorn)

/-- No slot drops more than one handshake. -/
theorem length_dropped_le (l : LiveClient) (steps : List (Nat × Event)) :
    (l.dropped steps).length ≤ l.pool.slots.length := by
  induction steps generalizing l with
  | nil => exact Nat.zero_le _
  | cons step rest ih =>
      obtain ⟨now, event⟩ := step
      have hrest := ih (l.step now event).1
      rw [dropped]
      rcases l.pool_step_cases now event with ⟨poolEvent, htear, _, hpool⟩ | hsame | ⟨hcan, htorn⟩
      · rw [hpool, if_pos (isTornDown_step l.pool now htear), List.nil_append]
        rw [hpool, (l.pool.step_shift now poolEvent).length_slots] at hrest
        exact hrest
      · rw [hsame, if_pos rfl, List.nil_append]
        rw [hsame] at hrest
        exact hrest
      · have hafter := (Pool.tearDown_of_can hcan now).1
        rw [← htorn] at hafter
        rw [dropped_of_tornDown hafter, List.append_nil]
        split
        · exact Nat.zero_le _
        · exact List.length_filterMap_le _ _

/-! ## Closed clients -/

section Closed

variable {dial : Dialer} {host : Host} {config : ClientConfig} {hooks : ClientHooks}
  {client : Client}

/-- A client starts with the gauge where it was. -/
theorem gauged_of_connect (hdial : dial.MakesAttempts)
    (hconnect : (Client.connect dial host config hooks).result = .ok client) :
    Pool.Gauged (hooks.metrics.getD .empty).inflight 0 client.pool := by
  obtain ⟨_, policy, metrics, hattach, hstarts⟩ := startPool_of_connect hconnect
  rw [hstarts] at hconnect
  have hstart := start_of_startPool hconnect
  obtain ⟨hinflight, hempty⟩ := Client.settles_dialAll hdial (Pool.slotsOf config.groups)
    (Client.sharedOf config metrics)
  have hgauged := Pool.gauged_of_start hstart hempty
  have hbase : (Client.sharedOf config metrics).metrics.inflight =
      (hooks.metrics.getD .empty).inflight := Client.inflight_of_attach hattach
  rw [hinflight, hbase] at hgauged
  exact hgauged

/-- Once a call that closes a client has come back the gauge shows, beside what it showed before the
client was connected, one request for each handshake that was under way when the pool was torn
down, and nothing else.  So every request that was counted has been counted as ended if and only if
there was no such handshake. -/
theorem gauge_of_closed_client (hdial : dial.MakesAttempts)
    (hconnect : (Client.connect dial host config hooks).result = .ok client)
    (hsize : client.pool.size < UInt64.size) {steps : List (Nat × Event)}
    (hordinary : ∀ step ∈ steps, step.2.IsOrdinary)
    (hfew : (client.live.run steps).1.pool.fleet.HasNumbers) {call : CloseCall}
    (hcall : call ∈ (client.live.run steps).1.calls) (hreturned : call.hasReturned = true) :
    let before := (hooks.metrics.getD .empty).inflight
    let after := (client.live.run steps).1.pool.shared.metrics.inflight
    after = before + UInt64.ofNat (client.live.dropped steps).length ∧
      (after = before ↔ client.live.dropped steps = []) := by
  intro before after
  have hconcluding := (Concluding.initial (opened_of_connect hconnect)
    client.config.heartbeat.isSome (some client.runtime)).run steps
  have htorn : (client.live.run steps).1.pool.isTornDown = true :=
    hconcluding.returned hcall hreturned
  have hgauged : Pool.Gauged before (0 + (client.live.dropped steps).length)
      (client.live.run steps).1.pool :=
    gauged_run (l := client.live) (gauged_of_connect hdial hconnect) hordinary
  have hidle : (client.live.run steps).1.pool.handshakes = [] := by
    rw [Pool.handshakes, List.filterMap_eq_nil_iff]
    intro s hs
    rw [((hconcluding.attended.emptied htorn).2 s hs).2]
    rfl
  have hshown : after = before + UInt64.ofNat (client.live.dropped steps).length := by
    have hgauge := hgauged.booked.gauge_of_closed hfew
      (hconcluding.attended.isClosed_of_tornDown htorn).2
    rw [hidle, List.length_nil, Nat.zero_add, Nat.zero_add] at hgauge
    exact hgauge
  refine ⟨hshown, ?_⟩
  have hlt : (client.live.dropped steps).length < UInt64.size :=
    Nat.lt_of_le_of_lt (length_dropped_le client.live steps) hsize
  rw [hshown]
  constructor
  · intro hsame
    have hzero : UInt64.ofNat (client.live.dropped steps).length = 0 :=
      (UInt64.add_right_inj before).1 (hsame.trans (UInt64.add_zero before).symm)
    have hnat := congrArg UInt64.toNat hzero
    rw [UInt64.toNat_ofNat_of_lt' hlt] at hnat
    exact List.length_eq_zero_iff.1 hnat
  · intro hnone
    rw [hnone]
    exact UInt64.add_zero _

end Closed

/-! ## A client that is closed while it connects again -/

namespace Abandoned

/-- One connection to one instance. -/
def config : ClientConfig :=
  { groups := [{ tag := "default", host := "localhost", port := 3301, size := 1 }] }

/-- A caller with a registry of its own. -/
def hooks : ClientHooks := { metrics := some .empty }

/-- A server that answers everything at once. -/
def visit : List (Nat × Attempt.Event) :=
  [(1, Attempt.Visit.answered 1 (Body.identify 3 .all)), (2, .wake),
    (3, Attempt.Visit.answered 2 Body.empty), (4, .wake), (5, .timeOut)]

/-- A network in which this server is reached. -/
def dial : Dialer := .attempting (.ofMillis 2000) (.greeted Attempt.Visit.hello) visit

theorem makesAttempts_dial : dial.MakesAttempts :=
  Dialer.makesAttempts_attempting ⟨5, by simp [visit]⟩ _ _

theorem isSome_connect :
    (Client.connect dial .bare config hooks).result.toOption.isSome = true := by
  decide +kernel

/-- The client once it is connected. -/
def client : Client := (Client.connect dial .bare config hooks).result.toOption.get isSome_connect

theorem connect_eq : (Client.connect dial .bare config hooks).result = .ok client := by
  have hget : (Client.connect dial .bare config hooks).result.toOption = some client :=
    (Option.some_get isSome_connect).symm
  generalize (Client.connect dial .bare config hooks).result = result at hget
  cases result with
  | ok connected => exact congrArg Except.ok (Option.some.inj hget)
  | error e => cases hget

/-- The connection is lost.  Before the server answers the first request of the next one, the client
is closed. -/
def steps : List (Nat × Event) :=
  [(10, .pool (.conn 0 .shutdown)), (11, .pool (.lost 0)), (511, .pool (.rested 0)),
    (512, .pool (.greeted 0 (.ofMillis 2000) Attempt.Visit.hello)), (513, .close),
    (514, .proceed 0)]

/-- The call has come back, and a request still counts as one that waits, although the registry
showed none before. -/
theorem gauge_stuck_after_close :
    (Client.connect dial .bare config hooks).result = .ok client ∧
      hooks.metrics.map Metrics.inflight = some 0 ∧
      (client.live.run steps).1.calls = [⟨true, true⟩] ∧
      (client.live.run steps).1.pool.shared.metrics.summary = [3, 0, 0, 0, 1] := by
  refine ⟨connect_eq, rfl, ?_⟩
  decide +kernel

theorem gauge_of_closed_client_of_abandoned :
    (client.live.dropped steps).length = 1 ∧
      (client.live.run steps).1.pool.shared.metrics.inflight = 1 ∧
      (client.live.run steps).1.pool.shared.metrics.inflight ≠ 0 := by
  have hsize : client.pool.size < UInt64.size := by
    decide +kernel
  have hordinary : ∀ step ∈ steps, step.2.IsOrdinary := by
    simp [steps, Event.IsOrdinary, Pool.Event.IsOrdinary]
  have hfew : (client.live.run steps).1.pool.fleet.HasNumbers := by
    unfold Fleet.HasNumbers
    decide +kernel
  have hcall : (⟨true, true⟩ : CloseCall) ∈ (client.live.run steps).1.calls := by
    decide +kernel
  have hdropped : (client.live.dropped steps).length = 1 := by
    decide +kernel
  obtain ⟨hgauge, hback⟩ :=
    gauge_of_closed_client makesAttempts_dial connect_eq hsize hordinary hfew hcall rfl
  rw [hdropped] at hgauge
  refine ⟨hdropped, hgauge, fun hzero => ?_⟩
  rw [hback.1 hzero] at hdropped
  cases hdropped

end Abandoned

end LiveClient

end TupleWire

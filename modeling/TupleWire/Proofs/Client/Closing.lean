/-
  Closing a client, however often.

  Calls that close a client may begin at any time and go on in any order, while
  anything else happens to the pool.  The invariant is `Concluding`: the pool is
  closed once there is a call, the first call is the only one that tears it
  down, none comes back before that is done, and what the pool tells ends with
  that it is closed as soon as it is torn down, and not before.

  All this is about clients whose tasks do not overtake each other: a task comes
  to its next wait before another one goes on.  `Proofs/Client/Overtaking.lean`
  is about the others.
-/
import TupleWire.Client.Closing
import TupleWire.Proofs.Pool.Closing

set_option autoImplicit false

namespace TupleWire.LiveClient

variable {l : LiveClient} {now i : Nat} {told : List PoolEvent} {call : CloseCall}

/-! ## The invariant -/

/-- A client in use, and what its pool told so far. -/
structure Concluding (l : LiveClient) (told : List PoolEvent) : Prop where
  attended : l.pool.Attended
  closed : l.calls ≠ [] ↔ l.pool.isClosed = true
  /-- the first call tears the pool down -/
  first {i : Nat} {call : CloseCall} : l.calls[i]? = some call → (call.isTearing = true ↔ i = 0)
  unprobed : l.calls ≠ [] → l.isProbing = false
  returned {call : CloseCall} : call ∈ l.calls → call.hasReturned = true →
    l.pool.isTornDown = true
  untold : l.pool.isTornDown = false → .closed ∉ told
  toldLast : l.pool.isTornDown = true → ∃ before, told = before ++ [.closed] ∧ .closed ∉ before

namespace Concluding

/-- A client that is in use from now on, with an open pool. -/
theorem initial {config : PoolConfig} {pool : Pool} (h : Pool.Opened config pool)
    (isProbing : Bool) (runtime : Option (Managed Nat)) :
    Concluding { pool, isProbing, runtime } [] where
  attended := h.attended
  closed := by simp [h.isOpen]
  first hcall := by cases hcall
  unprobed hcalls := absurd rfl hcalls
  returned hcall := by cases hcall
  untold _ := List.not_mem_nil
  toldLast htorn := by
    rw [h.notTornDown] at htorn
    cases htorn

/-! ## Steps -/

/-- What happens to the pool by itself neither closes it nor tears it down; once that is done the
pool has nothing to tell. -/
theorem pool (h : Concluding l told) {event : Pool.Event} (hadmits : l.admits event = true) :
    Concluding { l with pool := (l.pool.step now event).1 }
      (told ++ (l.pool.step now event).2) := by
  have hshift := l.pool.step_shift now event
  have hclose : event ≠ .close := by
    rintro rfl
    cases hadmits
  have htear : event ≠ .tearDown := by
    rintro rfl
    cases hadmits
  obtain ⟨hclosed, htorn, hquiet⟩ := hshift.marks hclose htear
  refine ⟨h.attended.of_shift hshift, ?_, h.first, h.unprobed, fun hmem hreturned => ?_,
    fun hnot => ?_, fun hdone => ?_⟩
  · rw [hclosed]
    exact h.closed
  · rw [htorn]
    exact h.returned hmem hreturned
  · rw [htorn] at hnot
    rw [List.mem_append]
    rintro (hbefore | hnow)
    · exact h.untold hnot hbefore
    · exact hquiet hnow
  · -- Nothing is probed any more once there is a call, so a pool that is torn down is silent.
    rw [htorn] at hdone
    have hcalls : l.calls ≠ [] := h.closed.2 (h.attended.emptied hdone).1
    have hprobe (j : Nat) (valid : Bool) : event ≠ .probed j valid := by
      rintro rfl
      rw [admits, h.unprobed hcalls] at hadmits
      cases hadmits
    rw [hshift.silent h.attended hdone hprobe, List.append_nil]
    exact h.toldLast hdone

/-- A call that begins tears the pool down if and only if it is the first. -/
theorem beginClose (h : Concluding l told) (now : Nat) : Concluding (l.beginClose now) told := by
  obtain ⟨hclosed, htorn⟩ := l.pool.marks_close now
  have hnew : (!l.pool.isClosed) = true ↔ l.calls.length = 0 := by
    have hcalls := h.closed
    cases hopen : l.pool.isClosed with
    | true =>
        rw [hopen] at hcalls
        simp [hcalls.2 rfl]
    | false =>
        rw [hopen] at hcalls
        simpa using hcalls
  refine ⟨h.attended.of_shift (l.pool.close_shift now), ?_, fun {i call} hcall => ?_, fun _ => rfl,
    fun {call} hmem hreturned => ?_, fun hnot => h.untold (htorn ▸ hnot),
    fun hdone => h.toldLast (htorn ▸ hdone)⟩
  · exact iff_of_true (List.concat_ne_nil _ _) hclosed
  · have hcall' : (l.calls ++ [{ isTearing := !l.pool.isClosed }])[i]? = some call := hcall
    rcases Nat.lt_or_ge i l.calls.length with hlt | hge
    · rw [List.getElem?_append_left hlt] at hcall'
      exact h.first hcall'
    · rw [List.getElem?_append_right hge] at hcall'
      obtain ⟨hlast, _⟩ := List.getElem?_eq_some_iff.1 hcall'
      obtain rfl : i = l.calls.length := by
        rw [List.length_singleton] at hlast
        omega
      rw [Nat.sub_self] at hcall'
      cases hcall'
      exact hnew
  · rcases List.mem_append.1 hmem with hold | hnew
    · show (l.pool.close now).isTornDown = true
      rw [htorn]
      exact h.returned hold hreturned
    · rw [List.mem_singleton.1 hnew] at hreturned
      cases hreturned

/-- A call goes on to tear the pool down. -/
theorem tearDown (h : Concluding l told) (now : Nat) :
    Concluding { l with pool := (l.pool.tearDown now).1 } (told ++ (l.pool.tearDown now).2) := by
  cases hcan : l.pool.canTearDown with
  | false =>
      rw [Pool.tearDown_of_cannot hcan, List.append_nil]
      exact h
  | true =>
      have hattended := h.attended.of_shift (l.pool.tearDown_shift now)
      obtain ⟨htorn, htold⟩ := Pool.tearDown_of_can hcan now
      unfold Pool.canTearDown at hcan
      simp only [Bool.and_eq_true, Bool.not_eq_true'] at hcan
      obtain ⟨⟨hclosed, hnot⟩, _⟩ := hcan
      have hcalls : l.calls ≠ [] := h.closed.2 hclosed
      refine ⟨hattended, iff_of_true hcalls (hattended.emptied htorn).1, h.first, h.unprobed,
        fun _ _ => htorn, fun hnot => ?_, fun _ => ⟨told, ?_, h.untold hnot⟩⟩
      · have hnot' : (l.pool.tearDown now).1.isTornDown = false := hnot
        rw [htorn] at hnot'
        cases hnot'
      · rw [htold]

/-- A call comes back from a pool that is torn down. -/
theorem finish (h : Concluding l told) (hcall : l.calls[i]? = some call)
    (htorn : l.pool.isTornDown = true) : Concluding (l.finish i call) told := by
  have hlt : i < l.calls.length := (List.getElem?_eq_some_iff.1 hcall).1
  have hcalls : l.calls ≠ [] := List.ne_nil_of_length_pos (Nat.zero_lt_of_lt hlt)
  refine ⟨h.attended, ?_, fun {j other} hother => ?_, fun _ => h.unprobed hcalls,
    fun _ _ => htorn, h.untold, h.toldLast⟩
  · refine iff_of_true ?_ (h.closed.1 hcalls)
    intro hempty
    have hlength := congrArg List.length hempty
    rw [LiveClient.finish, List.length_set] at hlength
    exact hcalls (List.length_eq_zero_iff.1 hlength)
  · have hother' : (l.calls.set i { call with hasReturned := true })[j]? = some other := hother
    rcases getElem?_set_cases hother' with ⟨rfl, rfl⟩ | ⟨_, hold⟩
    · show call.isTearing = true ↔ j = 0
      exact h.first hcall
    · exact h.first hold

theorem proceed (h : Concluding l told) (now i : Nat) :
    Concluding (l.proceed now i).1 (told ++ (l.proceed now i).2) := by
  have hstill : Concluding l (told ++ []) := by
    rw [List.append_nil]
    exact h
  have hback {m : LiveClient} {told : List PoolEvent} {call : CloseCall} (hm : Concluding m told)
      (hcall : m.calls[i]? = some call) :
      Concluding (if m.pool.closeReturns then m.finish i call else m) told := by
    split
    · rename_i hreturns
      unfold Pool.closeReturns at hreturns
      simp only [Bool.and_eq_true] at hreturns
      exact hm.finish hcall hreturns.2
    · exact hm
  unfold LiveClient.proceed
  split
  · exact hstill
  · rename_i call hcall
    split
    · exact hstill
    · cases call.isTearing with
      | true => exact hback (h.tearDown now) hcall
      | false => exact hback hstill hcall

theorem step (h : Concluding l told) (now : Nat) (event : Event) :
    Concluding (l.step now event).1 (told ++ (l.step now event).2) := by
  cases event with
  | close =>
      show Concluding (l.beginClose now) (told ++ [])
      rw [List.append_nil]
      exact h.beginClose now
  | proceed i => exact h.proceed now i
  | pool event =>
      rw [LiveClient.step]
      split
      · rename_i hadmits
        exact h.pool hadmits
      · show Concluding l (told ++ [])
        rw [List.append_nil]
        exact h

theorem run (h : Concluding l told) (steps : List (Nat × Event)) :
    Concluding (l.run steps).1 (told ++ (l.run steps).2) := by
  induction steps generalizing l told with
  | nil =>
      show Concluding l (told ++ [])
      rw [List.append_nil]
      exact h
  | cons step rest ih =>
      have hlater := ih (h.step step.1 step.2)
      rw [List.append_assoc] at hlater
      exact hlater

end Concluding

/-! ## After the first call -/

/-- Where a call goes on, and has not come back before. -/
theorem proceed_of_call (hcall : l.calls[i]? = some call) (hwaiting : call.hasReturned = false)
    (now : Nat) :
    let pool := if call.isTearing then (l.pool.tearDown now).1 else l.pool
    (l.proceed now i).1 =
      if pool.closeReturns then { l with pool }.finish i call else { l with pool } := by
  rw [proceed, hcall]
  dsimp only
  rw [hwaiting, if_neg Bool.false_ne_true]
  cases call.isTearing with
  | true => rfl
  | false => rfl

theorem pool_ite_finish (l : LiveClient) (i : Nat) (call : CloseCall) :
    (if l.pool.closeReturns then l.finish i call else l).pool = l.pool := by
  split
  · rfl
  · rfl

/-- A call that goes on leaves the pool alone or tears it down, and may come back then. -/
theorem proceed_cases (l : LiveClient) (now i : Nat) :
    (l.proceed now i).1 = l ∨ ∃ call pool, (pool = l.pool ∨ pool = (l.pool.tearDown now).1) ∧
      (l.proceed now i).1 =
        if pool.closeReturns then { l with pool }.finish i call else { l with pool } := by
  cases hcall : l.calls[i]? with
  | none =>
      left
      rw [proceed, hcall]
  | some call =>
      cases hreturned : call.hasReturned with
      | true =>
          left
          rw [proceed, hcall]
          dsimp only
          rw [if_pos hreturned]
      | false =>
          right
          refine ⟨call, _, ?_, proceed_of_call hcall hreturned now⟩
          split
          · exact .inr rfl
          · exact .inl rfl

theorem pool_proceed (l : LiveClient) (now i : Nat) :
    (l.proceed now i).1.pool = l.pool ∨ (l.proceed now i).1.pool = (l.pool.tearDown now).1 := by
  rcases l.proceed_cases now i with hsame | ⟨call, pool, hpool, heq⟩
  · rw [hsame]
    exact .inl rfl
  · rw [heq, pool_ite_finish { l with pool }]
    exact hpool

theorem length_calls_proceed (l : LiveClient) (now i : Nat) :
    (l.proceed now i).1.calls.length = l.calls.length := by
  rcases l.proceed_cases now i with hsame | ⟨call, pool, _, heq⟩
  · rw [hsame]
  · rw [heq]
    split
    · exact List.length_set
    · rfl

/-- Whatever happens to a client, its pool makes no more than one step. -/
theorem pool_step (l : LiveClient) (now : Nat) (event : Event) :
    (l.step now event).1.pool = l.pool ∨
      ∃ poolEvent, (l.step now event).1.pool = (l.pool.step now poolEvent).1 := by
  cases event with
  | close => exact .inr ⟨.close, rfl⟩
  | pool event =>
      rw [step]
      split
      · exact .inr ⟨event, rfl⟩
      · exact .inl rfl
  | proceed i =>
      rcases l.pool_proceed now i with hsame | htorn
      · exact .inl hsame
      · exact .inr ⟨.tearDown, htorn⟩

/-- Once it is closed the pool of a client winds down. -/
theorem windsDown_run (hclosed : l.pool.isClosed = true) (steps : List (Nat × Event)) :
    l.pool.WindsDown (l.run steps).1.pool := by
  induction steps generalizing l with
  | nil => exact .refl hclosed
  | cons step rest ih =>
      have hfirst : l.pool.WindsDown (l.step step.1 step.2).1.pool := by
        rcases l.pool_step step.1 step.2 with hsame | ⟨event, hpool⟩
        · rw [hsame]
          exact .refl hclosed
        · rw [hpool]
          exact .of_shift hclosed (l.pool.step_shift step.1 event)
      exact hfirst.trans (ih hfirst.isClosed)

/-! ## Coming back -/

/-- A call comes back from a pool that is torn down as soon as it goes on. -/
theorem hasReturned_of_tornDown (h : Concluding l told) (htorn : l.pool.isTornDown = true)
    (hcall : l.calls[i]? = some call) (now : Nat) :
    ((l.proceed now i).1.calls[i]?.map CloseCall.hasReturned) = some true := by
  have hlt : i < l.calls.length := (List.getElem?_eq_some_iff.1 hcall).1
  cases hreturned : call.hasReturned with
  | true =>
      rw [proceed, hcall]
      dsimp only
      rw [if_pos hreturned, hcall]
      exact congrArg some hreturned
  | false =>
      have hcannot : l.pool.canTearDown = false := by simp [Pool.canTearDown, htorn]
      have hsame : (if call.isTearing then (l.pool.tearDown now).1 else l.pool) = l.pool := by
        rw [Pool.tearDown_of_cannot hcannot, ite_self]
      have hreturns : l.pool.closeReturns = true := by
        rw [Pool.closeReturns, (h.attended.emptied htorn).1, htorn]
        rfl
      rw [proceed_of_call hcall hreturned, hsame, if_pos hreturns]
      show ((l.calls.set i { call with hasReturned := true })[i]?.map _) = _
      rw [List.getElem?_set_self hlt]
      rfl

/-- Once the pool can be torn down, it is as soon as the first call goes on. -/
theorem isTornDown_of_proceed (h : Concluding l told)
    (hready : l.pool.isTornDown = true ∨ l.pool.canTearDown = true) (hcall : l.calls[0]? = some call)
    (now : Nat) : (l.proceed now 0).1.pool.isTornDown = true := by
  rcases hready with htorn | hcan
  · have hcannot : l.pool.canTearDown = false := by simp [Pool.canTearDown, htorn]
    rcases l.pool_proceed now 0 with hsame | hsame
    · rw [hsame]
      exact htorn
    · rw [hsame, Pool.tearDown_of_cannot hcannot]
      exact htorn
  · -- The first call cannot have come back before the pool was torn down.
    have hwaiting : call.hasReturned = false := by
      cases hreturned : call.hasReturned with
      | false => rfl
      | true =>
          have htorn := h.returned (List.mem_of_getElem? hcall) hreturned
          simp [Pool.canTearDown, htorn] at hcan
    rw [proceed_of_call hcall hwaiting, if_pos ((h.first hcall).2 rfl), pool_ite_finish
      { l with pool := (l.pool.tearDown now).1 }]
    exact (Pool.tearDown_of_can hcan now).1

/-- Once the time for pending requests is over the first call comes to its end, and then every other
call does. -/
theorem Concluding.comesBack (h : Concluding l told) (hi : i < l.calls.length) (now : Nat) :
    ((l.run [(now, .pool .graceOver), (now, .proceed 0), (now, .proceed i)]).1.calls[i]?.map
      CloseCall.hasReturned) = some true := by
  let waited : LiveClient := { l with pool := (l.pool.step now .graceOver).1 }
  have hwaited : Concluding waited (told ++ (l.pool.step now .graceOver).2) := h.pool rfl
  have hpos : 0 < waited.calls.length := Nat.zero_lt_of_lt hi
  have hready : waited.pool.isTornDown = true ∨ waited.pool.canTearDown = true := by
    cases hdone : l.pool.isTornDown with
    | false =>
        have hclosed : l.pool.isClosed = true := h.closed.1 (List.ne_nil_of_length_pos hpos)
        exact .inr (Pool.canTearDown_of_graceOver hclosed hdone now)
    | true =>
        have hmarks := (l.pool.step_shift now .graceOver).marks (by simp) (by simp)
        exact .inl (hmarks.2.1.trans hdone)
  have htorn := isTornDown_of_proceed hwaited hready (List.getElem?_eq_getElem hpos) now
  have hlength : i < (waited.proceed now 0).1.calls.length := by
    rw [length_calls_proceed]
    exact hi
  exact hasReturned_of_tornDown (hwaited.proceed now 0) htorn (List.getElem?_eq_getElem hlength) now

/-! ## Every run -/

/-- What is to be expected of a client that any number of callers close. -/
structure ClosesOnce (l : LiveClient) (told : List PoolEvent) : Prop where
  /-- of the calls exactly one, the first, tears the pool down -/
  tearing {i : Nat} {call : CloseCall} : l.calls[i]? = some call →
    (call.isTearing = true ↔ i = 0)
  /-- the pool tells once that it is closed, and nothing after that -/
  toldOnce {before after : List PoolEvent} : told = before ++ .closed :: after →
    .closed ∉ before ∧ after = []
  /-- it tells so when it is torn down -/
  told_iff : .closed ∈ told ↔ l.pool.isTornDown = true
  /-- no call comes back before that -/
  returned {call : CloseCall} : call ∈ l.calls → call.hasReturned = true →
    l.pool.isTornDown = true
  /-- from the first call on the pool refuses everything -/
  refuses : l.calls ≠ [] → l.pool.Refuses
  /-- and nothing is installed, whatever happens -/
  windsDown : l.calls ≠ [] → ∀ more, l.pool.WindsDown (l.run more).1.pool
  /-- when it is torn down every slot is empty, and every connection that was ever installed is
  closed -/
  emptied : l.pool.isTornDown = true →
    (∀ s ∈ l.pool.slots, s.conn = none) ∧ ∀ c ∈ l.pool.conns, c.isClosed = true
  /-- every call can come back -/
  comesBack {i : Nat} : i < l.calls.length → ∀ now,
    ((l.run [(now, .pool .graceOver), (now, .proceed 0), (now, .proceed i)]).1.calls[i]?.map
      CloseCall.hasReturned) = some true

theorem Concluding.closesOnce (h : Concluding l told) : ClosesOnce l told := by
  have htold : .closed ∈ told ↔ l.pool.isTornDown = true := by
    cases htorn : l.pool.isTornDown with
    | true =>
        obtain ⟨before, rfl, _⟩ := h.toldLast htorn
        simp
    | false => simp [h.untold htorn]
  refine ⟨h.first, fun {before after} hsplit => ?_, htold, h.returned,
    fun hcalls => Pool.refuses_of_closed (h.closed.1 hcalls),
    fun hcalls more => windsDown_run (h.closed.1 hcalls) more,
    fun htorn => h.attended.isClosed_of_tornDown htorn, h.comesBack⟩
  have htorn : l.pool.isTornDown = true := by
    apply htold.1
    rw [hsplit]
    simp
  obtain ⟨earlier, hlast, hearlier⟩ := h.toldLast htorn
  rw [hlast] at hsplit
  -- Both say where what is told ends; were there more behind it, it would have been told before.
  rcases List.eq_nil_or_concat after with rfl | ⟨rest, last, rfl⟩
  · obtain ⟨rfl, _⟩ := List.append_inj' hsplit rfl
    exact ⟨hearlier, rfl⟩
  · have hlonger : earlier ++ [.closed] = (before ++ .closed :: rest) ++ [last] := by
      rw [hsplit, List.concat_eq_append, List.append_assoc, List.cons_append]
    obtain ⟨rfl, _⟩ := List.append_inj' hlonger rfl
    exact absurd (by simp) hearlier

/-- A connect that succeeds has a configuration without fault, attaches the registry and starts the
pool. -/
theorem startPool_of_connect {dial : Dialer} {host : Host} {config : ClientConfig}
    {hooks : ClientHooks} {client : Client}
    (hconnect : (Client.connect dial host config hooks).result = .ok client) :
    config.validate = .ok () ∧ ∃ policy metrics, Client.attach hooks.metrics = .ok metrics ∧
      Client.connect dial host config hooks =
        Client.startPool dial config hooks policy metrics := by
  unfold Client.connect at hconnect ⊢
  cases hplan : Client.plan config with
  | error e =>
      rw [hplan] at hconnect
      cases hconnect
  | ok policy =>
      have hvalid : config.validate = .ok () := by
        unfold Client.plan at hplan
        split at hplan
        · cases hplan
        · assumption
      rw [hplan] at hconnect
      dsimp only at hconnect ⊢
      split at hconnect
      · cases hconnect
      · rename_i metrics hattach
        split at hconnect
        · cases hconnect
        · split at hconnect
          · cases hconnect
          · exact ⟨hvalid, policy, metrics, hattach, rfl⟩

/-- The pool of a client is started with the results of the first attempts. -/
theorem start_of_startPool {dial : Dialer} {config : ClientConfig} {hooks : ClientHooks}
    {policy : Policy} {metrics : Option Metrics} {client : Client}
    (h : (Client.startPool dial config hooks policy metrics).result = .ok client) :
    let dialled := Client.dialAll dial (Pool.slotsOf config.groups)
      (Client.sharedOf config metrics)
    Pool.start config.pool config.groups dialled.2 0 dialled.1 =
      (.ok client.pool, (Client.startPool dial config hooks policy metrics).events) := by
  unfold Client.startPool at h ⊢
  generalize Client.dialAll dial (Pool.slotsOf config.groups) (Client.sharedOf config metrics) =
    dialled at h ⊢
  dsimp only at h ⊢
  cases hstart : Pool.start config.pool config.groups dialled.2 0 dialled.1 with
  | mk started events =>
      rw [hstart] at h
      cases started with
      | error e => cases h
      | ok pool =>
          cases h
          rfl

/-- A client is connected with an open pool. -/
theorem opened_of_connect {dial : Dialer} {host : Host} {config : ClientConfig}
    {hooks : ClientHooks} {client : Client}
    (hconnect : (Client.connect dial host config hooks).result = .ok client) :
    Pool.Opened config.pool client.pool := by
  obtain ⟨_, policy, metrics, _, hstarts⟩ := startPool_of_connect hconnect
  rw [hstarts] at hconnect
  exact .of_start (start_of_startPool hconnect)

/-- However many callers close a client, and whenever they begin and go on, in between operations of
its pool, lost connections and attempts to replace them: if no task overtakes another, one of the
calls tears the pool down, once and for all. -/
theorem closes_once {dial : Dialer} {host : Host} {config : ClientConfig} {hooks : ClientHooks}
    {client : Client} (hconnect : (Client.connect dial host config hooks).result = .ok client)
    (steps : List (Nat × Event)) :
    ClosesOnce (client.live.run steps).1 (client.live.run steps).2 := by
  have hbegun : Concluding client.live [] :=
    Concluding.initial (opened_of_connect hconnect) _ _
  exact (hbegun.run steps).closesOnce

namespace Farewell

/-- One connection to one instance. -/
def config : ClientConfig :=
  { groups := [{ tag := "default", host := "localhost", port := 3301, size := 1 }] }

/-- A network in which every attempt succeeds. -/
def dial : Dialer := fun group index shared =>
  (.ok { tag := group.tag, index, salt := [], requestTimeout := .ofMillis 1000,
         lifecycle := .ready }, shared)

/-- The client once it is connected. -/
def client : Client where
  config
  pool := (Pool.start config.pool config.groups (Client.sharedOf config none) 0
    (Client.dialAll dial (Pool.slotsOf config.groups)
      (Client.sharedOf config none)).1).1.toOption.getD
        { config := config.pool, slots := [], shared := {} }
  policy := .roundRobin 0
  fetcher := some { policy := config.schema.versionPolicy }
  runtime := .owned 2

/-- Two callers close the client while a request is pending; the second would like to come back
before the first, and a third one closes the client when all is over. -/
def steps : List (Nat × Event) :=
  [(1, .pool (.conn 0 (.request .ping {}))), (2, .close), (3, .close), (4, .proceed 1),
    (5, .proceed 0), (1002, .pool .graceOver), (1003, .proceed 1), (1004, .proceed 0),
    (1005, .proceed 1), (1006, .close), (1007, .proceed 2), (1008, .pool (.lost 0))]

-- The first of the three tears the pool down, and all come back.
example : (client.live.run steps).1.calls = [⟨true, true⟩, ⟨false, true⟩, ⟨false, true⟩] ∧
    (client.live.run steps).2 = [.closed] ∧ (client.live.run steps).1.released = [2] := by
  decide +kernel

end Farewell

end TupleWire.LiveClient

/-
  What a server has to support for what is sent to it.

  Names of spaces and indexes, watching, one-time reads and streams go on the wire
  only where the two sides have agreed on them.  Each operation is checked before
  anything of the connection changes, and what is sent later without a check of
  its own rests on an earlier one: an acknowledgement on the watch that
  registered its callback, a request in a stream on the opening of the stream.
  `Backed` is the invariant that remembers those.
-/
import TupleWire.Proofs.Connection.Queue

set_option autoImplicit false

namespace TupleWire

/-! ## Demands -/

/-- What a target demands where names stand for a capability. -/
def Target.demand (t : Target) (named : Capability) : List Capability :=
  if t.isName then [named] else []

/-- What a request demands of the server, in the order in which it is looked at. -/
def Request.demands : Request → List Capability
  | select space index _ _ | update space index _ _ | delete space index _ =>
      space.demand .spaceByName ++ index.demand .indexByName
  | insert space _ | replace space _ | upsert space _ _ => space.demand .spaceByName
  | watchOnce _ => [.watchOnce]
  | ping | call _ _ | eval _ _ | authorize _ _ | custom _ _ => []

/-- What an action demands of the server, in the order in which it is looked at. -/
def Action.demands : Action → List Capability
  | .request r _ => r.demands
  | .watch _ _ | .unwatch _ => [.watch]
  | .openStream => [.stream]
  | _ => []

namespace Negotiated

/-- The first of some demands that is not met. -/
def missing? (n : Negotiated) (demands : List Capability) : Option Capability :=
  demands.find? fun demand => !n.allows demand

/-- Demands some capabilities, one after the other; refuses by naming the first that is missing. -/
def checkAll (n : Negotiated) (demands : List Capability) : Except Capability Unit :=
  match n.missing? demands with
  | none => .ok ()
  | some capability => .error capability

variable {n : Negotiated}

theorem missing?_eq_none_iff {demands : List Capability} :
    n.missing? demands = none ↔ ∀ demand ∈ demands, n.allows demand = true := by
  simp [missing?]

theorem checkAll_eq_ok_iff {demands : List Capability} :
    n.checkAll demands = .ok () ↔ ∀ demand ∈ demands, n.allows demand = true := by
  rw [← missing?_eq_none_iff, checkAll]
  cases n.missing? demands <;> simp

theorem checkAll_eq_error_iff {demands : List Capability} {capability : Capability} :
    n.checkAll demands = .error capability ↔ n.missing? demands = some capability := by
  rw [checkAll]
  cases n.missing? demands <;> simp

theorem checkAll_singleton (demand : Capability) : n.checkAll [demand] = n.check demand := by
  rw [checkAll, check, missing?]
  cases h : n.allows demand <;> simp [h]

theorem checkAll_append (first second : List Capability) :
    n.checkAll (first ++ second) =
      match n.checkAll first with
      | .error capability => .error capability
      | .ok () => n.checkAll second := by
  simp only [checkAll, missing?, List.find?_append]
  cases first.find? fun demand => !n.allows demand <;> rfl

theorem checkAll_demand (t : Target) (named : Capability) :
    n.checkAll (t.demand named) = if t.isName then n.check named else .ok () := by
  unfold Target.demand
  split
  · exact checkAll_singleton named
  · rfl

theorem checkTargets_none (space : Target) :
    n.checkTargets space none = n.checkAll (space.demand .spaceByName) := by
  rw [checkAll_demand, checkTargets]
  cases (if space.isName then n.check .spaceByName else .ok ()) <;> rfl

/-- The space of a request is looked at before the index. -/
theorem checkTargets_some (space index : Target) :
    n.checkTargets space (some index) =
      n.checkAll (space.demand .spaceByName ++ index.demand .indexByName) := by
  rw [checkAll_append, checkAll_demand, checkAll_demand, checkTargets]
  cases (if space.isName then n.check .spaceByName else .ok ()) <;> rfl

end Negotiated

namespace Request

variable {n : Negotiated} {r : Request} {capability : Capability}

theorem refuse_eq_ok_iff {checked : Except Capability Unit} :
    refuse checked = .ok () ↔ checked = .ok () := by
  cases checked <;> simp [refuse]

theorem refuse_eq_unsupported_iff {checked : Except Capability Unit} :
    refuse checked = .error (.unsupported capability) ↔ checked = .error capability := by
  cases checked <;> simp [refuse]

/-- A request is refused for what it demands, or for making no sense, in which case it demands
nothing. -/
theorem check_cases (r : Request) (n : Negotiated) :
    r.check n = refuse (n.checkAll r.demands) ∨
      r.demands = [] ∧ ∀ capability, r.check n ≠ .error (.unsupported capability) := by
  cases r with
  | select space index | update space index | delete space index =>
      refine .inl ?_
      rw [demands, ← Negotiated.checkTargets_some]
      rfl
  | insert space | replace space | upsert space =>
      refine .inl ?_
      rw [demands, ← Negotiated.checkTargets_none]
      rfl
  | watchOnce key =>
      refine .inl ?_
      rw [demands, Negotiated.checkAll_singleton]
      rfl
  | call | eval | authorize =>
      refine .inr ⟨rfl, fun capability => ?_⟩
      simp only [check]
      split
      · simp
      · simp
  | ping | custom => exact .inr ⟨rfl, by simp [check]⟩

theorem allows_of_check (h : r.check n = .ok ()) :
    ∀ demand ∈ r.demands, n.allows demand = true := by
  rcases r.check_cases n with hrefuse | ⟨hnothing, _⟩
  · rw [hrefuse, refuse_eq_ok_iff] at h
    exact Negotiated.checkAll_eq_ok_iff.1 h
  · rw [hnothing]
    simp

theorem check_eq_unsupported_iff :
    r.check n = .error (.unsupported capability) ↔ n.missing? r.demands = some capability := by
  rcases r.check_cases n with hrefuse | ⟨hnothing, hother⟩
  · rw [hrefuse, refuse_eq_unsupported_iff, Negotiated.checkAll_eq_error_iff]
  · rw [hnothing]
    exact ⟨fun h => absurd h (hother capability), fun h => nomatch h⟩

end Request

namespace Connection

variable {c : Connection} {now : Nat} {action : Action} {capability : Capability}

/-! ## Refusals -/

theorem withReceipt_eq_error_iff {α : Type} {receipt : α → Receipt}
    {outcome : Except ClientError α × Connection × List Effect} {e : ClientError} :
    (withReceipt receipt outcome).1 = .error e ↔ outcome.1 = .error e := by
  obtain ⟨result, rest⟩ := outcome
  cases result <;> simp [withReceipt, Except.map]

/-- What is sent without a check is not refused. -/
theorem send_ne_contract (c : Connection) (now : Nat) (kind : RequestType) (body : Body)
    (options : RequestOptions) (streamId : Option UInt64) (refusal : Refusal) :
    (c.send now kind body options streamId).1 ≠ .error (.contract refusal) := by
  unfold send
  split
  · simp
  · dsimp only
    split
    · simp
    · simp

theorem sendOneway_ne_contract (c : Connection) (kind : RequestType) (body : Body)
    (refusal : Refusal) : (c.sendOneway kind body).1 ≠ .error (.contract refusal) := by
  unfold sendOneway
  split
  · simp
  · dsimp only
    split
    · simp
    · simp

/-- An action that demands what is missing is refused for the first of it and changes nothing. -/
theorem act_of_missing (now : Nat) (h : c.negotiated.missing? action.demands = some capability) :
    c.act now action = (.error (.contract (.unsupported capability)), c, []) := by
  have hsingle {demand : Capability} (hmissing : c.negotiated.missing? [demand] = some capability) :
      c.negotiated.allows demand = false ∧ capability = demand := by
    rw [← Negotiated.checkAll_eq_error_iff, Negotiated.checkAll_singleton,
      Negotiated.check] at hmissing
    cases hallows : c.negotiated.allows demand with
    | true => simp [hallows] at hmissing
    | false =>
        rw [hallows] at hmissing
        cases hmissing
        exact ⟨rfl, rfl⟩
  cases action with
  | request r options =>
      have hcheck : r.check c.negotiated = .error (.unsupported capability) :=
        Request.check_eq_unsupported_iff.2 h
      simp only [act, request, hcheck]
      rfl
  | watch key callback =>
      obtain ⟨hcan, rfl⟩ := hsingle h
      rw [act, watch_eq_ask, ask_of_not_canWatch hcan]
      rfl
  | unwatch key =>
      obtain ⟨hcan, rfl⟩ := hsingle h
      rw [act, unwatch_eq_ask, ask_of_not_canWatch hcan]
      rfl
  | openStream =>
      obtain ⟨hallows, rfl⟩ := hsingle h
      rw [act_openStream, if_neg (by simp [hallows])]
  | inStream | oneway | receive | expire | drain | shutdown | setLifecycle | agree => cases h

/-- An action that demands nothing that is missing is not refused for a missing capability. -/
theorem act_ne_unsupported (now : Nat) (h : c.negotiated.missing? action.demands = none) :
    (c.act now action).1 ≠ .error (.contract (.unsupported capability)) := by
  cases action with
  | request r options =>
      rw [act, Ne, withReceipt_eq_error_iff]
      cases hcheck : r.check c.negotiated with
      | ok _ =>
          simp only [request, hcheck]
          exact send_ne_contract _ _ _ _ _ _ _
      | error refusal =>
          simp only [request, hcheck]
          intro hrefused
          cases hrefused
          have hmissing : c.negotiated.missing? r.demands = some capability :=
            Request.check_eq_unsupported_iff.1 hcheck
          cases h.symm.trans hmissing
  | inStream stream r options =>
      rw [act, Ne, withReceipt_eq_error_iff]
      exact send_ne_contract _ _ _ _ _ _ _
  | oneway kind body =>
      rw [act, Ne, withReceipt_eq_error_iff]
      exact sendOneway_ne_contract _ _ _ _
  | watch key callback =>
      have hcan : c.canWatch = true :=
        Negotiated.missing?_eq_none_iff.1 h _ (List.mem_singleton_self _)
      rw [act, Ne, withReceipt_eq_error_iff, watch_eq_ask, ask_of_canWatch hcan]
      exact sendOneway_ne_contract _ _ _ _
  | unwatch key =>
      have hcan : c.canWatch = true :=
        Negotiated.missing?_eq_none_iff.1 h _ (List.mem_singleton_self _)
      rw [act, Ne, withReceipt_eq_error_iff, unwatch_eq_ask, ask_of_canWatch hcan]
      exact sendOneway_ne_contract _ _ _ _
  | openStream =>
      have hallows : c.negotiated.allows .stream = true :=
        Negotiated.missing?_eq_none_iff.1 h _ (List.mem_singleton_self _)
      rw [act_openStream, if_pos hallows]
      simp
  | receive | expire | drain | shutdown | setLifecycle | agree => simp [act]

/-- An action is refused for a missing capability if and only if it demands one that is missing;
the first of them is named. -/
theorem act_eq_unsupported_iff (now : Nat) :
    (c.act now action).1 = .error (.contract (.unsupported capability)) ↔
      c.negotiated.missing? action.demands = some capability := by
  constructor
  · intro hrefused
    cases hmissing : c.negotiated.missing? action.demands with
    | none => exact absurd hrefused (act_ne_unsupported now hmissing)
    | some other =>
        rw [act_of_missing now hmissing] at hrefused
        cases hrefused
        rfl
  · intro hmissing
    rw [act_of_missing now hmissing]

end Connection

/-! ## Names in bodies -/

/-- Whether a body names a space or an index. -/
def Body.HasNames (body : Body) : Prop :=
  body.get? Key.spaceName ≠ none ∨ body.get? Key.indexName ≠ none

namespace Body

variable {body : Body} {key : UInt8} {value : Value} {t : Target}

theorem not_hasNames_empty : ¬ Body.empty.HasNames := by
  rintro (hspace | hindex)
  · exact hspace rfl
  · exact hindex rfl

theorem hasNames_insert (hspace : key ≠ Key.spaceName) (hindex : key ≠ Key.indexName) :
    HasNames (body.insert key value) ↔ body.HasNames := by
  rw [HasNames, SortedMap.get?_insert, SortedMap.get?_insert, if_neg hspace, if_neg hindex]
  rfl

theorem hasNames_writeSpace : HasNames (t.writeSpace body) ↔ t.isName = true ∨ body.HasNames := by
  cases t with
  | byId id =>
      rw [Target.writeSpace, hasNames_insert (by decide) (by decide)]
      simp [Target.isName]
  | byName name =>
      rw [Target.writeSpace, HasNames, SortedMap.get?_insert, if_pos rfl]
      simp [Target.isName]

theorem hasNames_writeIndex : HasNames (t.writeIndex body) ↔ t.isName = true ∨ body.HasNames := by
  cases t with
  | byId id =>
      rw [Target.writeIndex, hasNames_insert (by decide) (by decide)]
      simp [Target.isName]
  | byName name =>
      rw [Target.writeIndex, HasNames, SortedMap.get?_insert _ _ Key.indexName, if_pos rfl]
      simp [Target.isName]

theorem not_hasNames_watch (key : String) : ¬ (Body.watch key).HasNames := by
  rw [Body.watch, hasNames_insert (by decide) (by decide)]
  exact not_hasNames_empty

end Body

/-- A request whose body names a space or an index demands that names are understood. -/
theorem Request.demands_of_hasNames {r : Request} {salt : Bytes}
    (hcustom : ∀ kind body, r ≠ .custom kind body) (h : (r.body salt).HasNames) :
    .spaceByName ∈ r.demands ∨ .indexByName ∈ r.demands := by
  have hdemand {t : Target} {named : Capability} (ht : t.isName = true) :
      named ∈ t.demand named := by
    rw [Target.demand, if_pos ht]
    exact List.mem_singleton_self named
  cases r with
  | custom kind body => exact absurd rfl (hcustom kind body)
  | select space index | update space index | delete space index =>
      simp (disch := decide) only [body, Body.select, Body.update, Body.delete,
        Body.hasNames_writeIndex, Body.hasNames_writeSpace, Body.hasNames_insert,
        Body.not_hasNames_empty, or_false] at h
      rcases h with hindex | hspace
      · exact .inr (List.mem_append_right _ (hdemand hindex))
      · exact .inl (List.mem_append_left _ (hdemand hspace))
  | insert space | replace space | upsert space =>
      simp (disch := decide) only [body, Body.store, Body.upsert, Body.hasNames_writeSpace,
        Body.hasNames_insert, Body.not_hasNames_empty, or_false] at h
      exact .inl (hdemand h)
  | ping => exact absurd h Body.not_hasNames_empty
  | watchOnce key => exact absurd h (Body.not_hasNames_watch key)
  | call | eval | authorize =>
      simp (disch := decide) only [body, Body.call, Body.eval, Body.auth, Body.hasNames_insert,
        Body.not_hasNames_empty] at h

/-- A request in a stream has no room for names. -/
theorem StreamRequest.not_hasNames_body (r : StreamRequest) : ¬ r.body.HasNames := by
  cases r with
  | begin timeout =>
      rw [body, Body.begin]
      split
      · rw [Body.hasNames_insert (by decide) (by decide)]
        exact Body.not_hasNames_empty
      · exact Body.not_hasNames_empty
  | commit | rollback => exact Body.not_hasNames_empty
  | call | eval =>
      simp (disch := decide) only [body, Body.call, Body.eval, Body.hasNames_insert,
        Body.not_hasNames_empty, not_false_eq_true]
  | insert space tuple =>
      rw [body, Body.store, Body.hasNames_writeSpace, Body.hasNames_insert (by decide) (by decide)]
      simp [Target.isName, Body.not_hasNames_empty]

/-! ## What is agreed on, and what it permits -/

/-- Whether a packet keeps to what is agreed on. -/
structure Negotiated.Permits (n : Negotiated) (p : Packet) : Prop where
  /-- names only if the server understands them -/
  names : p.body.HasNames → n.features.contains .spaceAndIndexNames = true
  /-- also where a notification is acknowledged -/
  watching : p.header.code = RequestType.watch.code ∨ p.header.code = RequestType.unwatch.code →
    n.features.contains .watchers = true
  streams : p.header.streamId ≠ none → n.features.contains .streams = true
  once : p.header.code = RequestType.watchOnce.code → 6 ≤ n.version

/-- Whether an action is offered as such, given what is agreed on and the streams that were opened:
nothing that the caller lays out by itself, no stream that the connection did not open, and an
agreement with the server only where there was none before. -/
def Action.isOffered (negotiated : Negotiated) (streams : List UInt64) : Action → Bool
  | .request (.custom kind body) _ =>
      kind == .id && body == Body.identify protocolVersion .all
  | .inStream stream _ _ => streams.contains stream
  | .oneway _ _ => false
  | .agree _ => negotiated == .nothing
  | _ => true

namespace Connection

/-- Whether everything that happens to a connection is offered as such, given the streams that
were opened before. -/
def isOrderly (c : Connection) (streams : List UInt64) : List (Nat × Action) → Bool
  | [] => true
  | (now, action) :: rest =>
      let m : Moment := ⟨c, now, action⟩
      action.isOffered c.negotiated streams &&
        isOrderly m.after (streams ++ m.opened?.toList) rest

/-- What was checked earlier on and is not checked again: watching where there is a callback, and
streams where one was opened. -/
structure Backed (c : Connection) (streams : List UInt64) : Prop where
  watching {key : String} {callback : WatchCallback} :
    c.watchers.get? key = some callback → c.canWatch = true
  opened : streams ≠ [] → c.negotiated.allows .stream = true

variable {c : Connection} {now : Nat} {action : Action} {streams : List UInt64}

theorem backed_spawned (tag : String) (index : Nat) (salt : Bytes) (requestTimeout : Duration) :
    Backed (spawned tag index salt requestTimeout) [] where
  watching h := nomatch h
  opened h := absurd rfl h

/-- Callbacks change only where the two sides have agreed on watching, and what is agreed on only
where it is told. -/
theorem negotiated_act (now : Nat) (h : ∀ negotiated, action ≠ .agree negotiated) :
    (c.act now action).2.1.negotiated = c.negotiated ∧
      ((c.act now action).2.1.watchers = c.watchers ∨ c.canWatch = true) := by
  cases action with
  | agree negotiated => exact absurd rfl (h negotiated)
  | watch key callback =>
      obtain ⟨issued, hconn⟩ := c.conn_watch now key callback
      rw [hconn]
      cases c.canWatch with
      | true => exact ⟨rfl, .inr rfl⟩
      | false => exact ⟨rfl, .inl rfl⟩
  | unwatch key =>
      obtain ⟨issued, hconn⟩ := c.conn_unwatch now key
      rw [hconn]
      cases c.canWatch with
      | true => exact ⟨rfl, .inr rfl⟩
      | false => exact ⟨rfl, .inl rfl⟩
  | request | inStream | oneway | openStream | receive | expire | drain | shutdown | setLifecycle =>
      exact ⟨(watches_act _ _ (by trivial)).1, .inl (watches_act _ _ (by trivial)).2⟩

/-- What is offered as such keeps what was checked before. -/
theorem Backed.act (h : Backed c streams) (now : Nat)
    (hoffered : action.isOffered c.negotiated streams = true) :
    Backed (c.act now action).2.1 (streams ++ (Moment.opened? ⟨c, now, action⟩).toList) := by
  by_cases hagree : ∃ negotiated, action = .agree negotiated
  · -- where nothing was agreed on there are neither callbacks nor streams
    obtain ⟨negotiated, rfl⟩ := hagree
    have hnothing : c.negotiated = .nothing := beq_iff_eq.1 hoffered
    have hstreams : streams = [] := by
      by_contra hne
      have hallows := h.opened hne
      rw [hnothing] at hallows
      cases hallows
    subst hstreams
    refine ⟨fun {key callback} hget => ?_, fun hne => absurd rfl hne⟩
    have hcan : c.canWatch = true := h.watching hget
    rw [canWatch, hnothing] at hcan
    cases hcan
  · obtain ⟨hnegotiated, hwatchers⟩ :=
      negotiated_act (c := c) now fun negotiated heq => hagree ⟨negotiated, heq⟩
    refine ⟨fun {key callback} hget => ?_, fun hne => ?_⟩
    · rw [canWatch, hnegotiated]
      rcases hwatchers with hsame | hcan
      · exact h.watching (hsame ▸ hget)
      · exact hcan
    · rw [hnegotiated]
      cases hopened : Moment.opened? ⟨c, now, action⟩ with
      | some n => exact (Moment.of_opened? hopened).1
      | none =>
          rw [hopened, Option.toList_none, List.append_nil] at hne
          exact h.opened hne

/-- What a frame of some type has to show for keeping to what is agreed on. -/
theorem permits_of_kind {n : Negotiated} {kind : RequestType}
    {schemaVersion streamId : Option UInt64} {body : Body} (names : body.HasNames → n.features.contains .spaceAndIndexNames = true)
    (watching : kind = .watch ∨ kind = .unwatch → n.features.contains .watchers = true)
    (streams : streamId ≠ none → n.features.contains .streams = true)
    (once : kind = .watchOnce → 6 ≤ n.version) :
    n.Permits ⟨c.nextHeader kind schemaVersion streamId, body⟩ where
  names := names
  watching h := watching (h.imp RequestType.code_injective RequestType.code_injective)
  streams := streams
  once h := once (RequestType.code_injective h)

/-- What the server is told about the watching of a key. -/
theorem permits_watch {kind : RequestType} {key : String} (hcan : c.canWatch = true)
    (hkind : kind = .watch ∨ kind = .unwatch) :
    c.negotiated.Permits ⟨c.nextHeader kind none none, Body.watch key⟩ := by
  refine permits_of_kind (fun hnames => absurd hnames (Body.not_hasNames_watch key))
    (fun _ => hcan) (fun hstream => absurd rfl hstream) (fun honce => ?_)
  rcases hkind with rfl | rfl
  · cases honce
  · cases honce

/-- A request that was checked. -/
theorem permits_request {r : Request} {schemaVersion : Option UInt64}
    (hcustom : ∀ kind body, r ≠ .custom kind body) (hchecked : r.check c.negotiated = .ok ()) :
    c.negotiated.Permits ⟨c.nextHeader r.kind schemaVersion none, r.body c.salt⟩ := by
  have hallows := Request.allows_of_check hchecked
  refine permits_of_kind (fun hnames => ?_) (fun hwatch => ?_) (fun hstream => absurd rfl hstream)
    (fun honce => ?_)
  · rcases Request.demands_of_hasNames hcustom hnames with hspace | hindex
    · exact hallows _ hspace
    · exact hallows _ hindex
  · cases r with
    | custom kind body => exact absurd rfl (hcustom kind body)
    | _ => simp [Request.kind] at hwatch
  · cases r with
    | custom kind body => exact absurd rfl (hcustom kind body)
    | watchOnce key => exact of_decide_eq_true (hallows .watchOnce (List.mem_singleton_self _))
    | _ => cases honce

/-- What an offered action sends keeps to what is agreed on. -/
theorem Backed.permits {packet : Packet} (h : Backed c streams)
    (hoffered : action.isOffered c.negotiated streams = true) (hsends : Sends c action packet) :
    c.negotiated.Permits packet := by
  cases hsends with
  | @request r options hchecked =>
      by_cases hcustom : ∃ kind body, r = .custom kind body
      · obtain ⟨kind, body, rfl⟩ := hcustom
        obtain ⟨rfl, rfl⟩ : kind = .id ∧ body = Body.identify protocolVersion .all := by
          simpa [Action.isOffered] using hoffered
        refine permits_of_kind (fun hnames => ?_) (by simp [Request.kind])
          (fun hstream => absurd rfl hstream) (by simp [Request.kind])
        simp (disch := decide) only [Request.body, Body.identify, Body.hasNames_insert,
          Body.not_hasNames_empty] at hnames
      · exact permits_request (fun kind body heq => hcustom ⟨kind, body, heq⟩) hchecked
  | @inStream stream r options =>
      have hopened : stream ∈ streams := by simpa [Action.isOffered] using hoffered
      refine permits_of_kind (fun hnames => absurd hnames r.not_hasNames_body) ?_
        (fun _ => h.opened (List.ne_nil_of_mem hopened)) ?_
      · cases r <;> simp [StreamRequest.kind]
      · cases r <;> simp [StreamRequest.kind]
  | oneway => cases hoffered
  | watch hcan => exact permits_watch hcan (.inl rfl)
  | unwatch hcan => exact permits_watch hcan (.inr rfl)
  | acknowledgement hwatched => exact permits_watch (h.watching hwatched) (.inl rfl)

/-! ## Runs -/

theorem Backed.history {c : Connection} {streams : List UInt64} {steps : List (Nat × Action)}
    (h : Backed c streams) (horderly : c.isOrderly streams steps = true) :
    ∀ m ∈ c.history steps, ∀ packet, m.packet? = some packet →
      m.conn.negotiated.Permits packet := by
  induction steps generalizing c streams with
  | nil =>
      intro m hm
      cases hm
  | cons step rest ih =>
      obtain ⟨now, action⟩ := step
      obtain ⟨hoffered, hrest⟩ := Bool.and_eq_true_iff.1 horderly
      intro m hm packet hpacket
      rcases List.mem_cons.1 hm with rfl | hm
      · exact h.permits hoffered (Moment.sends_of_packet? hpacket).1
      · exact ih (h.act now hoffered) hrest m hm packet hpacket

/-- Whatever is asked of a new connection of what it offers, and whatever comes in, in any order:
no frame that is ever queued, an acknowledgement neither, uses what was not agreed on; an action is
refused for a missing capability if and only if it demands one, the space of a request before its
index, and then it is refused in the words for the first that is missing, and leaves the
connection, the queue and everything shared as they were. -/
theorem frames_are_supported (tag : String) (index : Nat) (salt : Bytes)
    (requestTimeout : Duration) (steps : List (Nat × Action))
    (horderly : (spawned tag index salt requestTimeout).isOrderly [] steps = true) :
    ∀ m ∈ (spawned tag index salt requestTimeout).history steps,
      (∀ packet, m.packet? = some packet → m.conn.negotiated.Permits packet) ∧
      ∀ capability,
        (m.result = .error (.contract (.unsupported capability)) ↔
          m.conn.negotiated.missing? m.action.demands = some capability) ∧
        (m.result = .error (.contract (.unsupported capability)) →
          (ClientError.contract (.unsupported capability)).message = capability.refusal ∧
            m.after = m.conn ∧ m.effects = []) := by
  intro m hm
  refine ⟨(backed_spawned tag index salt requestTimeout).history horderly m hm,
    fun capability => ⟨act_eq_unsupported_iff m.now, fun hrefused => ?_⟩⟩
  have hmissing := (act_eq_unsupported_iff m.now).1 hrefused
  have hact := act_of_missing m.now hmissing
  refine ⟨rfl, ?_, ?_⟩
  · rw [Moment.after, hact]
  · rw [Moment.effects, hact]

/-- A space and an index are named before it is known that the server understands names and again
after that; then a key is watched, changes and is read once, and a stream is used. -/
theorem frames_are_supported_once_agreed :
    let c := spawned "default" 0 [] (.ofMillis 1000)
    let byName : Action := .request (.select (.byName "users") (.byName "age") [] {}) {}
    let steps : List (Nat × Action) :=
      [(0, byName), (1, .agree ⟨6, .all⟩), (2, byName), (3, .watch "config" ⟨0⟩),
        (4, .receive (notification "config")), (5, .request (.watchOnce "config") {}),
        (6, .openStream), (7, .inStream 1 .commit {})]
    c.isOrderly [] steps = true ∧
      (Effect.packetsOf (c.run steps).2).map (fun packet => packet.header.code) =
        [1, 74, 74, 77, 15] ∧
      (∀ m ∈ c.history steps, ∀ packet, m.packet? = some packet →
        m.conn.negotiated.Permits packet) ∧
      (c.act 0 byName).1 = .error (.contract (.unsupported .spaceByName)) := by
  intro c byName steps
  have horderly : c.isOrderly [] steps = true := by decide +kernel
  have h := frames_are_supported "default" 0 [] (.ofMillis 1000) steps horderly
  refine ⟨horderly, ?_, fun m hm => (h m hm).1, ?_⟩
  · decide +kernel
  · exact ((h ⟨c, 0, byName⟩ List.mem_cons_self).2 .spaceByName).1.2 rfl

end Connection

end TupleWire

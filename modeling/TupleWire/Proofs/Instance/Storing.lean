/-
  Operations that store a tuple, as an instance carries them out.

  An operation on a space by its number is carried out if it rests on the
  version of the schema that the instance has (`Peer.exchange_stored`), and
  refused with no effect if it rests on another (`Peer.exchange_refused`).
  What a space answers is never mistaken for such a refusal
  (`Storing.code_apply`).
-/
import TupleWire.Proofs.Instance.Views

set_option autoImplicit false

namespace TupleWire

/-! ## Errors of a space -/

namespace StoredSpace

theorem code_applyOperations {row : Row} {operations : List Value} {e : ServerError}
    (h : (applyOperations row operations).1 = some e) : e.code = ServerCode.noSuchField := by
  induction operations generalizing row with
  | nil => cases h
  | cons operation rest ih =>
      rw [applyOperations] at h
      split at h
      · exact ih h
      · split at h
        · exact ih h
        · cases h
          rfl

theorem code_modify {s : StoredSpace} {position : Nat} {operations : List Value} {e : ServerError}
    (h : (s.modify position operations).1 = .error e) : e.code = ServerCode.noSuchField := by
  unfold modify at h
  split at h
  · cases h
  · split at h
    · rename_i hoperations
      cases h
      exact code_applyOperations (congrArg Prod.fst hoperations)
    · cases h

theorem code_update {s : StoredSpace} {index : UInt32} {key : Row} {operations : List Value}
    {e : ServerError} (h : (s.update index key operations).1 = .error e) :
    e.code = ServerCode.noSuchField := by
  unfold update at h
  split at h
  · exact code_modify h
  · cases h

theorem code_upsert {s : StoredSpace} {tuple : Row} {operations : List Value} {e : ServerError}
    (h : (s.upsert tuple operations).1 = .error e) : e.code = ServerCode.noSuchField := by
  unfold upsert at h
  split at h
  · split at h
    · rename_i hmodify
      cases h
      exact code_modify (congrArg Prod.fst hmodify)
    · cases h
  · cases h

theorem code_insert {s : StoredSpace} {tuple : Row} {e : ServerError}
    (h : s.insert tuple = .error e) : e.code = ServerCode.tupleFound := by
  unfold insert at h
  split at h
  · cases h
    rfl
  · cases h

end StoredSpace

/-! ## Operations -/

/-- An operation that stores a tuple. -/
inductive Storing where
  | insert (tuple : List Value)
  | replace (tuple : List Value)
  | upsert (tuple operations : List Value)

namespace Storing

/-- The request for an operation on a space. -/
def request (space : Target) : Storing → Request
  | insert tuple => .insert space tuple
  | replace tuple => .replace space tuple
  | upsert tuple operations => .upsert space tuple operations

def kind : Storing → RequestType
  | insert _ => .insert
  | replace _ => .replace
  | upsert _ _ => .upsert

/-- The body under which an operation goes out to a space by its number. -/
def body (space : UInt32) : Storing → Body
  | insert tuple | replace tuple => Body.store (.byId space) tuple
  | upsert tuple operations => Body.upsert (.byId space) tuple operations

/-- An operation as it arrives. -/
def carried : Storing → Storing
  | insert tuple => .insert (tuple.map Value.carried)
  | replace tuple => .replace (tuple.map Value.carried)
  | upsert tuple operations => .upsert (tuple.map Value.carried) (operations.map Value.carried)

/-- What a space answers to an operation and what becomes of it. -/
def apply (s : StoredSpace) : Storing → Answer × StoredSpace
  | insert tuple =>
      match s.insert tuple with
      | .ok changed => (.ok (Instance.rowAnswer (some tuple)), changed)
      | .error e => (.error e, s)
  | replace tuple => (.ok (Instance.rowAnswer (some tuple)), s.replace tuple)
  | upsert tuple operations =>
      let (done, changed) := s.upsert tuple operations
      (done.map fun _ => Body.ofData [], changed)

variable {op : Storing}

/-! ## Requests -/

theorem kind_request (op : Storing) (space : Target) : (op.request space).kind = op.kind := by
  cases op <;> rfl

theorem body_request (op : Storing) (space : UInt32) (salt : Bytes) :
    (op.request (.byId space)).body salt = op.body space := by
  cases op <;> rfl

theorem retarget_request (op : Storing) (space : Target) (target : ResolvedTarget) :
    (op.request space).retarget target = op.request (.byId target.spaceId) := by
  cases op <;> rfl

/-- A space by its number can be asked for on any connection. -/
theorem check_request (op : Storing) (space : UInt32) (negotiated : Negotiated) :
    (op.request (.byId space)).check negotiated = .ok () := by
  cases op <;> rfl

theorem kind_ne_select (op : Storing) : op.kind ≠ .select := by
  cases op <;> simp [kind]

theorem isSchemaChecked_kind (op : Storing) : Instance.isSchemaChecked op.kind = true := by
  cases op <;> rfl

theorem kind_carried (op : Storing) : op.carried.kind = op.kind := by
  cases op <;> rfl

theorem carried_body (op : Storing) (space : UInt32) :
    (op.body space).carried = op.carried.body space := by
  cases op <;> simp [body, carried, Body.store, Body.upsert, Target.writeSpace]

/-! ## Answers -/

/-- The space that the body of an operation names. -/
theorem spaceOf_body {i : Instance} {space : UInt32} {s : StoredSpace}
    (h : i.spaces.get? space = some s) (op : Storing) :
    i.spaceOf (op.body space) = .ok (space, s) := by
  have hid : (op.body space).uint? Key.spaceId = some space.toUInt64 := by
    cases op <;> rfl
  have hword : space.toUInt64.toUInt32 = space := UInt32.toUInt32_toUInt64 space
  simp only [Instance.spaceOf, Instance.spaceId, hid, hword, h]

/-- An instance does with an operation what the space does that has the number. -/
theorem carryOut_body {i : Instance} {space : UInt32} {s : StoredSpace}
    (h : i.spaces.get? space = some s) (op : Storing) (session : Session) (sync : UInt64) :
    i.carryOut session op.kind sync (op.body space) =
      let changed := { i with spaces := i.spaces.insert space (op.apply s).2 }
      (changed, session, changed.answer sync (op.apply s).1) := by
  have hchange : i.change (op.body space) (fun s => op.apply s) =
      ((op.apply s).1, { i with spaces := i.spaces.insert space (op.apply s).2 }) := by
    rw [Instance.change, spaceOf_body h op]
  have houtcome : i.carryOut session op.kind sync (op.body space) =
      let outcome := i.change (op.body space) (fun s => op.apply s)
      (outcome.2, session, outcome.2.answer sync outcome.1) := by
    cases op with
    | insert tuple => rfl
    | replace tuple => rfl
    | upsert tuple operations => rfl
  rw [houtcome, hchange]

/-- What a space answers with is carried as it is. -/
theorem carried_apply {s : StoredSpace} {body : Body} (h : (op.carried.apply s).1 = .ok body) :
    body.carried = body := by
  have hrow (tuple : List Value) : (Instance.rowAnswer (some (tuple.map Value.carried))).carried =
      Instance.rowAnswer (some (tuple.map Value.carried)) := by
    have htwice : Value.carried ∘ Value.carried = Value.carried := funext Value.carried_carried
    simp [Instance.rowAnswer, Body.ofData, htwice]
  cases op with
  | insert tuple =>
      simp only [carried, apply] at h
      split at h
      · cases h
        exact hrow tuple
      · cases h
  | replace tuple =>
      cases h
      exact hrow tuple
  | upsert tuple operations =>
      simp only [carried, apply] at h
      cases hdone : (s.upsert (tuple.map Value.carried) (operations.map Value.carried)).1 with
      | ok done =>
          rw [hdone] at h
          cases h
          rfl
      | error e =>
          rw [hdone] at h
          cases h

/-- The errors of a space are about its rows. -/
theorem code_apply {s : StoredSpace} {e : ServerError} (h : (op.apply s).1 = .error e) :
    e.code = ServerCode.tupleFound ∨ e.code = ServerCode.noSuchField := by
  cases op with
  | insert tuple =>
      simp only [apply] at h
      split at h
      · cases h
      · rename_i hinsert
        cases h
        exact .inl (StoredSpace.code_insert hinsert)
  | replace tuple => cases h
  | upsert tuple operations =>
      right
      have hupsert : (s.upsert tuple operations).1 = .error e := by
        simp only [apply] at h
        cases hdone : (s.upsert tuple operations).1 with
        | ok done =>
            rw [hdone] at h
            cases h
        | error e' =>
            rw [hdone] at h
            cases h
            rfl
      exact StoredSpace.code_upsert hupsert

theorem isPlain_apply {s : StoredSpace} {e : ServerError} (h : (op.apply s).1 = .error e) :
    e.IsPlain := by
  rcases code_apply h with hcode | hcode
  · exact .of_code hcode (by decide)
  · exact .of_code hcode (by decide)

end Storing

/-! ## One exchange -/

/-- Nothing is lost between a client and an instance: the instance is not muted, and what it takes
to see the schema and to carry out an operation gets through. -/
structure Undisturbed (i : Instance) (op : Storing) : Prop where
  awake : i.isMuted = false
  requests (space : UInt32) : (op.body space).Fits
  spaceRows : (Body.ofData i.spaceRows).Fits
  indexRows : (Body.ofData i.indexRows).Fits
  answers {space : UInt32} {s : StoredSpace} : i.spaces.get? space = some s →
    (Instance.answerPacket 0 0 (op.carried.apply s).1).body.Fits

theorem Undisturbed.deliverable {i : Instance} {op : Storing} (h : Undisturbed i op)
    {space : UInt32} {s : StoredSpace} (hs : i.spaces.get? space = some s) :
    Instance.Deliverable (op.carried.apply s).1 where
  fits := h.answers hs
  exact := Storing.carried_apply
  plain := Storing.isPlain_apply

theorem Undisturbed.counted {i : Instance} {op : Storing} (h : Undisturbed i op)
    (kind : RequestType) : Undisturbed (i.counted kind) op :=
  ⟨h.awake, h.requests, h.spaceRows, h.indexRows, h.answers⟩

namespace Peer

/-- The peer after an operation was carried out on the space with a number. -/
def stored (p : Peer) (op : Storing) (space : UInt32) (s : StoredSpace) : Peer :=
  { p with
    inst := { p.inst.counted op.kind with
      spaces := p.inst.spaces.insert space (op.carried.apply s).2 }
    issued := p.issued + 1 }

variable {p : Peer} {op : Storing} {space : UInt32} {o : RequestOptions}

theorem requestCount_stored (p : Peer) (op : Storing) (space : UInt32) (s : StoredSpace)
    (kind : RequestType) : (p.stored op space s).inst.requestCount kind =
      p.inst.requestCount kind + if op.kind = kind then 1 else 0 :=
  p.inst.requestCount_counted op.kind kind

theorem carried_packet (p : Peer) (op : Storing) (space : UInt32) (o : RequestOptions) :
    (p.packet (op.request (.byId space)) o).carried =
      ⟨{ Header.request op.kind p.nextSync with schemaVersion := o.schemaVersion },
        op.carried.body space⟩ := by
  rw [packet, Storing.body_request, Storing.kind_request, Packet.carried, Storing.carried_body]
  rfl

/-- An operation that rests on the schema as it is now is carried out. -/
theorem exchange_stored (timeout : Duration) (tracker : SchemaTracker)
    (h : Undisturbed p.inst op) {s : StoredSpace} (hs : p.inst.spaces.get? space = some s)
    (ho : o.schemaVersion = some p.inst.schemaVersion) :
    exchange timeout (op.request (.byId space)) o tracker p =
      (Instance.received p.inst.schemaVersion p.nextSync o.format (op.carried.apply s).1,
        tracker.observe p.inst.schemaVersion, p.stored op space s) := by
  have hhandle : p.inst.handle p.session (p.packet (op.request (.byId space)) o).carried =
      ((p.stored op space s).inst, p.session,
        (p.stored op space s).inst.answer p.nextSync (op.carried.apply s).1) := by
    have hcurrent : (some p.inst.schemaVersion).any
        (fun expected => expected != p.inst.schemaVersion) = false := by simp
    have hcarryOut := Storing.carryOut_body (i := p.inst.counted op.kind) hs op.carried p.session
      p.nextSync
    rw [Storing.kind_carried] at hcarryOut
    rw [carried_packet, ho, Instance.handle_request h.awake, hcurrent, Bool.and_false,
      if_neg Bool.false_ne_true]
    exact hcarryOut
  have hbody : ((op.request (.byId space)).body p.session.salt).Fits := by
    rw [Storing.body_request]
    exact h.requests space
  exact exchange_of_answer (Storing.check_request op space p.negotiated) hbody hhandle
    (h.deliverable hs)

/-- An operation that rests on another version of the schema is refused. -/
theorem exchange_refused (timeout : Duration) (tracker : SchemaTracker)
    (h : Undisturbed p.inst op) {stamp : UInt64} (hstamp : stamp ≠ p.inst.schemaVersion)
    (ho : o.schemaVersion = some stamp) :
    exchange timeout (op.request (.byId space)) o tracker p =
      (.error (.server (Instance.wrongVersion p.inst.schemaVersion stamp)),
        tracker.observe p.inst.schemaVersion, p.counted op.kind) := by
  have hhandle : p.inst.handle p.session (p.packet (op.request (.byId space)) o).carried =
      (p.inst.counted op.kind, p.session, (p.inst.counted op.kind).answer p.nextSync
        (.error (Instance.wrongVersion p.inst.schemaVersion stamp))) := by
    have houtdated : (some stamp).any (fun expected => expected != p.inst.schemaVersion) =
        true := by simpa using hstamp
    rw [carried_packet, ho, Instance.handle_request h.awake, houtdated,
      Storing.isSchemaChecked_kind, Bool.and_true, if_pos rfl]
    rfl
  have hbody : ((op.request (.byId space)).body p.session.salt).Fits := by
    rw [Storing.body_request]
    exact h.requests space
  exact exchange_of_answer (Storing.check_request op space p.negotiated) hbody hhandle
    (Instance.deliverable_wrongVersion _ _)

end Peer

end TupleWire

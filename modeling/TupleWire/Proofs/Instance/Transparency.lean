/-
  Requests on rows, over the wire.

  A request on the rows of a space is laid out and written by the client, read
  and carried out by the instance, and its answer comes back in the same way.
  `data_requests_pass_unchanged` says that none of this shows: the spaces become
  what they become if the operation is asked of the space itself
  (`DataRequest.direct`), and the client gets the rows or the error that the
  space gives.
-/
import TupleWire.Proofs.Instance.Naming
import TupleWire.Proofs.Instance.Storing

set_option autoImplicit false

namespace TupleWire

open MsgPack (depthBudget)

/-! ## Packets that pass -/

/-- A packet of text that fits a frame, as the other side takes frames by default, and does not
nest too deep. -/
structure Packet.Passes (p : Packet) : Prop where
  text : p.body.toValue.isText = true
  depth : p.body.toValue.depth ≤ depthBudget
  size : p.payload.length ≤ Frame.defaultLimit

/-- The frame of a packet is read as that packet, whatever follows it. -/
def Packet.Arrives (p : Packet) : Prop :=
  ∃ frame, p.frame = .ok frame ∧ ∀ rest,
    Frame.next Frame.defaultLimit (frame ++ rest) = .removed (.ok ⟨p.payload, p⟩) rest

theorem Packet.Passes.arrives {p : Packet} (h : p.Passes) : p.Arrives := by
  have hfits : p.payload.length ≤ payloadLimit := Nat.le_trans h.size (by decide)
  have hframe := frame_eq_ok_iff.2 ⟨hfits, rfl⟩
  exact ⟨_, hframe, next_frame_of_isText hframe h.text h.depth h.size⟩

/-! ## Requests on rows -/

/-- A request on the rows of a space, apart from the space and the index that it is about. -/
inductive DataRequest where
  | select (key : Row) (params : SelectParams)
  | insert (tuple : Row)
  | replace (tuple : Row)
  | update (key : Row) (operations : List Value)
  | upsert (tuple : Row) (operations : List Value)
  | delete (key : Row)

namespace DataRequest

/-- The request for a space and an index. -/
def request (space index : Target) : DataRequest → Request
  | select key params => .select space index key params
  | insert tuple => .insert space tuple
  | replace tuple => .replace space tuple
  | update key operations => .update space index key operations
  | upsert tuple operations => .upsert space tuple operations
  | delete key => .delete space index key

def kind : DataRequest → RequestType
  | select _ _ => .select
  | insert _ => .insert
  | replace _ => .replace
  | update _ _ => .update
  | upsert _ _ => .upsert
  | delete _ => .delete

/-- The body under which a request goes out. -/
def body (space index : Target) : DataRequest → Body
  | select key params => Body.select space index key params
  | insert tuple | replace tuple => Body.store space tuple
  | update key operations => Body.update space index key operations
  | upsert tuple operations => Body.upsert space tuple operations
  | delete key => Body.delete space index key

/-- The packet under which a connection sends a request. -/
def packet (c : Connection) (space index : Target) (o : RequestOptions) (op : DataRequest) :
    Packet :=
  ⟨c.nextHeader op.kind o.schemaVersion none, op.body space index⟩

/-! ## Operations on spaces -/

/-- Whether a request goes by an index; the others go by the primary key of their tuple. -/
def goesByIndex : DataRequest → Bool
  | select _ _ | update _ _ | delete _ => true
  | insert _ | replace _ | upsert _ _ => false

/-- The index by which a request goes. -/
def indexIn (s : StoredSpace) (index : Target) (op : DataRequest) : Except ServerError UInt32 :=
  if op.goesByIndex then s.locate index else .ok 0

/-- The operation of a space that a request is for: the rows it gives, or its error, and what
becomes of the space. -/
def apply (s : StoredSpace) (index : UInt32) :
    DataRequest → Except ServerError (List Row) × StoredSpace
  | select key params => (.ok (s.select index key params.offset.toNat params.limit.toNat), s)
  | insert tuple =>
      match s.insert tuple with
      | .ok changed => (.ok [tuple], changed)
      | .error e => (.error e, s)
  | replace tuple => (.ok [tuple], s.replace tuple)
  | update key operations =>
      let (row, changed) := s.update index key operations
      (row.map Option.toList, changed)
  | upsert tuple operations =>
      let (done, changed) := s.upsert tuple operations
      (done.map fun _ => [], changed)
  | delete key =>
      let (row, changed) := s.delete index key
      (.ok row.toList, changed)

/-- The operation carried out on the space itself, without any wire: what it gives, and the spaces
after it.  Where the space or the index is not there, nothing is done. -/
def direct (i : Instance) (space index : Target) (op : DataRequest) :
    Except ServerError (List Row) × SortedMap UInt32 StoredSpace :=
  match i.locate space with
  | .error e => (.error e, i.spaces)
  | .ok s =>
      match op.indexIn s index with
      | .error e => (.error e, i.spaces)
      | .ok n => ((op.apply s n).1, i.spaces.insert s.id (op.apply s n).2)

end DataRequest

/-- The data of rows. -/
def Body.ofRows (rows : List Row) : Body := Body.ofData (rows.map Value.array)

namespace Instance

variable {i : Instance} {body : Body} {target : Target}

/-- The number of the space that a target stands for, whether there is one of it or not. -/
def numberOf? (i : Instance) : Target → Option UInt32
  | .byId id => some id
  | .byName name => (i.spaceNamed? name).map StoredSpace.id

theorem numberOf?_of_spaceId {id : UInt32} (hbody : body.NamesSpace target)
    (h : i.spaceId body = .ok id) : i.numberOf? target = some id := by
  cases target with
  | byId number =>
      have hnumber : body.uint? Key.spaceId = some number.toUInt64 := hbody
      rw [spaceId, hnumber] at h
      cases h
      exact congrArg some (UInt32.toUInt32_toUInt64 number).symm
  | byName name =>
      obtain ⟨hnone, hname⟩ := hbody
      have hfind : (i.spaces.values.find? fun s => s.name == name) = i.spaceNamed? name := rfl
      rw [spaceId, hnone, hname, Option.getD_some] at h
      dsimp only at h
      rw [hfind] at h
      rw [numberOf?]
      split at h
      · rename_i hnamed
        cases h
        rw [hnamed]
        rfl
      · cases h

/-- A selection that is not on a view reads the rows of the space that it names. -/
theorem select_of_plain
    (hplain : ∀ id, i.spaceId body = .ok id → id ≠ spaceView ∧ id ≠ indexView) :
    i.select body =
      match i.spaceOf body with
      | .error e => .error e
      | .ok (_, s) =>
          match indexOf s body with
          | .error e => .error e
          | .ok n => .ok (Body.ofRows (s.select n (body.items Key.key)
              (((body.uint? Key.offset).map UInt64.toNat).getD 0)
              (((body.uint? Key.limit).map UInt64.toNat).getD 0xffffffff))) := by
  rw [select, spaceOf]
  cases hid : i.spaceId body with
  | error e => rfl
  | ok id =>
      obtain ⟨hspaces, hindexes⟩ := hplain id hid
      simp only [bind, Except.bind, hspaces, hindexes, if_false]
      cases i.spaces.get? id with
      | none => rfl
      | some s =>
          dsimp only
          cases indexOf s body with
          | error e => rfl
          | ok n => rfl

end Instance

namespace DataRequest

variable {i : Instance} {s : StoredSpace} {space index : Target} {op : DataRequest}

/-! ## Layout -/

theorem kind_request (op : DataRequest) (space index : Target) :
    (op.request space index).kind = op.kind := by
  cases op <;> rfl

theorem body_request (op : DataRequest) (space index : Target) (salt : Bytes) :
    (op.request space index).body salt = op.body space index := by
  cases op <;> rfl

/-- The body of a request names the space that the request is about. -/
theorem namesSpace_body (op : DataRequest) (space index : Target) :
    (op.body space index).NamesSpace space := by
  cases space with
  | byId id => cases op <;> cases index <;> rfl
  | byName name =>
      have htext := Value.asText?_text name
      cases op <;> cases index <;> exact ⟨rfl, htext⟩

/-- The body of a request names the index by which the request goes. -/
theorem namesIndex_body (h : op.goesByIndex = true) (space index : Target) :
    (op.body space index).NamesIndex index := by
  cases index with
  | byId id =>
      cases op with
      | select | update | delete => cases space <;> rfl
      | insert | replace | upsert => cases h
  | byName name =>
      have htext := Value.asText?_text name
      cases op with
      | select | update | delete => cases space <;> exact ⟨rfl, htext⟩
      | insert | replace | upsert => cases h

/-- The index by which a request goes is the one that an instance finds for it. -/
theorem indexOf_body (h : op.goesByIndex = true) (s : StoredSpace) (space index : Target) :
    Instance.indexOf s (op.body space index) = op.indexIn s index := by
  rw [Instance.indexOf_eq s (namesIndex_body h space index), indexIn, if_pos h]

theorem items_key_body (key : Row) (params : SelectParams) (operations : List Value)
    (space index : Target) :
    ((select key params).body space index).items Key.key = key ∧
      ((update key operations).body space index).items Key.key = key ∧
        ((delete key).body space index).items Key.key = key := by
  cases space <;> cases index <;> exact ⟨rfl, rfl, rfl⟩

theorem items_tuple_body (key tuple : Row) (operations : List Value) (space index : Target) :
    ((insert tuple).body space index).items Key.tuple = tuple ∧
      ((replace tuple).body space index).items Key.tuple = tuple ∧
        ((upsert tuple operations).body space index).items Key.tuple = tuple ∧
          ((update key operations).body space index).items Key.tuple = operations := by
  cases space <;> cases index <;> exact ⟨rfl, rfl, rfl, rfl⟩

theorem items_operations_body (tuple : Row) (operations : List Value) (space index : Target) :
    ((upsert tuple operations).body space index).items Key.operations = operations := by
  cases space <;> rfl

theorem bounds_body (key : Row) (params : SelectParams) (space index : Target) :
    ((select key params).body space index).uint? Key.offset = some params.offset.toUInt64 ∧
      ((select key params).body space index).uint? Key.limit = some params.limit.toUInt64 := by
  cases space <;> cases index <;> exact ⟨rfl, rfl⟩

/-! ## Requests carried out -/

/-- What a space answers to a request, and what becomes of it. -/
def answerOf (s : StoredSpace) (index : Target) (op : DataRequest) : Answer × StoredSpace :=
  match op.indexIn s index with
  | .error e => (.error e, s)
  | .ok n => ((op.apply s n).1.map Body.ofRows, (op.apply s n).2)

/-- A change of the space that a request names. -/
theorem change_eq (h : i.Keyed) (op : DataRequest) (space index : Target)
    (f : StoredSpace → Answer × StoredSpace) :
    i.change (op.body space index) f =
      match i.locate space with
      | .error e => (.error e, i)
      | .ok s => ((f s).1, { i with spaces := i.spaces.insert s.id (f s).2 }) := by
  rw [Instance.change, h.spaceOf_eq (op.namesSpace_body space index)]
  cases i.locate space with
  | error e => rfl
  | ok s => rfl

theorem answerOf_of_no_index (h : op.goesByIndex = false) (s : StoredSpace) (index : Target) :
    op.answerOf s index = ((op.apply s 0).1.map Body.ofRows, (op.apply s 0).2) := by
  rw [answerOf, indexIn, h]
  rfl

theorem answerOf_eq_changeBy (h : op.goesByIndex = true) (s : StoredSpace) (space index : Target) :
    op.answerOf s index = Instance.changeBy (op.body space index) s fun n =>
      ((op.apply s n).1.map Body.ofRows, (op.apply s n).2) := by
  cases hindex : op.indexIn s index with
  | error e => simp only [answerOf, Instance.changeBy, indexOf_body h, hindex]
  | ok n => simp only [answerOf, Instance.changeBy, indexOf_body h, hindex]

/-- A request that changes a space is carried out by the space that it names. -/
theorem carryOut_eq_change (hkind : op.kind ≠ .select) (session : Session) (sync : UInt64) :
    i.carryOut session op.kind sync (op.body space index) =
      let outcome := i.change (op.body space index) fun s => op.answerOf s index
      (outcome.2, session, outcome.2.answer sync outcome.1) := by
  let answered (f : StoredSpace → Answer × StoredSpace) : Instance × Session × List Outgoing :=
    let outcome := i.change (op.body space index) f
    (outcome.2, session, outcome.2.answer sync outcome.1)
  show _ = answered fun s => op.answerOf s index
  cases op with
  | select key params => exact absurd rfl hkind
  | insert tuple =>
      refine congrArg answered (funext fun s => ?_)
      rw [(items_tuple_body [] tuple [] space index).1, answerOf_of_no_index rfl, apply]
      cases s.insert tuple with
      | ok changed => rfl
      | error e => rfl
  | replace tuple =>
      refine congrArg answered (funext fun s => ?_)
      rw [(items_tuple_body [] tuple [] space index).2.1, answerOf_of_no_index rfl]
      rfl
  | update key operations =>
      refine congrArg answered (funext fun s => ?_)
      rw [answerOf_eq_changeBy rfl s space]
      refine congrArg (Instance.changeBy _ s) (funext fun n => ?_)
      rw [(items_key_body key {} operations space index).2.1,
        (items_tuple_body key [] operations space index).2.2.2, apply]
      obtain ⟨e | row, changed⟩ := s.update n key operations
      · rfl
      · rfl
  | upsert tuple operations =>
      refine congrArg answered (funext fun s => ?_)
      rw [(items_tuple_body [] tuple operations space index).2.2.1,
        items_operations_body, answerOf_of_no_index rfl, apply]
      obtain ⟨e | done, changed⟩ := s.upsert tuple operations
      · rfl
      · rfl
  | delete key =>
      refine congrArg answered (funext fun s => ?_)
      rw [answerOf_eq_changeBy rfl s space]
      refine congrArg (Instance.changeBy _ s) (funext fun n => ?_)
      rw [(items_key_body key {} [] space index).2.2]
      rfl

/-- What changes a space and what does not, carried out, is the operation on the space itself. -/
theorem change_answerOf (h : i.Keyed) (op : DataRequest) (space index : Target) :
    i.change (op.body space index) (fun s => op.answerOf s index) =
      ((op.direct i space index).1.map Body.ofRows,
        { i with spaces := (op.direct i space index).2 }) := by
  rw [change_eq h, direct]
  cases hs : i.locate space with
  | error e => rfl
  | ok s =>
      dsimp only
      rw [answerOf]
      cases op.indexIn s index with
      | error e =>
          dsimp only
          rw [SortedMap.insert_eq_self (h.get?_of_locate hs)]
          rfl
      | ok n => rfl

/-- A selection of rows is carried out by the space that it names. -/
theorem select_eq (h : i.Keyed) (key : Row) (params : SelectParams)
    (hview : ∀ id, i.numberOf? space = some id → id ≠ spaceView ∧ id ≠ indexView) :
    i.select ((select key params).body space index) =
      ((select key params).direct i space index).1.map Body.ofRows := by
  have hnamed := (select key params).namesSpace_body space index
  obtain ⟨hoffset, hlimit⟩ := bounds_body key params space index
  have hplain (id : UInt32) (hid : i.spaceId ((select key params).body space index) = .ok id) :
      id ≠ spaceView ∧ id ≠ indexView := hview id (Instance.numberOf?_of_spaceId hnamed hid)
  rw [Instance.select_of_plain hplain, h.spaceOf_eq hnamed, direct]
  cases i.locate space with
  | error e => rfl
  | ok s =>
      dsimp only [Except.map]
      rw [indexOf_body rfl, hoffset, hlimit, (items_key_body key params [] space index).1]
      cases (select key params).indexIn s index with
      | error e => rfl
      | ok n =>
          dsimp only [Except.map, apply, Option.map_some, Option.getD_some]
          rw [UInt32.toNat_toUInt64, UInt32.toNat_toUInt64]

/-- A selection leaves the spaces as they are. -/
theorem direct_select (h : i.Keyed) (key : Row) (params : SelectParams) (space index : Target) :
    ((select key params).direct i space index).2 = i.spaces := by
  rw [direct]
  cases hs : i.locate space with
  | error e => rfl
  | ok s =>
      dsimp only
      cases (select key params).indexIn s index with
      | error e => rfl
      | ok n => exact SortedMap.insert_eq_self (h.get?_of_locate hs)

/-- What an instance does with a request is the operation on the space itself. -/
theorem carryOut_eq (h : i.Keyed) (op : DataRequest) (session : Session) (sync : UInt64)
    (hview : op.kind = .select →
      ∀ id, i.numberOf? space = some id → id ≠ spaceView ∧ id ≠ indexView) :
    i.carryOut session op.kind sync (op.body space index) =
      let changed := { i with spaces := (op.direct i space index).2 }
      (changed, session, changed.answer sync ((op.direct i space index).1.map Body.ofRows)) := by
  by_cases hkind : op.kind = .select
  · cases op with
    | select key params =>
        dsimp only
        rw [direct_select h, ← select_eq h key params (hview rfl)]
        rfl
    | insert | replace | update | upsert | delete => cases hkind
  · rw [carryOut_eq_change hkind, change_answerOf h]

/-! ## Errors -/

theorem isPlain_apply {n : UInt32} {e : ServerError} (h : (op.apply s n).1 = .error e) :
    e.IsPlain := by
  have hmap {α β : Type} {f : α → β} {result : Except ServerError α}
      (h : result.map f = .error e) : result = .error e := by
    cases result with
    | ok a => cases h
    | error e' =>
        cases h
        rfl
  cases op with
  | select key params => cases h
  | insert tuple =>
      rw [apply] at h
      split at h
      · cases h
      · rename_i hinsert
        cases h
        exact .of_code (StoredSpace.code_insert hinsert) (by decide)
  | replace tuple => cases h
  | update key operations => exact .of_code (StoredSpace.code_update (hmap h)) (by decide)
  | upsert tuple operations => exact .of_code (StoredSpace.code_upsert (hmap h)) (by decide)
  | delete key => cases h

theorem code_of_indexIn {e : ServerError} (h : op.indexIn s index = .error e) :
    e.code = ServerCode.noSuchIndex := by
  rw [indexIn] at h
  split at h
  · exact StoredSpace.code_of_locate h
  · cases h

/-- The errors of a space, of a missing space and of a missing index are plain. -/
theorem isPlain_direct {e : ServerError} (h : (op.direct i space index).1 = .error e) :
    e.IsPlain := by
  rw [direct] at h
  split at h
  · rename_i hlocate
    cases h
    exact .of_code (Instance.code_of_locate hlocate) (by decide)
  · split at h
    · rename_i hindex
      cases h
      exact .of_code (code_of_indexIn hindex) (by decide)
    · exact isPlain_apply h

/-! ## Both ends of the wire -/

/-- A request that the server supports goes out under the next number and waits for its answer. -/
theorem request_eq {c : Connection} {o : RequestOptions} {frame : Bytes} (now : Nat)
    (hopen : c.isClosed = false)
    (hsupported : (op.request space index).check c.negotiated = .ok ())
    (hframe : (op.packet c space index o).frame = .ok frame) :
    c.request now (op.request space index) o =
      (.ok c.nextSync,
        { c.advance with
          pending := c.pending.insert c.nextSync
            ⟨o.format, o.timeout.getD c.requestTimeout, now⟩ },
        [.started c.nextSync, .queued (op.packet c space index o)]) := by
  rw [Connection.request, hsupported, kind_request, body_request]
  dsimp only
  rw [Connection.send, hopen, if_neg Bool.false_ne_true]
  dsimp only
  have hpacket : (⟨c.nextHeader op.kind o.schemaVersion none, op.body space index⟩ : Packet).frame =
      .ok frame := hframe
  rw [hpacket]
  rfl

/-- An instance that is not muted does with a request what the space does, unless the request rests
on another version of the schema. -/
theorem handle_packet {c : Connection} {o : RequestOptions} (hawake : i.isMuted = false)
    (hkeyed : i.Keyed)
    (hversion : o.schemaVersion = none ∨ o.schemaVersion = some i.schemaVersion)
    (hview : op.kind = .select →
      ∀ id, i.numberOf? space = some id → id ≠ spaceView ∧ id ≠ indexView) (session : Session) :
    i.handle session (op.packet c space index o) =
      let changed := { i.counted op.kind with spaces := (op.direct i space index).2 }
      (changed, session,
        changed.answer c.nextSync ((op.direct i space index).1.map Body.ofRows)) := by
  have hcurrent : (Instance.isSchemaChecked op.kind &&
      o.schemaVersion.any fun expected => expected != i.schemaVersion) = false := by
    rcases hversion with hnone | hsame
    · rw [hnone, Option.any_none, Bool.and_false]
    · rw [hsame, Option.any_some, bne_self_eq_false, Bool.and_false]
  have hpacket : op.packet c space index o =
      ⟨{ Header.request op.kind c.nextSync with schemaVersion := o.schemaVersion },
        op.body space index⟩ := rfl
  have hcounted : (i.counted op.kind).Keyed := hkeyed
  rw [hpacket, Instance.handle_request hawake, hcurrent, if_neg Bool.false_ne_true,
    carryOut_eq hcounted op session c.nextSync hview]
  rfl

end DataRequest

/-- A request that waits for an answer gets what the answer says. -/
theorem Connection.receive_answer {c : Connection} {sync : UInt64} {waiter : Waiter}
    (h : c.pending.get? sync = some waiter) (now : Nat) (payload : Bytes) (version : UInt64)
    (a : Answer) :
    (c.receive now ⟨payload, Instance.answerPacket version sync a⟩).2 =
      [.observed version,
        .resolved sync (resultOf (Instance.answerPacket version sync a) waiter.format)
          (waiter.elapsed now)] := by
  have hwaiting : c.pending.get? (Instance.answerPacket version sync a).header.sync =
      some waiter := by
    rw [Instance.answerPacket_sync]
    exact h
  rw [receive, route, Instance.isEvent_answerPacket, Instance.isChunk_answerPacket,
    receiveResponse, Instance.answerPacket_schemaVersion]
  simp only [Bool.false_eq_true, if_false]
  rw [hwaiting, Instance.answerPacket_sync]
  rfl

/-- Whatever is stored, a request on rows that names its space and its index by their numbers or,
where names are supported, by their names, and rests on no version of the schema or on the one
that the instance has: the client puts it into one packet, and if that passes, the instance reads
it as it was sent.  The spaces become what they become if the operation is asked of the space
itself, and nothing else changes but the count of requests; if the space or the index is not there,
nothing changes and the error is that of a missing space or index.  If the answer passes as well,
it is the one packet that is sent, and the client gets from it just the rows that the operation
gives, or its error with its code and its message. -/
theorem data_requests_pass_unchanged (c : Connection) (i : Instance) (session : Session)
    (op : DataRequest) (space index : Target) (o : RequestOptions) (now later : Nat)
    (hopen : c.isClosed = false) (hawake : i.isMuted = false) (hkeyed : i.Keyed)
    (hsupported : (op.request space index).check c.negotiated = .ok ())
    (hversion : o.schemaVersion = none ∨ o.schemaVersion = some i.schemaVersion)
    (hview : op.kind = .select →
      ∀ id, i.numberOf? space = some id → id ≠ spaceView ∧ id ≠ indexView)
    (hpasses : (op.packet c space index o).Passes) :
    let packet := op.packet c space index o
    let asked := c.request now (op.request space index) o
    let handled := i.handle session packet
    let outcome := op.direct i space index
    let reply := Instance.answerPacket i.schemaVersion c.nextSync (outcome.1.map Body.ofRows)
    asked.2.2 = [.started c.nextSync, .queued packet] ∧ packet.Arrives ∧
      handled.1 = { i.counted op.kind with spaces := outcome.2 } ∧ handled.2.1 = session ∧
      (∀ e, i.locate space = .error e →
        outcome = (.error e, i.spaces) ∧ e.code = ServerCode.noSuchSpace) ∧
      (∀ s e, i.locate space = .ok s → op.indexIn s index = .error e →
        outcome = (.error e, i.spaces) ∧ e.code = ServerCode.noSuchIndex) ∧
      (reply.Passes → handled.2.2 = [⟨reply, .zero⟩] ∧ reply.Arrives ∧
        ∃ result, (asked.2.1.receive later ⟨reply.payload, reply⟩).2 =
            [.observed i.schemaVersion, .resolved c.nextSync result (.ofMillis (later - now))] ∧
          match outcome.1 with
          | .ok rows => ∃ response, result = .ok response ∧
              response.body.dataItems = rows.map Value.array
          | .error e => result = .error (.server e)) := by
  intro packet asked handled outcome reply
  have harrives : packet.Arrives := hpasses.arrives
  obtain ⟨frame, hframe, -⟩ := harrives
  have hasked := DataRequest.request_eq now hopen hsupported hframe
  have hhandled : i.handle session (op.packet c space index o) = _ :=
    DataRequest.handle_packet hawake hkeyed hversion hview session
  refine ⟨congrArg (fun asked => asked.2.2) hasked, hpasses.arrives,
    congrArg Prod.fst hhandled, congrArg (fun handled => handled.2.1) hhandled, ?_, ?_, ?_⟩
  · intro e he
    exact ⟨by simp only [outcome, DataRequest.direct, he], Instance.code_of_locate he⟩
  · intro s e hs he
    exact ⟨by simp only [outcome, DataRequest.direct, hs, he], DataRequest.code_of_indexIn he⟩
  · intro hreply
    obtain ⟨replyFrame, hreplyFrame, -⟩ := hreply.arrives
    have hsent : handled.2.2 = [⟨reply, .zero⟩] := by
      refine (congrArg (fun handled => handled.2.2) hhandled).trans ?_
      show Instance.post reply .zero = [⟨reply, .zero⟩]
      rw [Instance.post, hreplyFrame]
    refine ⟨hsent, hreply.arrives, Instance.received i.schemaVersion c.nextSync o.format
      (outcome.1.map Body.ofRows), ?_, ?_⟩
    · have hwaiting : asked.2.1.pending.get? c.nextSync =
          some ⟨o.format, o.timeout.getD c.requestTimeout, now⟩ := by
        have hpending : asked.2.1.pending = _ :=
          congrArg (fun asked => asked.2.1.pending) hasked
        rw [hpending, SortedMap.get?_insert, if_pos rfl]
      rw [Connection.receive_answer hwaiting, Instance.resultOf_answerPacket_eq_received]
      · rfl
      · intro e he
        cases hrows : outcome.1 with
        | ok rows =>
            rw [hrows] at he
            cases he
        | error e' =>
            rw [hrows] at he
            cases he
            exact DataRequest.isPlain_direct hrows
    · cases outcome.1 with
      | ok rows => exact ⟨_, rfl, rfl⟩
      | error e => rfl

/-! ## A row that is updated -/

/-- An instance with one row, in a space that has a second index. -/
def Instance.directory : Instance :=
  ({} : Instance).createSpace
    ⟨512, "users", "memtx", ["primary", "by_name"], [], [[.uint 1, .text "ann"]]⟩

/-- A connection on which names are supported. -/
def Connection.modern : Connection where
  tag := "default"
  index := 0
  salt := []
  requestTimeout := .ofMillis 1000
  lifecycle := .ready
  negotiated := ⟨protocolVersion, .all⟩

/-- Gives the user of a name another name. -/
def DataRequest.rename : DataRequest :=
  .update [.text "ann"] [.array [.text "=", .uint 1, .text "bob"]]

theorem data_requests_pass_unchanged_of_rename :
    let packet := DataRequest.rename.packet .modern (.byName "users") (.byName "by_name") {}
    let asked := Connection.modern.request 10
      (DataRequest.rename.request (.byName "users") (.byName "by_name")) {}
    let handled := Instance.directory.handle ⟨[], "guest", .empty⟩ packet
    handled.1.rowsOf 512 = [[.uint 1, .text "bob"]] ∧
      ∃ reply response, handled.2.2 = [⟨reply, .zero⟩] ∧
        (asked.2.1.receive 15 ⟨reply.payload, reply⟩).2 =
          [.observed 2, .resolved 1 (.ok response) (.ofMillis 5)] ∧
        response.body.dataItems = [.array [.uint 1, .text "bob"]] := by
  have hkeyed : Instance.directory.Keyed := Instance.keyed_new.createSpace _
  obtain ⟨-, -, hhandled, -, -, -, hreply⟩ := data_requests_pass_unchanged .modern
    .directory ⟨[], "guest", .empty⟩ .rename (.byName "users") (.byName "by_name") {} 10 15 rfl rfl
    hkeyed rfl (.inl rfl) (fun h => by cases h)
    ⟨by decide +kernel, by decide +kernel, by decide +kernel⟩
  obtain ⟨hsent, -, result, hresult, hrows⟩ := hreply
    ⟨by decide +kernel, by decide +kernel, by decide +kernel⟩
  have houtcome : (DataRequest.rename.direct .directory (.byName "users") (.byName "by_name")).1 =
      .ok [[.uint 1, .text "bob"]] := by decide +kernel
  rw [houtcome] at hrows
  obtain ⟨response, rfl, hitems⟩ := hrows
  refine ⟨?_, _, response, hsent, hresult, hitems⟩
  have hspaces := congrArg Instance.spaces hhandled
  rw [Instance.rowsOf, hspaces]
  decide +kernel

end TupleWire

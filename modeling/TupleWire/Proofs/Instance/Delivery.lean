/-
  What gets through between a client and an instance.

  A request gets through if its body leaves room for a header in a frame and
  does not nest too deep; and so does an answer.  `Body.Fits` says so of a body,
  and `Peer.exchange_of_answer` is the whole exchange: what the instance does
  with the request as it arrives, and its answer as the caller sees it.
-/
import Mathlib.Data.Nat.Digits.Defs
import TupleWire.Proofs.Packet.RoundTrip
import TupleWire.Proofs.Packet.Size
import TupleWire.Proofs.Schema.Timeline
import TupleWire.Proofs.Text.Utf8

set_option autoImplicit false

namespace TupleWire

/-! ## What arrives has arrived -/

namespace Value

mutual

/-- What arrives is text. -/
theorem isText_carried : ∀ v : Value, v.carried.isText = true
  | .str bytes => by
      rw [carried]
      by_cases hvalid : Utf8.isValid bytes = true
      · rw [if_pos hvalid]
        exact hvalid
      · rw [if_neg hvalid]
        rfl
  | .array items => isText_carriedItems items
  | .map entries => isText_carriedEntries entries
  | .nil | .bool _ | .uint _ | .nint _ | .f32 _ | .f64 _ | .bin _ | .ext _ _ => rfl

theorem isText_carriedItems : ∀ vs : List Value, isTextItems (carriedItems vs) = true
  | [] => rfl
  | v :: vs => by
      rw [carriedItems, isTextItems, isText_carried v, isText_carriedItems vs]
      rfl

theorem isText_carriedEntries : ∀ es : List (Value × Value),
    isTextEntries (carriedEntries es) = true
  | [] => rfl
  | (k, v) :: es => by
      rw [carriedEntries, isTextEntries, isText_carried k, isText_carried v,
        isText_carriedEntries es]
      rfl

end

@[simp] theorem carried_carried (v : Value) : v.carried.carried = v.carried :=
  carried_of_isText _ (isText_carried v)

@[simp] theorem carried_text (s : String) : (text s).carried = text s :=
  if_pos (Utf8.isValid_encode s)

@[simp] theorem carried_uint (n : UInt64) : (uint n).carried = .uint n := rfl

@[simp] theorem carried_word (n : UInt32) : (word n).carried = word n := rfl

@[simp] theorem carried_array (items : List Value) :
    (array items).carried = .array (items.map carried) :=
  congrArg array (carriedItems_eq_map items)

@[simp] theorem carried_map (entries : List (Value × Value)) :
    (map entries).carried = .map (entries.map fun e => (e.1.carried, e.2.carried)) :=
  congrArg map (carriedEntries_eq_map entries)

end Value

namespace Body

theorem get?_carried (body : Body) (key : UInt8) :
    body.carried.get? key = (body.get? key).map Value.carried := by
  obtain ⟨entries, hentries⟩ := body
  show SortedMap.find? key (entries.map fun e => (e.1, e.2.carried)) =
    (SortedMap.find? key entries).map Value.carried
  clear hentries
  induction entries with
  | nil => rfl
  | cons e rest ih =>
      rw [List.map_cons, SortedMap.find?, SortedMap.find?, ih]
      split
      · rfl
      · rfl

@[simp] theorem carried_empty : empty.carried = empty := rfl

@[simp] theorem carried_insert (body : Body) (key : UInt8) (v : Value) :
    carried (SortedMap.insert body key v) = SortedMap.insert body.carried key v.carried := by
  apply SortedMap.ext_get?
  intro k
  rw [get?_carried, SortedMap.get?_insert, SortedMap.get?_insert, get?_carried]
  split
  · rfl
  · rfl

end Body

/-! ## What fits -/

/-- A body gets through, whatever header is before it. -/
structure Body.Fits (body : Body) : Prop where
  size : Header.room + (MsgPack.write body.toValue).length ≤ Packet.payloadLimit
  depth : body.carried.toValue.depth ≤ MsgPack.depthBudget

/-- What gets through arrives. -/
theorem Peer.transmit_of_fits {p : Packet} (h : p.body.Fits) : transmit p = .ok p.carried := by
  have hsize : p.payload.length ≤ Packet.payloadLimit := by
    have hheader := p.header.length_write_le
    have hbody := h.size
    rw [Packet.payload, List.length_append]
    omega
  rw [transmit, Packet.frame_eq_ok_iff.2 ⟨hsize, rfl⟩]
  dsimp only
  rw [Packet.ofPayload_payload (Nat.lt_succ_of_le hsize), if_pos h.depth]

/-! ## Errors -/

/-- The bit that marks errors is in the status of every error. -/
theorem Status.marked (code : UInt32) : (errorBit ||| code) &&& errorBit = errorBit := by
  apply UInt32.toBitVec_inj.1
  rw [UInt32.toBitVec_and, UInt32.toBitVec_or]
  ext n hn
  rw [BitVec.getElem_and, BitVec.getElem_or]
  cases errorBit.toBitVec[n] with
  | true => rfl
  | false => exact Bool.and_false _

/-- Whether the code of an error leaves the bit alone that marks errors. -/
def ServerError.IsPlain (e : ServerError) : Prop := e.code &&& Status.errorBit = 0

theorem ServerError.IsPlain.of_code {e : ServerError} {code : UInt32} (h : e.code = code)
    (hcode : code &&& Status.errorBit = 0) : e.IsPlain := by
  rw [IsPlain, h, hcode]

/-- The code of a plain error is what its status has besides the mark. -/
theorem ServerError.IsPlain.unmarked {e : ServerError} (h : e.IsPlain) :
    (Status.errorBit ||| e.code) &&& ~~~ Status.errorBit = e.code := by
  have hright : (Status.errorBit ||| e.code) &&& ~~~ Status.errorBit =
      Status.errorBit &&& ~~~ Status.errorBit ||| e.code &&& ~~~ Status.errorBit :=
    UInt32.toBitVec_inj.1 BitVec.and_or_distrib_right
  have hleft : e.code &&& (Status.errorBit ||| ~~~ Status.errorBit) =
      e.code &&& Status.errorBit ||| e.code &&& ~~~ Status.errorBit :=
    UInt32.toBitVec_inj.1 BitVec.and_or_distrib_left
  have hzero : Status.errorBit &&& ~~~ Status.errorBit = 0 := by decide
  have hones : Status.errorBit ||| ~~~ Status.errorBit = -1 := by decide
  rw [hones, h, UInt32.and_neg_one, UInt32.zero_or] at hleft
  rw [hright, hzero, UInt32.zero_or, ← hleft]

theorem Body.errorMessage?_errorText (message : String) :
    errorMessage? (SortedMap.insert empty Key.errorText (.text message)) = some message := by
  have hstack : stackMessage? (SortedMap.insert empty Key.errorText (.text message)) = none := rfl
  have htext : text? (SortedMap.insert empty Key.errorText (.text message)) Key.errorText =
      some message := Value.asText?_text message
  rw [errorMessage?, hstack, htext]
  rfl

namespace Instance

/-! ## Answers -/

/-- An answer that gets through as what it is. -/
structure Deliverable (a : Answer) : Prop where
  fits : (answerPacket 0 0 a).body.Fits
  exact {body : Body} : a = .ok body → body.carried = body
  plain {e : ServerError} : a = .error e → e.IsPlain

/-- What the caller gets of an answer. -/
def received (version sync : UInt64) (format : ResponseFormat) :
    Answer → Except ClientError Response
  | .ok body => .ok ⟨sync, some version, body, format⟩
  | .error e => .error (.server e)

variable {i : Instance} {version sync : UInt64} {a : Answer}

theorem answerPacket_schemaVersion (version sync : UInt64) (a : Answer) :
    (answerPacket version sync a).header.schemaVersion = some version := by
  cases a with
  | ok body => rfl
  | error e => rfl

theorem answerPacket_sync (version sync : UInt64) (a : Answer) :
    (answerPacket version sync a).header.sync = sync := by
  cases a with
  | ok body => rfl
  | error e => rfl

theorem Deliverable.transmit (h : Deliverable a) (version sync : UInt64) :
    Peer.transmit (answerPacket version sync a) = .ok (answerPacket version sync a).carried := by
  refine Peer.transmit_of_fits ?_
  have hbody : (answerPacket version sync a).body = (answerPacket 0 0 a).body := by
    cases a with
    | ok body => rfl
    | error e => rfl
  rw [hbody]
  exact h.fits

/-- The status of an answer has none of the codes that marks a packet as something else. -/
theorem code_answerPacket_ne {code : UInt32} (hok : code ≠ Status.ok)
    (hunmarked : code &&& Status.errorBit ≠ Status.errorBit) (version sync : UInt64) (a : Answer) :
    (answerPacket version sync a).header.code ≠ code := by
  cases a with
  | ok body => exact hok.symm
  | error e =>
      intro hcode
      have hmarked := Status.marked e.code
      have hstatus : Status.errorBit ||| e.code = code := hcode
      rw [hstatus] at hmarked
      exact hunmarked hmarked

/-- An answer is no notification. -/
theorem isEvent_answerPacket (version sync : UInt64) (a : Answer) :
    (answerPacket version sync a).header.isEvent = false :=
  beq_eq_false_iff_ne.2 (code_answerPacket_ne (by decide) (by decide) version sync a)

/-- An answer is no out-of-band data. -/
theorem isChunk_answerPacket (version sync : UInt64) (a : Answer) :
    (answerPacket version sync a).header.isChunk = false :=
  beq_eq_false_iff_ne.2 (code_answerPacket_ne (by decide) (by decide) version sync a)

/-- The client reads an answer as it was meant, if its error is plain. -/
theorem resultOf_answerPacket_eq_received (hplain : ∀ {e}, a = .error e → e.IsPlain)
    (format : ResponseFormat) :
    Connection.resultOf (answerPacket version sync a) format = received version sync format a := by
  cases a with
  | ok body => exact resultOf_answerPacket version sync body format
  | error e =>
      have hunmarked := (hplain rfl).unmarked
      have herror : (Status.errorBit != 0) = true := by decide
      simp only [Connection.resultOf, Packet.serverError?, answerPacket, Header.response,
        Header.errorCode?, Header.isError, Status.marked, hunmarked, herror,
        Body.errorMessage?_errorText]
      rfl

theorem Deliverable.carried (h : Deliverable a) (version sync : UInt64) :
    (answerPacket version sync a).carried = answerPacket version sync a := by
  cases a with
  | ok body => exact congrArg (Packet.mk _) (h.exact rfl)
  | error e =>
      refine congrArg (Packet.mk _) ?_
      rw [answerPacket, Body.carried_insert, Value.carried_text, Body.carried_empty]

/-- An answer is the one packet that its request finds. -/
theorem Deliverable.responseIn (h : Deliverable a) :
    Peer.responseIn sync (i.answer sync a) = some (answerPacket i.schemaVersion sync a) := by
  have htransmit := h.transmit i.schemaVersion sync
  rw [Peer.transmit] at htransmit
  rw [answer, post]
  cases hframe : (answerPacket i.schemaVersion sync a).frame with
  | error fault =>
      rw [hframe] at htransmit
      cases htransmit
  | ok frame => simp [Peer.responseIn, answerPacket_sync, isEvent_answerPacket]

/-- The error of an outdated request gets through. -/
theorem deliverable_wrongVersion (current expected : UInt64) :
    Deliverable (.error (wrongVersion current expected)) where
  fits := by
    have hlength : (wrongVersion current expected).message.length ≤ 85 := by
      have hdigits (n : UInt64) : (toString n).length ≤ 20 :=
        Nat.repr_length n.toNat 20 (by decide) (by have := n.toNat_lt; omega)
      have hcurrent := hdigits current
      have hexpected := hdigits expected
      have hbefore : "Wrong schema version, current: ".length = 31 := by decide
      have hbetween : ", in request: ".length = 14 := by decide
      show ("Wrong schema version, current: " ++ toString current ++ ", in request: " ++
        toString expected).length ≤ 85
      rw [String.length_append, String.length_append, String.length_append]
      omega
    have hencode := Utf8.length_encode_le (wrongVersion current expected).message
    have hwrite := MsgPack.length_write_text_le (wrongVersion current expected).message
    constructor
    · show Header.room + (0x81 :: 0x31 ::
        (MsgPack.write (.text (wrongVersion current expected).message) ++ [])).length ≤ _
      rw [List.append_nil, List.length_cons, List.length_cons, Header.room, Packet.payloadLimit]
      omega
    · rw [answerPacket, Body.carried_insert, Value.carried_text, Body.carried_empty]
      exact Nat.le_of_ble_eq_true rfl
  exact h := by cases h
  plain h := by cases h; exact (by decide : ServerCode.wrongSchemaVersion &&& Status.errorBit = 0)

end Instance

/-! ## Exchanges -/

/-- The number of the next request. -/
def Peer.nextSync (p : Peer) : UInt64 := UInt64.ofNat (p.issued + 1)

/-- A request that gets through and is answered gives the caller the answer. -/
theorem Peer.exchange_of_answer {timeout : Duration} {r : Request} {o : RequestOptions}
    {tracker : SchemaTracker} {p : Peer} {inst : Instance} {session : Session} {a : Answer}
    (hcheck : r.check p.negotiated = .ok ()) (hrequest : (r.body p.session.salt).Fits)
    (hhandle : p.inst.handle p.session (p.packet r o).carried =
      (inst, session, inst.answer p.nextSync a))
    (ha : Instance.Deliverable a) :
    exchange timeout r o tracker p =
      (Instance.received inst.schemaVersion p.nextSync o.format a,
        tracker.observe inst.schemaVersion,
        { p with inst, session, issued := p.issued + 1 }) := by
  have hsync : (p.packet r o).header.sync = p.nextSync := rfl
  have hversion := Instance.answerPacket_schemaVersion inst.schemaVersion p.nextSync a
  simp only [exchange, hcheck, transmit_of_fits (p := p.packet r o) hrequest, hhandle, hsync,
    ha.responseIn, Option.map_some, ha.transmit, ha.carried, hversion,
    Instance.resultOf_answerPacket_eq_received ha.plain]

end TupleWire

/-
  Packets, written and read back.

  A packet that fits a frame is read back from it as it was, whatever stands
  before the frame and behind it.  What a packet may lose on the way is what its
  values may: a string that is not UTF-8 comes back as binary, and a body that
  nests too deep is not read at all.  `ofPayload_payload` is the exact outcome.
-/
import TupleWire.Proofs.Map.Sorted
import TupleWire.Proofs.MsgPack.RoundTrip
import TupleWire.Proofs.Packet.Framing

set_option autoImplicit false

namespace TupleWire

open MsgPack (depthBudget)

/-! ## Headers -/

/-- A header is read back from the map that stands for it. -/
theorem Header.ofValue_toValue (h : Header) : ofValue h.toValue = .ok h := by
  obtain ⟨code, sync, schemaVersion, streamId⟩ := h
  have hcode : code.toUInt64.toUInt32 = code := UInt32.toUInt32_toUInt64 code
  cases schemaVersion with
  | none =>
      cases streamId with
      | none => exact congrArg (fun code => Except.ok (Header.mk code sync none none)) hcode
      | some stream =>
          exact congrArg (fun code => Except.ok (Header.mk code sync none (some stream))) hcode
  | some version =>
      cases streamId with
      | none =>
          exact congrArg (fun code => Except.ok (Header.mk code sync (some version) none)) hcode
      | some stream =>
          exact congrArg (fun code => Except.ok (Header.mk code sync (some version) (some stream)))
            hcode

/-- Headers are carried as they are. -/
theorem Header.carried_toValue (h : Header) : h.toValue.carried = h.toValue := by
  obtain ⟨code, sync, schemaVersion, streamId⟩ := h
  cases schemaVersion <;> cases streamId <;> rfl

/-- A header nests as a map of numbers does. -/
theorem Header.depth_toValue (h : Header) : h.toValue.depth = 3 := by
  obtain ⟨code, sync, schemaVersion, streamId⟩ := h
  cases schemaVersion <;> cases streamId <;> rfl

/-! ## Bodies -/

namespace Body

/-- A body as it arrives. -/
def carried (body : Body) : Body :=
  ⟨body.entries.map fun e => (e.1, e.2.carried), body.ascending.map _ fun _ _ h => h⟩

theorem carried_toValue (body : Body) : body.toValue.carried = body.carried.toValue := by
  rw [toValue, toValue, Value.carried, Value.carriedEntries_eq_map, carried, List.map_map,
    List.map_map]
  rfl

/-- An entry of a body is read into it. -/
theorem add_byte (body : Body) (key : UInt8) (v : Value) :
    body.add (.byte key, v) = .ok (body.insert key v) := by
  have hle : key.toUInt64 ≤ 255 := by
    rw [UInt64.le_iff_toNat_le, UInt8.toNat_toUInt64]
    have hlt := key.toNat_lt
    show key.toNat ≤ 255
    omega
  have hkey : key.toUInt64.toUInt8 = key := UInt8.toUInt8_toUInt64 key
  rw [add, Value.byte]
  simp only [Value.asUInt?, if_pos hle, hkey]

theorem foldlM_add (es : List (UInt8 × Value)) (body : Body) :
    (es.map fun e => (Value.byte e.1, e.2)).foldlM add body =
      .ok (es.foldl (fun body e => body.insert e.1 e.2) body) := by
  induction es generalizing body with
  | nil => rfl
  | cons e es ih =>
      rw [List.map_cons, List.foldlM_cons, add_byte, List.foldl_cons]
      exact ih _

/-- A body is read back from the map that stands for it. -/
theorem ofValue_toValue (body : Body) : ofValue body.toValue = .ok body := by
  rw [toValue, ofValue, foldlM_add]
  exact congrArg Except.ok body.ofList_entries

/-- A body of text is carried as it is. -/
theorem carried_of_isText {body : Body} (h : body.toValue.isText = true) :
    body.carried = body := by
  have hvalue : body.carried.toValue = body.toValue := by
    rw [← carried_toValue, Value.carried_of_isText _ h]
  have hread := ofValue_toValue body.carried
  rw [hvalue, ofValue_toValue] at hread
  exact (Except.ok.inj hread).symm

end Body

/-! ## Payloads -/

namespace Packet

/-- A packet as it arrives. -/
def carried (p : Packet) : Packet := ⟨p.header, p.body.carried⟩

theorem takeValue_write {v : Value} (h : (MsgPack.write v).length < Bytes.capacity 4) (rest : Bytes) :
    takeValue (MsgPack.write v ++ rest) =
      if v.carried.depth ≤ depthBudget then .ok (v.carried, rest) else .error (.decode .depth) := by
  rw [takeValue, MsgPack.read, MsgPack.readWithin_write v depthBudget rest h]
  by_cases hdepth : v.carried.depth ≤ depthBudget
  · rw [MsgPack.within_of_le hdepth, if_pos hdepth]
  · rw [MsgPack.within_of_lt (Nat.not_le.1 hdepth), if_neg hdepth]

/-- What the payload of a packet is read as: the packet as it is carried, unless its body nests too
deep. -/
theorem ofPayload_payload {p : Packet} (h : p.payload.length < Bytes.capacity 4) :
    ofPayload p.payload =
      if p.body.carried.toValue.depth ≤ depthBudget then .ok p.carried
      else .error (.decode .depth) := by
  rw [payload, List.length_append] at h
  have hbody : (MsgPack.write p.body.toValue).isEmpty = false := by
    rw [List.isEmpty_eq_false_iff, ← List.length_pos_iff]
    exact MsgPack.length_write_pos _
  have htake := takeValue_write (v := p.body.toValue) (by omega) []
  rw [List.append_nil, Body.carried_toValue] at htake
  rw [ofPayload, payload, takeValue_write (by omega), Header.carried_toValue,
    Header.depth_toValue, if_pos (by decide)]
  dsimp only
  rw [Header.ofValue_toValue]
  dsimp only
  rw [readBody, hbody, htake]
  by_cases hdepth : p.body.carried.toValue.depth ≤ depthBudget
  · rw [if_pos hdepth, if_pos hdepth]
    simp only [Bool.false_eq_true, if_false, Body.ofValue_toValue]
    rfl
  · rw [if_neg hdepth, if_neg hdepth]
    rfl

/-! ## Frames -/

theorem frame_eq_ok_iff {p : Packet} {frame : Bytes} :
    p.frame = .ok frame ↔ p.payload.length ≤ payloadLimit ∧
      frame = 0xce :: Bytes.ofNat 4 p.payload.length ++ p.payload := by
  rw [Packet.frame]
  by_cases hfits : p.payload.length ≤ payloadLimit
  · rw [if_pos hfits, Except.ok.injEq, eq_comm]
    exact (and_iff_right hfits).symm
  · rw [if_neg hfits]
    simp only [reduceCtorEq, hfits, false_and]

/-- A frame is taken off a buffer that begins with it, and what follows it is left. -/
theorem next_frame {p : Packet} {frame : Bytes} {limit : Nat} (h : p.frame = .ok frame)
    (hlimit : p.payload.length ≤ limit) (rest : Bytes) :
    Frame.next limit (frame ++ rest) =
      .removed ((ofPayload p.payload).map fun q => ⟨p.payload, q⟩) rest := by
  obtain ⟨hfits, rfl⟩ := frame_eq_ok_iff.1 h
  have hform : p.payload.length < Frame.LengthForm.four.capacity := Nat.lt_succ_of_le hfits
  exact Frame.next_framed (f := ⟨.four, p.payload, hform⟩) hlimit rest

/-- A packet of text that does not nest too deep is read back from its frame as it was. -/
theorem next_frame_of_isText {p : Packet} {frame : Bytes} {limit : Nat} (h : p.frame = .ok frame)
    (htext : p.body.toValue.isText = true) (hdepth : p.body.toValue.depth ≤ depthBudget)
    (hlimit : p.payload.length ≤ limit) (rest : Bytes) :
    Frame.next limit (frame ++ rest) = .removed (.ok ⟨p.payload, p⟩) rest := by
  have hread := ofPayload_payload (p := p) (Nat.lt_succ_of_le (frame_eq_ok_iff.1 h).1)
  rw [carried, Body.carried_of_isText htext, if_pos hdepth] at hread
  rw [next_frame h hlimit, hread]
  rfl

/-- A packet of text that does not nest too deep, put behind whatever is to be written already,
adds one frame to it and nothing else; and whatever follows that frame, the packet is read back
from it as it was, floats bit by bit, with its payload, and just what follows is left. -/
theorem next_of_appendTo (p : Packet) (out out' rest : Bytes) (limit : Nat)
    (htext : p.body.toValue.isText = true) (hdepth : p.body.toValue.depth ≤ depthBudget)
    (happend : p.appendTo out = .ok out') (hlimit : p.payload.length ≤ limit) :
    ∃ frame, out' = out ++ frame ∧
      frame = 0xce :: Bytes.ofNat 4 p.payload.length ++ p.payload ∧
      Frame.next limit (frame ++ rest) = .removed (.ok ⟨p.payload, p⟩) rest := by
  rw [appendTo] at happend
  cases hframe : p.frame with
  | error e => simp [hframe] at happend
  | ok frame =>
      obtain ⟨hfits, heq⟩ := frame_eq_ok_iff.1 hframe
      rw [hframe] at happend
      refine ⟨frame, (Except.ok.inj happend).symm, heq, ?_⟩
      have hpayload := ofPayload_payload (p := p) (Nat.lt_succ_of_le hfits)
      rw [carried, Body.carried_of_isText htext, if_pos hdepth] at hpayload
      rw [next_frame hframe hlimit, hpayload]
      rfl

/-- An insertion of a tuple with a value of every kind, a NaN and the negative zero among them. -/
def everyKind : Packet :=
  ⟨⟨RequestType.insert.code, 7, some 3, none⟩, SortedMap.ofList
    [(Key.spaceId, .uint 0x200),
      (Key.tuple, .array [.nil, .bool true, .ofInt (.negSucc 0x80), .f32 0x7fc00001, .f64 0x8000000000000000,
        .str [0xc3, 0xa9], .bin [0xff], .map [(.uint 0xffff, .array [])], .ext 1 [0x00]])]⟩

/-- It goes behind a byte that is there already, and comes back before one that follows. -/
theorem next_of_appendTo_everyKind :
    ∃ frame, everyKind.appendTo [0x05] = .ok (0x05 :: frame) ∧
      Frame.next Frame.defaultLimit (frame ++ [0x07]) =
        .removed (.ok ⟨everyKind.payload, everyKind⟩) [0x07] := by
  have happend : everyKind.appendTo [0x05] =
      .ok ([0x05] ++ (0xce :: Bytes.ofNat 4 everyKind.payload.length ++ everyKind.payload)) := rfl
  obtain ⟨frame, hout, -, hnext⟩ := next_of_appendTo everyKind [0x05] _ [0x07] Frame.defaultLimit
    rfl (by decide) happend (by decide)
  exact ⟨frame, happend.trans (congrArg Except.ok hout), hnext⟩

end Packet

end TupleWire

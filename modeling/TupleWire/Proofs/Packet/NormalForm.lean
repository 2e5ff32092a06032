/-
  Payloads, read and written again.

  Reading accepts more than writing produces: integers and lengths in more bytes
  than they need, the reserved marker for nil, keys of a body twice, in any order
  or beyond a byte, a header without a sync, nil or nothing for a body.  What was
  read takes no more depth than there was for reading it
  (`MsgPack.depth_le_of_readWithin`), and a body takes no more than the map that
  it stands for.  So a packet that was read can be read again from what is
  written for it, and writing leads every accepted payload to a form that stays
  as it is (`Packet.accepted_payloads_normalize`).
-/
import TupleWire.Proofs.MsgPack.Reading
import TupleWire.Proofs.Packet.Reading
import TupleWire.Proofs.Packet.RoundTrip

set_option autoImplicit false

namespace TupleWire

/-! ## Depth -/

namespace Value

variable {n : Nat}

theorem depthOfItems_le_iff {vs : List Value} : depthOfItems vs ≤ n ↔ ∀ v ∈ vs, v.depth ≤ n := by
  induction vs with
  | nil => simp [depthOfItems]
  | cons v vs ih => rw [depthOfItems, Nat.max_le, ih, List.forall_mem_cons]

theorem depthOfEntries_le_iff {es : List (Value × Value)} :
    depthOfEntries es ≤ n ↔ ∀ e ∈ es, e.1.depth ≤ n ∧ e.2.depth ≤ n := by
  induction es with
  | nil => simp [depthOfEntries]
  | cons e es ih => rw [depthOfEntries, Nat.max_le, Nat.max_le, ih, List.forall_mem_cons]

end Value

namespace MsgPack

/-- What was found behind a marker takes the depth that there was for it. -/
theorem Flat.depth_le {budget : Nat} {taken : Bytes} {v : Value} (h : Flat budget taken v) :
    v.depth ≤ budget + 1 := by
  cases h with
  | str front bytes hbudget | bin front bytes hbudget | ext front kind bytes hbudget =>
      rw [Value.depth]
      omega
  | scalar hscalar =>
      cases v with
      | str | bin | array | map | ext => exact hscalar.elim
      | _ => exact Nat.succ_pos budget

/-- A value takes no more depth than there was when it was read. -/
theorem depth_le_of_readWithin {budget : Nat} {bs rest : Bytes} {v : Value}
    (h : readWithin budget bs = .ok (v, rest)) : v.depth ≤ budget := by
  induction budget using Nat.strongRecOn generalizing bs rest v with
  | ind budget ih =>
      rcases readWithin_cases h with ⟨below, b, taken, rfl, rfl, hflat⟩ |
        ⟨below, front, n, body, rfl, rfl, ⟨items, hmany, rfl⟩ | ⟨entries, hmany, rfl⟩⟩
      · exact hflat.depth_le
      · have hitems : ∀ v ∈ items, v.depth ≤ below :=
          forall_mem_of_readMany (ih below (by omega)) (List.forall_mem_nil _) hmany
        have hle := Value.depthOfItems_le_iff.2 hitems
        rw [Value.depth]
        omega
      · have hpair {bs rest : Bytes} {e : Value × Value}
            (he : readPair (readWithin below) (readWithin below) bs = .ok (e, rest)) :
            e.1.depth ≤ below ∧ e.2.depth ≤ below := by
          obtain ⟨between, hkey, hvalue⟩ := readPair_eq_ok he
          exact ⟨ih below (by omega) hkey, ih below (by omega) hvalue⟩
        have hentries := forall_mem_of_readMany hpair (List.forall_mem_nil _) hmany
        have hle := Value.depthOfEntries_le_iff.2 hentries
        rw [Value.depth]
        omega

end MsgPack

/-- A body takes two units of depth beside those of its values. -/
theorem Body.depth_toValue_le {body : Body} {n : Nat} (hn : 1 ≤ n)
    (h : ∀ key v, body.get? key = some v → v.depth ≤ n) : body.toValue.depth ≤ 2 + n := by
  have hentries : ∀ e ∈ body.entries.map fun e => (Value.byte e.1, e.2),
      e.1.depth ≤ n ∧ e.2.depth ≤ n := by
    rintro _ hmem
    obtain ⟨e, he, rfl⟩ := List.mem_map.1 hmem
    exact ⟨hn, h e.1 e.2 (SortedMap.get?_eq_some_iff.2 he)⟩
  have hle := Value.depthOfEntries_le_iff.2 hentries
  rw [toValue, Value.depth]
  omega

namespace Packet

/-- The body of a packet that was read can be read again as far as its depth goes. -/
theorem depth_of_ofPayload {payload : Bytes} {p : Packet} (h : ofPayload payload = .ok p) :
    p.body.toValue.depth ≤ MsgPack.depthBudget := by
  have hinner : ∀ key v, p.body.get? key = some v → v.depth ≤ MsgPack.depthBudget - 2 := by
    intro key v hv
    obtain ⟨header, rest, -, -, hempty | ⟨body, left, hread, hbody⟩⟩ := ofPayload_eq_ok h
    · rw [hempty] at hv
      cases hv
    · have hdepth := MsgPack.depth_le_of_readWithin hread
      refine Body.forall_of_ofValue (P := fun v => v.depth ≤ MsgPack.depthBudget - 2) hbody ?_ hv
      rintro entries rfl e he
      -- the map of the body took two units before its entries were read
      rw [Value.depth] at hdepth
      have hle := Value.depthOfEntries_le_iff.1 (Nat.le_sub_of_add_le' hdepth) e he
      exact hle.2
  exact Body.depth_toValue_le (by decide) hinner

/-! ## Normal forms -/

/-- What a payload becomes when it is read and written again. -/
def normalized (payload : Bytes) : Except ProtocolError Bytes :=
  (ofPayload payload).map Packet.payload

theorem normalized_of_ofPayload {given : Bytes} {p : Packet} (h : ofPayload given = .ok p) :
    normalized given = .ok p.payload := by
  rw [normalized, h]
  rfl

/-- A packet of text that was read is read again from what is written for it. -/
theorem ofPayload_payload_of_read {given : Bytes} {p : Packet} (h : ofPayload given = .ok p)
    (htext : p.body.toValue.isText = true) (hfits : p.payload.length < Bytes.capacity 4) :
    ofPayload p.payload = .ok p := by
  rw [ofPayload_payload hfits, Body.carried_of_isText htext, if_pos (depth_of_ofPayload h), carried,
    Body.carried_of_isText htext]

/-- A packet that was read from any accepted payload, if all its strings are UTF-8 and what is
written for it is shorter than 4 GiB, can be written: behind whatever stands there already comes one
frame.  Its payload is read as the same packet, so it is a normal form: it is what the accepted
payload becomes when it is read and written once, and it stays as it is. -/
theorem accepted_payloads_normalize (given out : Bytes) (p : Packet)
    (hread : ofPayload given = .ok p) (htext : p.body.toValue.isText = true)
    (hfits : p.payload.length < UInt32.size) :
    p.appendTo out = .ok (out ++ (0xce :: Bytes.ofNat 4 p.payload.length ++ p.payload)) ∧
      ofPayload p.payload = .ok p ∧
      normalized given = .ok p.payload ∧ normalized p.payload = .ok p.payload := by
  have hagain := ofPayload_payload_of_read hread htext hfits
  have hframe := frame_eq_ok_iff.2 ⟨Nat.le_of_lt_succ hfits, rfl⟩
  refine ⟨?_, hagain, normalized_of_ofPayload hread, normalized_of_ofPayload hagain⟩
  rw [appendTo, hframe]

/-- A call spelled at length: a header without a sync and with its code twice, once in nine bytes; a
body with its length in two bytes, a key that is no byte, the reserved marker for a nil in a list,
the name of the function behind the arguments and once more, and a byte behind it all. -/
def longhand : Bytes :=
  [0x82, 0x00, 0x01, 0xcc, 0x00, 0xcf, 0, 0, 0, 0, 0, 0, 0, 0x0a] ++
    [0xde, 0x00, 0x04, 0x21, 0xdc, 0x00, 0x02, 0xc1, 0xd1, 0x00, 0x05, 0xcd, 0x01, 0x00, 0x07,
      0x22, 0xa1, 0x66, 0xd0, 0x22, 0xd9, 0x02, 0xc3, 0xa9] ++ [0xc1]

/-- The call that it spells. -/
def call : Packet :=
  ⟨⟨RequestType.call.code, 0, none, none⟩, SortedMap.ofList
    [(Key.functionName, .str [0xc3, 0xa9]), (Key.tuple, .array [.nil, .uint 5])]⟩

/-- The call in its normal form. -/
def shorthand : Bytes :=
  [0x82, 0x00, 0x0a, 0x01, 0x00, 0x82, 0x21, 0x92, 0xc0, 0x05, 0x22, 0xa2, 0xc3, 0xa9]

/-- Written, the call is this one frame, and its payload stays as it is. -/
theorem accepted_payloads_normalize_of_longhand :
    (ofPayload longhand = .ok call ∧ call.body.toValue.isText = true ∧
        call.payload.length < UInt32.size) ∧
      call.appendTo [0x05] = .ok (0x05 :: 0xce :: 0 :: 0 :: 0 :: 14 :: shorthand) ∧
      ofPayload shorthand = .ok call ∧
      normalized longhand = .ok shorthand ∧ normalized shorthand = .ok shorthand := by
  have hread : ofPayload longhand = .ok call := by decide +kernel
  have htext : call.body.toValue.isText = true := rfl
  have hpayload : call.payload = shorthand := by decide +kernel
  have hfits : call.payload.length < UInt32.size := by
    rw [hpayload]
    decide
  have hnormal := accepted_payloads_normalize longhand [0x05] call hread htext hfits
  rw [hpayload] at hnormal
  exact ⟨⟨hread, htext, hfits⟩, hnormal⟩

end Packet

end TupleWire

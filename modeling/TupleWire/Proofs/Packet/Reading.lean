/-
  What a packet says about its payload.

  A payload that is a packet begins with a value that stands for its header, and
  behind it comes nothing or a value that stands for its body
  (`Packet.ofPayload_eq_ok`).  Whatever holds of every value in the map of a body
  holds of every value that the body keeps (`Body.forall_of_ofValue`).
-/
import TupleWire.Packet.Basic

set_option autoImplicit false

namespace TupleWire

/-! ## Bodies -/

namespace Body

variable {P : Value → Prop} {entries : List (Value × Value)} {body body' : Body}

/-- An entry that is taken into account has an integer for its key, and it is put under this key or
left out. -/
theorem add_eq_ok {e : Value × Value} (h : body.add e = .ok body') :
    ∃ key, e.1.asUInt? = some key ∧
      body' = if key ≤ 255 then body.insert key.toUInt8 e.2 else body := by
  rw [add] at h
  split at h
  · cases h
  · rename_i key hkey
    exact ⟨key, hkey, (Except.ok.inj h).symm⟩

theorem forall_of_foldlM (hentries : ∀ e ∈ entries, P e.2)
    (hbody : ∀ key v, body.get? key = some v → P v) (h : entries.foldlM add body = .ok body')
    {key : UInt8} {v : Value} (hv : body'.get? key = some v) : P v := by
  induction entries generalizing body with
  | nil =>
      cases h
      exact hbody key v hv
  | cons e rest ih =>
      rw [List.foldlM_cons] at h
      cases hadd : body.add e with
      | error fault =>
          rw [hadd] at h
          cases h
      | ok next =>
          rw [hadd] at h
          refine ih (fun e he => hentries e (List.mem_cons_of_mem _ he)) ?_ h
          intro k w hw
          obtain ⟨wire, -, rfl⟩ := add_eq_ok hadd
          split at hw
          · rw [SortedMap.get?_insert] at hw
            split at hw
            · cases hw
              exact hentries e List.mem_cons_self
            · exact hbody k w hw
          · exact hbody k w hw

/-- What a body keeps is among the values of the map that it was read from. -/
theorem forall_of_ofValue {value : Value} (h : ofValue value = .ok body)
    (hentries : ∀ entries, value = .map entries → ∀ e ∈ entries, P e.2) {key : UInt8} {v : Value}
    (hv : body.get? key = some v) : P v := by
  cases value with
  | map entries =>
      refine forall_of_foldlM (hentries entries rfl) ?_ h hv
      intro key v hempty
      cases hempty
  | nil =>
      cases h
      cases hv
  | _ => cases h

end Body

/-! ## Payloads -/

namespace Packet

theorem takeValue_eq_ok {bs rest : Bytes} {v : Value} (h : takeValue bs = .ok (v, rest)) :
    MsgPack.read bs = .ok (v, rest) := by
  rw [takeValue] at h
  split at h
  · cases h
  · rename_i hread
    cases h
    exact hread

theorem readBody_eq_ok {bs : Bytes} {body : Body} (h : readBody bs = .ok body) :
    body = Body.empty ∨
      ∃ v rest, MsgPack.read bs = .ok (v, rest) ∧ Body.ofValue v = .ok body := by
  rw [readBody] at h
  split at h
  · cases h
    exact .inl rfl
  · split at h
    · cases h
    · rename_i v rest htake
      split at h
      · cases h
      · rename_i hbody
        cases h
        exact .inr ⟨v, rest, takeValue_eq_ok htake, hbody⟩

/-- A packet is read from two values, or from one if its body is empty. -/
theorem ofPayload_eq_ok {bs : Bytes} {p : Packet} (h : ofPayload bs = .ok p) :
    ∃ v rest, MsgPack.read bs = .ok (v, rest) ∧ Header.ofValue v = .ok p.header ∧
      (p.body = Body.empty ∨
        ∃ w left, MsgPack.read rest = .ok (w, left) ∧ Body.ofValue w = .ok p.body) := by
  rw [ofPayload] at h
  split at h
  · cases h
  · rename_i v rest htake
    split at h
    · cases h
    · rename_i hheader
      split at h
      · cases h
      · rename_i hbody
        cases h
        exact ⟨v, rest, takeValue_eq_ok htake, hheader, readBody_eq_ok hbody⟩

end Packet

end TupleWire

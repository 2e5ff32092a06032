/-
  How large packets and the strings in them can be.

  The header of a packet takes a bounded room (`Header.length_write_le`).  The
  strings in a value that was read stood in the input one beside the other, so
  together they are no longer than the part of it that the reading took
  (`takes_readWithin`).  A string in the body of a packet is therefore no longer
  than the payload.
-/
import Mathlib.Algebra.GroupWithZero.Nat
import TupleWire.Proofs.MsgPack.Reading
import TupleWire.Proofs.Packet.Reading

set_option autoImplicit false

namespace TupleWire

/-! ## What is written -/

namespace MsgPack

theorem length_write_text_le (s : String) :
    (write (.text s)).length ≤ 5 + (Utf8.encode s).length := by
  have hhead : (strHead (Utf8.encode s).length).length ≤ 5 := by
    grind [strHead, Bytes.length_ofNat]
  rw [Value.text, write, strBytes, Utf8.isValid_encode, if_pos rfl, List.length_append]
  omega

theorem length_uintBytes_le (n : Nat) : (uintBytes n).length ≤ 9 := by
  grind [uintBytes, Bytes.length_ofNat]

theorem length_writeEntries_le {es : List (Value × Value)} {n : Nat}
    (h : ∀ e ∈ es, (write e.1).length + (write e.2).length ≤ n) :
    (writeEntries es).length ≤ es.length * n := by
  induction es with
  | nil => exact Nat.zero_le _
  | cons e rest ih =>
      have hfirst := h e List.mem_cons_self
      have hrest := ih fun e he => h e (List.mem_cons_of_mem _ he)
      rw [writeEntries, List.length_append, List.length_append, List.length_cons, Nat.succ_mul]
      omega

end MsgPack

/-- The room that a header takes: four entries of two numbers each, and their head. -/
def Header.room : Nat := 73

theorem Header.length_write_le (h : Header) : (MsgPack.write h.toValue).length ≤ room := by
  have hnumbers {es : List (Value × Value)}
      (hes : ∀ e ∈ es, ∃ key n : UInt64, e = (.uint key, .uint n)) (hlength : es.length ≤ 4) :
      (MsgPack.write (.map es)).length ≤ room := by
    have hentries : (MsgPack.writeEntries es).length ≤ es.length * 18 := by
      apply MsgPack.length_writeEntries_le
      intro e he
      obtain ⟨key, n, rfl⟩ := hes e he
      have hkey := MsgPack.length_uintBytes_le key.toNat
      have hn := MsgPack.length_uintBytes_le n.toNat
      rw [MsgPack.write, MsgPack.write]
      omega
    rw [MsgPack.write, MsgPack.mapHead, if_pos (by omega), List.length_append, room]
    simp only [List.length_singleton]
    omega
  obtain ⟨code, sync, schemaVersion, streamId⟩ := h
  apply hnumbers
  · intro e he
    simp only [optionalEntry, Value.byte, Value.word, List.mem_append, List.mem_cons,
      List.not_mem_nil, or_false, Option.mem_toList, Option.map_eq_some_iff] at he
    rcases he with ((rfl | rfl) | ⟨n, _, rfl⟩) | ⟨n, _, rfl⟩
    · exact ⟨_, _, rfl⟩
    · exact ⟨_, _, rfl⟩
    · exact ⟨_, _, rfl⟩
    · exact ⟨_, _, rfl⟩
  · cases schemaVersion <;> cases streamId <;> simp [optionalEntry]

/-! ## What is read -/

namespace Value

mutual

/-- The bytes in the strings of a value. -/
def textSize : Value → Nat
  | .str bytes => bytes.length
  | .array items => textSizeItems items
  | .map entries => textSizeEntries entries
  | _ => 0

def textSizeItems : List Value → Nat
  | [] => 0
  | v :: vs => v.textSize + textSizeItems vs

def textSizeEntries : List (Value × Value) → Nat
  | [] => 0
  | (k, v) :: es => k.textSize + v.textSize + textSizeEntries es

end

theorem textSizeItems_eq_sum (vs : List Value) : textSizeItems vs = (vs.map textSize).sum := by
  induction vs with
  | nil => rfl
  | cons v vs ih => rw [textSizeItems, List.map_cons, List.sum_cons, ih]

theorem textSizeEntries_eq_sum (es : List (Value × Value)) :
    textSizeEntries es = (es.map fun e => e.1.textSize + e.2.textSize).sum := by
  induction es with
  | nil => rfl
  | cons e es ih => rw [textSizeEntries, List.map_cons, List.sum_cons, ih]

/-- The value of an entry is no larger than the map. -/
theorem textSize_le_of_mem {es : List (Value × Value)} {e : Value × Value} (h : e ∈ es) :
    e.2.textSize ≤ (map es).textSize := by
  show _ ≤ textSizeEntries es
  induction es with
  | nil => cases h
  | cons first rest ih =>
      rw [textSizeEntries]
      rcases List.mem_cons.1 h with rfl | hrest
      · omega
      · have hle := ih hrest
        omega

@[simp] theorem textSize_array (items : List Value) :
    (array items).textSize = (items.map textSize).sum := textSizeItems_eq_sum items

@[simp] theorem textSize_map (entries : List (Value × Value)) :
    (map entries).textSize = (entries.map fun e => e.1.textSize + e.2.textSize).sum :=
  textSizeEntries_eq_sum entries

end Value

namespace MsgPack

open Value

/-- What a reader finds has a size within what it takes of the input. -/
def Takes {α : Type} (size : α → Nat) (one : Reader α) : Prop :=
  ∀ {bs rest : Bytes} {a : α}, one bs = .ok (a, rest) → size a + rest.length ≤ bs.length

section Compound

variable {α β : Type} {size : α → Nat} {size' : β → Nat} {one : Reader α} {other : Reader β}

theorem takes_readPair (hone : Takes size one) (hother : Takes size' other) :
    Takes (fun pair => size pair.1 + size' pair.2) (readPair one other) := by
  intro bs rest pair h
  obtain ⟨between, hfirst, hsecond⟩ := readPair_eq_ok h
  have htaken := hone hfirst
  have hmore := hother hsecond
  dsimp only
  omega

theorem length_of_readMany (hone : Takes size one) {n : Nat} {found all : List α} {bs rest : Bytes}
    (h : readMany one n found bs = .ok (all, rest)) :
    (all.map size).sum + rest.length ≤ (found.map size).sum + bs.length := by
  induction n generalizing found bs with
  | zero =>
      cases h
      exact Nat.le_of_eq (by rw [List.map_reverse, List.sum_reverse])
  | succ n ih =>
      rw [readMany] at h
      split at h
      · cases h
      · rename_i hfirst
        have htaken := hone hfirst
        have hmore := ih h
        rw [List.map_cons, List.sum_cons] at hmore
        omega

end Compound

/-- A string is a part of the piece that it was found in. -/
theorem Flat.textSize_le {budget : Nat} {taken : Bytes} {v : Value} (h : Flat budget taken v) :
    v.textSize ≤ taken.length := by
  cases h with
  | str front bytes => simp only [textSize, List.length_append, Nat.le_add_left]
  | bin front bytes | ext front kind bytes => exact Nat.zero_le _
  | scalar hscalar =>
      cases v with
      | str | bin | array | map | ext => exact hscalar.elim
      | _ => exact Nat.zero_le _

/-- The strings of a value take no more than the reading of it. -/
theorem takes_readWithin (budget : Nat) : Takes textSize (readWithin budget) := by
  induction budget using Nat.strongRecOn with
  | ind budget ih =>
      intro bs rest v h
      rcases readWithin_cases h with ⟨below, b, taken, rfl, rfl, hflat⟩ |
        ⟨below, front, n, body, rfl, rfl, ⟨items, hmany, rfl⟩ | ⟨entries, hmany, rfl⟩⟩
      · have hsize := hflat.textSize_le
        rw [List.length_append, List.length_cons]
        omega
      · have hnested : Takes textSize (readWithin below) := ih below (by omega)
        have hsize := length_of_readMany hnested hmany
        rw [List.map_nil, List.sum_nil] at hsize
        rw [textSize_array, List.length_append]
        omega
      · have hnested : Takes textSize (readWithin below) := ih below (by omega)
        have hsize := length_of_readMany (takes_readPair hnested hnested) hmany
        rw [List.map_nil, List.sum_nil] at hsize
        rw [textSize_map, List.length_append]
        omega

end MsgPack

/-! ## Packets -/

/-- A string in the body of a packet is no longer than the payload. -/
theorem Packet.textSize_of_ofPayload {payload : Bytes} {p : Packet}
    (h : ofPayload payload = .ok p) {key : UInt8} {v : Value} (hv : p.body.get? key = some v) :
    v.textSize ≤ payload.length := by
  have hread {bs rest : Bytes} {value : Value} (hfound : MsgPack.read bs = .ok (value, rest)) :
      value.textSize + rest.length ≤ bs.length :=
    MsgPack.takes_readWithin MsgPack.depthBudget hfound
  obtain ⟨header, rest, hheader, -, hempty | ⟨body, left, hbody, hofValue⟩⟩ := ofPayload_eq_ok h
  · rw [hempty] at hv
    cases hv
  · refine Body.forall_of_ofValue (P := fun v => v.textSize ≤ payload.length) hofValue ?_ hv
    rintro entries rfl e he
    have hfront := hread hheader
    have hmap := hread hbody
    have hle := Value.textSize_le_of_mem he
    omega

end TupleWire

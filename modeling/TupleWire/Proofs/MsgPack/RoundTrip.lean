/-
  Values, written and read back.

  A value that is written is read back as it was, except for strings that are
  not UTF-8: these come back as binary, which is what `Value.carried` says.
  Nothing else can happen to a value whose written form is shorter than 4 GiB,
  unless it nests deeper than the reader follows.  `readWithin_write` gives the
  exact outcome for every depth budget, whatever follows the value.
-/
import TupleWire.Proofs.MsgPack.Head

set_option autoImplicit false

namespace TupleWire

namespace Value

/-! ## What reading takes and what writing keeps -/

mutual

/-- The depth budget that it takes to read a value. -/
def depth : Value → Nat
  | .str _ | .ext _ _ => 3
  | .bin _ => 2
  | .array items => 2 + depthOfItems items
  | .map entries => 2 + depthOfEntries entries
  | _ => 1

/-- The depth budget that it takes to read elements. -/
def depthOfItems : List Value → Nat
  | [] => 0
  | v :: vs => max v.depth (depthOfItems vs)

/-- The depth budget that it takes to read entries. -/
def depthOfEntries : List (Value × Value) → Nat
  | [] => 0
  | (k, v) :: es => max (max k.depth v.depth) (depthOfEntries es)

end

mutual

/-- Whether every string in a value is UTF-8. -/
def isText : Value → Bool
  | .str bytes => Utf8.isValid bytes
  | .array items => isTextItems items
  | .map entries => isTextEntries entries
  | _ => true

def isTextItems : List Value → Bool
  | [] => true
  | v :: vs => v.isText && isTextItems vs

def isTextEntries : List (Value × Value) → Bool
  | [] => true
  | (k, v) :: es => k.isText && v.isText && isTextEntries es

end

mutual

/-- A value as it arrives: strings that are not UTF-8 have become binary. -/
def carried : Value → Value
  | .str bytes => if Utf8.isValid bytes then .str bytes else .bin bytes
  | .array items => .array (carriedItems items)
  | .map entries => .map (carriedEntries entries)
  | v => v

def carriedItems : List Value → List Value
  | [] => []
  | v :: vs => v.carried :: carriedItems vs

def carriedEntries : List (Value × Value) → List (Value × Value)
  | [] => []
  | (k, v) :: es => (k.carried, v.carried) :: carriedEntries es

end

theorem depth_pos (v : Value) : 0 < v.depth := by
  cases v <;> simp only [depth] <;> omega

theorem carriedItems_eq_map (vs : List Value) : carriedItems vs = vs.map carried := by
  induction vs with
  | nil => rfl
  | cons v vs ih => rw [carriedItems, List.map_cons, ih]

theorem carriedEntries_eq_map (es : List (Value × Value)) :
    carriedEntries es = es.map fun e => (e.1.carried, e.2.carried) := by
  induction es with
  | nil => rfl
  | cons e es ih => rw [carriedEntries, List.map_cons, ih]

mutual

/-- Text arrives as it is. -/
theorem carried_of_isText : ∀ v : Value, v.isText = true → v.carried = v
  | .str _, h => if_pos h
  | .array items, h => congrArg Value.array (carriedItems_of_isText items h)
  | .map entries, h => congrArg Value.map (carriedEntries_of_isText entries h)
  | .nil, _ | .bool _, _ | .uint _, _ | .nint _, _ | .f32 _, _ | .f64 _, _ | .bin _, _
  | .ext _ _, _ => rfl

theorem carriedItems_of_isText : ∀ vs : List Value, isTextItems vs = true → carriedItems vs = vs
  | [], _ => rfl
  | v :: vs, h => by
      rw [isTextItems, Bool.and_eq_true] at h
      rw [carriedItems, carried_of_isText v h.1, carriedItems_of_isText vs h.2]

theorem carriedEntries_of_isText : ∀ es : List (Value × Value),
    isTextEntries es = true → carriedEntries es = es
  | [], _ => rfl
  | (k, v) :: es, h => by
      rw [isTextEntries, Bool.and_eq_true, Bool.and_eq_true] at h
      rw [carriedEntries, carried_of_isText k h.1.1, carried_of_isText v h.1.2,
        carriedEntries_of_isText es h.2]

end

end Value

namespace MsgPack

open Bytes (capacity)
open Value

/-! ## Written forms -/

theorem length_write_pos (v : Value) : 0 < (write v).length := by
  cases v with
  | nil | bool | f32 | f64 => simp [write]
  | uint n => grind [write, uintBytes]
  | nint m => grind [write, nintBytes]
  | str bytes => grind [write, strBytes, strHead, binHead]
  | bin bytes => grind [write, binHead]
  | array items => grind [write, arrayHead]
  | map entries => grind [write, mapHead]
  | ext kind data => grind [write, extHead]

theorem length_le_length_writeItems (vs : List Value) : vs.length ≤ (writeItems vs).length := by
  induction vs with
  | nil => exact Nat.le_refl 0
  | cons v vs ih =>
      have hpos := length_write_pos v
      rw [writeItems, List.length_append, List.length_cons]
      omega

theorem length_le_length_writeEntries (es : List (Value × Value)) :
    es.length ≤ (writeEntries es).length := by
  induction es with
  | nil => exact Nat.le_refl 0
  | cons e es ih =>
      have hpos := length_write_pos e.1
      rw [writeEntries, List.length_append, List.length_append, List.length_cons]
      omega

/-! ## Reading back

What was written is always well formed, so the budget is all that its reading can lack. -/

/-- The outcome of a reading that fails only if it takes more depth than there is. -/
def within {α : Type} (taken budget : Nat) (a : α) (rest : Bytes) :
    Except ReadError (α × Bytes) :=
  if taken ≤ budget then .ok (a, rest) else .error .depth

section Within

variable {α : Type} {taken budget : Nat} {a : α} {rest : Bytes}

theorem within_of_le (h : taken ≤ budget) : within taken budget a rest = .ok (a, rest) := if_pos h

theorem within_of_lt (h : budget < taken) : within taken budget a rest = .error .depth :=
  if_neg (Nat.not_le.2 h)

end Within

variable {budget : Nat} {bytes rest : Bytes}

theorem readWithin_str (h : bytes.length < capacity 4) :
    readWithin budget (strHead bytes.length ++ (bytes ++ rest)) =
      within 3 budget (.str bytes) rest := by
  obtain ⟨b, tail, len, hhead, hb, hlen⟩ := announces_strHead h
  cases budget with
  | zero => rfl
  | succ budget =>
      rw [hhead, List.cons_append, readWithin_flat hb trivial, readFlat, readStr, hlen]
      rcases budget with _ | _ | budget
      · rfl
      · rfl
      · dsimp only
        rw [readPayload_append, within_of_le (by omega)]

theorem readWithin_bin (h : bytes.length < capacity 4) :
    readWithin budget (binHead bytes.length ++ (bytes ++ rest)) =
      within 2 budget (.bin bytes) rest := by
  obtain ⟨b, tail, len, hhead, hb, hlen⟩ := announces_binHead h
  cases budget with
  | zero => rfl
  | succ budget =>
      rw [hhead, List.cons_append, readWithin_flat hb trivial, readFlat, readBin, hlen]
      cases budget with
      | zero => rfl
      | succ budget =>
          dsimp only
          rw [readPayload_append, within_of_le (by omega)]

theorem readWithin_ext (kind : Int8) (h : bytes.length < capacity 4) :
    readWithin budget (extHead kind bytes.length ++ (bytes ++ rest)) =
      within 3 budget (.ext kind bytes) rest := by
  obtain ⟨head, htyped, b, tail, len, hhead, hb, hlen⟩ := announces_extHead kind h
  cases budget with
  | zero => rfl
  | succ budget =>
      rw [htyped, hhead, List.append_assoc, List.cons_append, readWithin_flat hb trivial, readFlat,
        readExt, hlen]
      rcases budget with _ | _ | budget
      · rfl
      · rfl
      · dsimp only [List.cons_append, List.nil_append]
        rw [readPayload_append, within_of_le (by omega)]
        rfl

/-- Contents of a known number, of which only the depth can make the reading fail. -/
theorem readContents_of_readMany {α : Type} {len : Length} {one : Reader α}
    {make : List α → Value} {n taken : Nat} {tail body : Bytes} {found : List α}
    (hlen : ∀ rest, len.read (tail ++ rest) = .ok (n, rest))
    (hmany : readMany one n [] body = within taken budget found rest) :
    readContents len (some one) make (tail ++ body) =
      within (2 + taken) (budget + 2) (make found) rest := by
  rw [readContents, hlen]
  dsimp only
  rw [hmany]
  by_cases htaken : taken ≤ budget
  · rw [within_of_le htaken, within_of_le (by omega)]
  · rw [within_of_lt (by omega), within_of_lt (by omega)]

theorem readWithin_array {n taken : Nat} {body : Bytes} {items : List Value} (h : n < capacity 4)
    (hmany : ∀ budget, readMany (readWithin budget) n [] body = within taken budget items rest) :
    readWithin budget (arrayHead n ++ body) = within (2 + taken) budget (.array items) rest := by
  obtain ⟨b, tail, len, hhead, hb, hlen⟩ := announces_arrayHead h
  rcases budget with _ | _ | budget
  · exact (within_of_lt (by omega)).symm
  · rw [hhead, List.cons_append, readWithin, hb, within_of_lt (by omega)]
    dsimp only
    rw [readContents, hlen]
  · rw [hhead, List.cons_append, readWithin, hb]
    exact readContents_of_readMany hlen (hmany budget)

theorem readWithin_map {n taken : Nat} {body : Bytes} {entries : List (Value × Value)}
    (h : n < capacity 4)
    (hmany : ∀ budget, readMany (readPair (readWithin budget) (readWithin budget)) n [] body =
      within taken budget entries rest) :
    readWithin budget (mapHead n ++ body) = within (2 + taken) budget (.map entries) rest := by
  obtain ⟨b, tail, len, hhead, hb, hlen⟩ := announces_mapHead h
  rcases budget with _ | _ | budget
  · exact (within_of_lt (by omega)).symm
  · rw [hhead, List.cons_append, readWithin, hb, within_of_lt (by omega)]
    dsimp only
    rw [readContents, hlen]
  · rw [hhead, List.cons_append, readWithin, hb]
    exact readContents_of_readMany hlen (hmany budget)

theorem readMany_succ {α : Type} {one : Reader α} {a : α} {n first others : Nat}
    {found more : List α} {body left : Bytes} (hone : one body = within first budget a left)
    (hmany : readMany one n (a :: found) left =
      within others budget ((a :: found).reverse ++ more) rest) :
    readMany one (n + 1) found body =
      within (max first others) budget (found.reverse ++ a :: more) rest := by
  rw [readMany, hone]
  by_cases hfirst : first ≤ budget
  · rw [within_of_le hfirst]
    dsimp only
    rw [hmany, List.reverse_cons, List.append_assoc, List.singleton_append]
    by_cases hothers : others ≤ budget
    · rw [within_of_le hothers, within_of_le (by omega)]
    · rw [within_of_lt (by omega), within_of_lt (by omega)]
  · rw [within_of_lt (by omega), within_of_lt (by omega)]

theorem readPair_of_within {α β : Type} {first : Reader α} {second : Reader β} {a : α} {b : β}
    {takenFirst takenSecond : Nat} {body left : Bytes}
    (hfirst : first body = within takenFirst budget a left)
    (hsecond : second left = within takenSecond budget b rest) :
    readPair first second body = within (max takenFirst takenSecond) budget (a, b) rest := by
  rw [readPair, hfirst]
  by_cases hle : takenFirst ≤ budget
  · rw [within_of_le hle]
    dsimp only
    rw [hsecond]
    by_cases hle' : takenSecond ≤ budget
    · rw [within_of_le hle', within_of_le (by omega)]
    · rw [within_of_lt (by omega), within_of_lt (by omega)]
  · rw [within_of_lt (by omega), within_of_lt (by omega)]

mutual

/-- A written value is read back as it is carried, whatever follows it, if there is the depth that
it takes, and otherwise the depth is what is missing. -/
theorem readWithin_write : ∀ (v : Value) (budget : Nat) (rest : Bytes),
    (write v).length < capacity 4 →
      readWithin budget (write v ++ rest) = within v.carried.depth budget v.carried rest
  | v, 0, rest, _ => (within_of_lt v.carried.depth_pos).symm
  | .nil, budget + 1, rest, _ => by
      rw [write, List.cons_append, readWithin_flat (m := .complete .nil) rfl trivial]
      rfl
  | .bool b, budget + 1, rest, _ => by
      cases b with
      | false => exact readWithin_flat (m := .complete (.bool false)) rfl trivial budget rest
      | true => exact readWithin_flat (m := .complete (.bool true)) rfl trivial budget rest
  | .uint n, budget + 1, rest, _ => by
      rw [write, readWithin_uintBytes n.toNat_lt, UInt64.ofNat_toNat]
      rfl
  | .nint m, budget + 1, rest, _ => by
      rw [write, readWithin_nintBytes m.isLt, Value.ofInt, Fin.ofNat_val_eq_self]
      rfl
  | .f32 bits, budget + 1, rest, _ => by
      rw [write, List.cons_append, readWithin_flat (m := .float32) rfl trivial, readFlat,
        readNat_ofNat bits.toNat_lt]
      dsimp only
      rw [UInt32.ofNat_toNat]
      rfl
  | .f64 bits, budget + 1, rest, _ => by
      rw [write, List.cons_append, readWithin_flat (m := .float64) rfl trivial, readFlat,
        readNat_ofNat bits.toNat_lt]
      dsimp only
      rw [UInt64.ofNat_toNat]
      rfl
  | .str bytes, budget + 1, rest, h => by
      rw [write, strBytes, List.length_append] at h
      rw [write, strBytes, List.append_assoc, carried]
      split
      · exact readWithin_str (by omega)
      · exact readWithin_bin (by omega)
  | .bin bytes, budget + 1, rest, h => by
      rw [write, List.length_append] at h
      rw [write, List.append_assoc]
      exact readWithin_bin (by omega)
  | .ext kind data, budget + 1, rest, h => by
      rw [write, List.length_append] at h
      rw [write, List.append_assoc]
      exact readWithin_ext kind (by omega)
  | .array items, budget + 1, rest, h => by
      rw [write, List.length_append] at h
      have hnumber := length_le_length_writeItems items
      rw [write, List.append_assoc]
      refine readWithin_array (by omega) ?_
      intro budget
      exact readMany_writeItems items budget [] rest (by omega)
  | .map entries, budget + 1, rest, h => by
      rw [write, List.length_append] at h
      have hnumber := length_le_length_writeEntries entries
      rw [write, List.append_assoc]
      refine readWithin_map (by omega) ?_
      intro budget
      exact readMany_writeEntries entries budget [] rest (by omega)

theorem readMany_writeItems : ∀ (vs : List Value) (budget : Nat) (found : List Value)
    (rest : Bytes), (writeItems vs).length < capacity 4 →
      readMany (readWithin budget) vs.length found (writeItems vs ++ rest) =
        within (depthOfItems (carriedItems vs)) budget (found.reverse ++ carriedItems vs) rest
  | [], budget, found, rest, _ => by
      rw [carriedItems, List.append_nil]
      rfl
  | v :: vs, budget, found, rest, h => by
      rw [writeItems, List.length_append] at h
      rw [writeItems, List.append_assoc]
      exact readMany_succ (readWithin_write v budget _ (by omega))
        (readMany_writeItems vs budget _ rest (by omega))

theorem readMany_writeEntries : ∀ (es : List (Value × Value)) (budget : Nat)
    (found : List (Value × Value)) (rest : Bytes), (writeEntries es).length < capacity 4 →
      readMany (readPair (readWithin budget) (readWithin budget)) es.length found
          (writeEntries es ++ rest) =
        within (depthOfEntries (carriedEntries es)) budget (found.reverse ++ carriedEntries es) rest
  | [], budget, found, rest, _ => by
      rw [carriedEntries, List.append_nil]
      rfl
  | (k, v) :: es, budget, found, rest, h => by
      rw [writeEntries, List.length_append, List.length_append] at h
      rw [writeEntries, List.append_assoc, List.append_assoc]
      exact readMany_succ
        (readPair_of_within (readWithin_write k budget _ (by omega))
          (readWithin_write v budget _ (by omega)))
        (readMany_writeEntries es budget _ rest (by omega))

end

end MsgPack

end TupleWire

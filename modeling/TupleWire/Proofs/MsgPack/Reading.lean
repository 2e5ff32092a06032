/-
  What a reading says about its input.

  `Proofs/MsgPack/RoundTrip` goes from values to bytes; here is the way back.  A
  reader takes a piece off the front of its input, and what it finds there is
  flat or nested: a number or a run of bytes for which there was the budget
  (`Flat`), or the elements and entries that were read with two units less.
  `readWithin_cases` is the only lemma that follows the reader through its cases;
  what a reading costs and how large its result is follow from it by induction.
-/
import TupleWire.Proofs.MsgPack.Head

set_option autoImplicit false

namespace TupleWire

/-- A value without parts: nil, a truth value or a number. -/
def Value.IsScalar : Value → Prop
  | .nil | .bool _ | .uint _ | .nint _ | .f32 _ | .f64 _ => True
  | .str _ | .bin _ | .array _ | .map _ | .ext _ _ => False

namespace MsgPack

variable {bs rest : Bytes} {n : Nat} {v : Value}

/-! ## Pieces of the input -/

theorem append_of_readNat {width : Nat} (h : readNat width bs = .ok (n, rest)) :
    ∃ taken, bs = taken ++ rest := by
  rw [readNat] at h
  split at h
  · rename_i digits left hsplit
    cases h
    exact ⟨digits, (Bytes.splitExact?_eq_some hsplit).1⟩
  · cases h

theorem append_of_length {len : Length} (h : len.read bs = .ok (n, rest)) :
    ∃ taken, bs = taken ++ rest := by
  cases len with
  | inMarker m =>
      cases h
      exact ⟨[], rfl⟩
  | field width => exact append_of_readNat h

/-- A payload is a piece of the input, and there was a unit of the budget for it. -/
theorem append_of_readPayload {budget : Nat} {bytes : Bytes}
    (h : readPayload budget n bs = .ok (bytes, rest)) : 1 ≤ budget ∧ bs = bytes ++ rest := by
  cases budget with
  | zero => cases h
  | succ budget =>
      rw [readPayload] at h
      split at h
      · rename_i hsplit
        cases h
        exact ⟨Nat.succ_pos budget, (Bytes.splitExact?_eq_some hsplit).1⟩
      · cases h

/-! ## Values that need no nested one -/

/-- What can be found in a piece of the input behind a marker that announces no nested value, if
there is so much budget left. -/
inductive Flat (budget : Nat) : Bytes → Value → Prop
  | scalar {taken : Bytes} {v : Value} (h : v.IsScalar) : Flat budget taken v
  | str (front bytes : Bytes) (h : 2 ≤ budget) : Flat budget (front ++ bytes) (.str bytes)
  | bin (front bytes : Bytes) (h : 1 ≤ budget) : Flat budget (front ++ bytes) (.bin bytes)
  | ext (front : Bytes) (kind : Int8) (bytes : Bytes) (h : 2 ≤ budget) :
      Flat budget (front ++ bytes) (.ext kind bytes)

/-- A value that is its marker has no parts. -/
theorem isScalar_of_complete {b : UInt8} (h : Marker.ofByte b = .complete v) : v.IsScalar := by
  unfold Marker.ofByte at h
  grind [Value.IsScalar, Value.ofInt]

theorem isScalar_signed (width n : Nat) : (signed width n).IsScalar := by
  unfold signed
  split <;> trivial

theorem flat_of_readStr {budget : Nat} {len : Length} (h : readStr budget len bs = .ok (v, rest)) :
    ∃ taken, bs = taken ++ rest ∧ Flat budget taken v := by
  rw [readStr] at h
  split at h
  · cases h
  · rename_i hlen
    obtain ⟨front, rfl⟩ := append_of_length hlen
    split at h
    · cases h
    · rename_i budget
      split at h
      · cases h
      · rename_i bytes left hpayload
        cases h
        obtain ⟨hbudget, rfl⟩ := append_of_readPayload hpayload
        exact ⟨front ++ bytes, (List.append_assoc ..).symm,
          .str front bytes (Nat.succ_le_succ hbudget)⟩

theorem flat_of_readBin {budget : Nat} {len : Length} (h : readBin budget len bs = .ok (v, rest)) :
    ∃ taken, bs = taken ++ rest ∧ Flat budget taken v := by
  rw [readBin] at h
  split at h
  · cases h
  · rename_i hlen
    obtain ⟨front, rfl⟩ := append_of_length hlen
    split at h
    · cases h
    · rename_i bytes left hpayload
      cases h
      obtain ⟨hbudget, rfl⟩ := append_of_readPayload hpayload
      exact ⟨front ++ bytes, (List.append_assoc ..).symm, .bin front bytes hbudget⟩

theorem flat_of_readExt {budget : Nat} {len : Length} (h : readExt budget len bs = .ok (v, rest)) :
    ∃ taken, bs = taken ++ rest ∧ Flat budget taken v := by
  rw [readExt] at h
  split at h
  · cases h
  · rename_i hlen
    obtain ⟨front, rfl⟩ := append_of_length hlen
    split at h
    · cases h
    · split at h
      · cases h
      · rename_i kind behind
        split at h
        · cases h
        · rename_i bytes left hpayload
          cases h
          obtain ⟨hbudget, rfl⟩ := append_of_readPayload hpayload
          refine ⟨front ++ [kind] ++ bytes, ?_,
            .ext (front ++ [kind]) kind.toInt8 bytes (Nat.succ_le_succ hbudget)⟩
          simp only [List.append_assoc, List.cons_append, List.nil_append]

/-- A number in a field is a piece of the input and has no parts. -/
theorem flat_of_number (make : Nat → Value) {budget width : Nat} (hmake : ∀ n, (make n).IsScalar)
    (h : (match readNat width bs with
      | .error e => .error e
      | .ok (n, rest) => .ok (make n, rest)) = Except.ok (ε := ReadError) (v, rest)) :
    ∃ taken, bs = taken ++ rest ∧ Flat budget taken v := by
  split at h
  · cases h
  · rename_i n left hnat
    cases h
    obtain ⟨taken, htaken⟩ := append_of_readNat hnat
    exact ⟨taken, htaken, .scalar (hmake n)⟩

theorem flat_of_readFlat {budget : Nat} {b : UInt8}
    (h : readFlat budget (Marker.ofByte b) bs = .ok (v, rest)) :
    ∃ taken, bs = taken ++ rest ∧ Flat budget taken v := by
  cases hmarker : Marker.ofByte b with
  | complete v' =>
      rw [hmarker] at h
      cases h
      exact ⟨[], rfl, .scalar (isScalar_of_complete hmarker)⟩
  | str len => exact flat_of_readStr (by rwa [hmarker] at h)
  | bin len => exact flat_of_readBin (by rwa [hmarker] at h)
  | ext len => exact flat_of_readExt (by rwa [hmarker] at h)
  | array len | map len =>
      rw [hmarker] at h
      cases h
  | unsigned width =>
      rw [hmarker] at h
      exact flat_of_number (fun n => .uint (UInt64.ofNat n)) (fun _ => trivial) h
  | signed width =>
      rw [hmarker] at h
      exact flat_of_number (MsgPack.signed width) (isScalar_signed width) h
  | float32 =>
      rw [hmarker] at h
      exact flat_of_number (fun n => .f32 (UInt32.ofNat n)) (fun _ => trivial) h
  | float64 =>
      rw [hmarker] at h
      exact flat_of_number (fun n => .f64 (UInt64.ofNat n)) (fun _ => trivial) h

/-! ## Values with parts -/

section Parts

variable {α β : Type} {one : Reader α} {other : Reader β}

/-- A pair is found by finding its first part and behind it the second one. -/
theorem readPair_eq_ok {a : α} {b : β} (h : readPair one other bs = .ok ((a, b), rest)) :
    ∃ between, one bs = .ok (a, between) ∧ other between = .ok (b, rest) := by
  rw [readPair] at h
  split at h
  · cases h
  · rename_i first between hfirst
    split at h
    · cases h
    · rename_i hsecond
      cases h
      exact ⟨between, hfirst, hsecond⟩

/-- Contents are read behind their number. -/
theorem readContents_eq_ok {len : Length} {make : List α → Value}
    (h : readContents len (some one) make bs = .ok (v, rest)) :
    ∃ taken n body found, bs = taken ++ body ∧ readMany one n [] body = .ok (found, rest) ∧
      v = make found := by
  rw [readContents] at h
  split at h
  · cases h
  · rename_i n body hlen
    obtain ⟨taken, rfl⟩ := append_of_length hlen
    dsimp only at h
    split at h
    · cases h
    · rename_i found left hmany
      cases h
      exact ⟨taken, n, body, found, rfl, hmany, rfl⟩

/-- Contents are not read without budget. -/
theorem readContents_none_ne_ok {len : Length} {make : List α → Value} :
    readContents len none make bs ≠ .ok (v, rest) := by
  intro h
  rw [readContents] at h
  split at h <;> cases h

/-- What holds of all that a reader finds holds of the things that it finds in a row. -/
theorem forall_mem_of_readMany {P : α → Prop}
    (hone : ∀ {bs rest : Bytes} {a : α}, one bs = .ok (a, rest) → P a) {found all : List α}
    (hfound : ∀ a ∈ found, P a) (h : readMany one n found bs = .ok (all, rest)) :
    ∀ a ∈ all, P a := by
  induction n generalizing found bs with
  | zero =>
      cases h
      intro a ha
      exact hfound a (List.mem_reverse.1 ha)
  | succ n ih =>
      rw [readMany] at h
      split at h
      · cases h
      · rename_i first left hfirst
        refine ih ?_ h
        intro a ha
        rcases List.mem_cons.1 ha with rfl | hmem
        · exact hone hfirst
        · exact hfound a hmem

end Parts

theorem Marker.flat_or_nested (m : Marker) :
    m.IsFlat ∨ ∃ len, m = .array len ∨ m = .map len := by
  cases m with
  | array len => exact .inr ⟨len, .inl rfl⟩
  | map len => exact .inr ⟨len, .inr rfl⟩
  | _ => exact .inl trivial

/-- What a reading finds is flat, or it is nested and its parts were read with what the budget holds
beside the two units of the value itself. -/
theorem readWithin_cases {budget : Nat} (h : readWithin budget bs = .ok (v, rest)) :
    (∃ below b taken, budget = below + 1 ∧ bs = b :: taken ++ rest ∧ Flat below taken v) ∨
      ∃ below front n body, budget = below + 2 ∧ bs = front ++ body ∧
        ((∃ items, readMany (readWithin below) n [] body = .ok (items, rest) ∧
            v = .array items) ∨
          ∃ entries, readMany (readPair (readWithin below) (readWithin below)) n [] body =
            .ok (entries, rest) ∧ v = .map entries) := by
  cases budget with
  | zero => cases h
  | succ below =>
      cases bs with
      | nil => cases below <;> cases h
      | cons b bs =>
          rcases (Marker.ofByte b).flat_or_nested with hflat | ⟨len, hnested⟩
          · rw [readWithin_flat rfl hflat] at h
            obtain ⟨taken, rfl, hv⟩ := flat_of_readFlat h
            exact .inl ⟨below, b, taken, rfl, rfl, hv⟩
          · right
            cases below with
            | zero =>
                -- the budget is used up before the contents are read
                rcases hnested with hmarker | hmarker <;>
                · simp only [readWithin, hmarker] at h
                  exact absurd h readContents_none_ne_ok
            | succ below =>
                rcases hnested with hmarker | hmarker
                · simp only [readWithin, hmarker] at h
                  obtain ⟨taken, n, body, items, rfl, hmany, hv⟩ := readContents_eq_ok h
                  exact ⟨below, b :: taken, n, body, rfl, rfl, .inl ⟨items, hmany, hv⟩⟩
                · simp only [readWithin, hmarker] at h
                  obtain ⟨taken, n, body, entries, rfl, hmany, hv⟩ := readContents_eq_ok h
                  exact ⟨below, b :: taken, n, body, rfl, rfl, .inr ⟨entries, hmany, hv⟩⟩

end MsgPack

end TupleWire

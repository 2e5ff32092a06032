/-
  Values as a search compares them.

  The comparison of a search takes floats as numbers.  It comes down to identity
  once every zero is made positive: a value agrees with another if and only if it
  agrees with itself, which it does unless there is a NaN in it, and the two have
  the same standard form (`Value.agrees_iff`).  So the values that a search takes
  for equal are those with one standard form, and what is found by a key can be
  looked up in a map by the standard form of the key.
-/
import TupleWire.MsgPack.Value

set_option autoImplicit false

namespace TupleWire

namespace Value

/-! ## Floats of any width

The bits of a float without its sign are its magnitude.  Both widths compare floats in the same
way, and both ways are the one below. -/

section Float

variable {α : Type} [DecidableEq α] (zero : α) (magnitude : α → α) (isNaN : α → Bool)

/-- Whether two floats are equal as numbers, given which magnitudes are a NaN. -/
def eqAsNumbers (a b : α) : Bool :=
  !isNaN (magnitude a) && !isNaN (magnitude b) &&
    (a == b || (magnitude a == zero && magnitude b == zero))

/-- A float with the sign of a zero taken away. -/
def unsignZero (a : α) : α := if magnitude a = zero then zero else a

variable {zero magnitude}

theorem magnitude_unsignZero (hzero : magnitude zero = zero) (a : α) :
    magnitude (unsignZero zero magnitude a) = magnitude a := by
  unfold unsignZero
  split
  · rename_i ha
    rw [hzero, ha]
  · rfl

theorem unsignZero_eq_iff (hzero : magnitude zero = zero) {a b : α} :
    unsignZero zero magnitude a = unsignZero zero magnitude b ↔
      a = b ∨ (magnitude a = zero ∧ magnitude b = zero) := by
  constructor
  · intro h
    -- forms that are equal have equal magnitudes, so the zeros are on both sides or on none
    have hmagnitude : magnitude a = magnitude b := by
      rw [← magnitude_unsignZero hzero a, h, magnitude_unsignZero hzero b]
    by_cases ha : magnitude a = zero
    · exact .inr ⟨ha, hmagnitude ▸ ha⟩
    · have hb : ¬ magnitude b = zero := hmagnitude ▸ ha
      rw [unsignZero, unsignZero, if_neg ha, if_neg hb] at h
      exact .inl h
  · rintro (rfl | ⟨ha, hb⟩)
    · rfl
    · rw [unsignZero, unsignZero, if_pos ha, if_pos hb]

/-- Floats are equal as numbers if and only if they are no NaN and equal but for the signs of
zeros. -/
theorem eqAsNumbers_eq_true_iff (hzero : magnitude zero = zero) {a b : α} :
    eqAsNumbers zero magnitude isNaN a b = true ↔
      (isNaN (magnitude a) = false ∧ isNaN (magnitude b) = false) ∧
        unsignZero zero magnitude a = unsignZero zero magnitude b := by
  simp [eqAsNumbers, unsignZero_eq_iff hzero]

theorem eqAsNumbers_unsignZero (hzero : magnitude zero = zero) (a b : α) :
    eqAsNumbers zero magnitude isNaN (unsignZero zero magnitude a) (unsignZero zero magnitude b) =
      eqAsNumbers zero magnitude isNaN a b := by
  have htwice (x : α) : unsignZero zero magnitude (unsignZero zero magnitude x) =
      unsignZero zero magnitude x := by
    rw [unsignZero_eq_iff hzero, magnitude_unsignZero hzero]
    by_cases hx : magnitude x = zero
    · exact .inr ⟨hx, hx⟩
    · exact .inl (if_neg hx)
  rw [Bool.eq_iff_iff, eqAsNumbers_eq_true_iff isNaN hzero, eqAsNumbers_eq_true_iff isNaN hzero,
    magnitude_unsignZero hzero, magnitude_unsignZero hzero, htwice, htwice]

end Float

/-- The bits of a single-precision float without its sign. -/
def magnitude32 (bits : UInt32) : UInt32 := bits &&& 0x7fffffff

/-- The bits of a double-precision float without its sign. -/
def magnitude64 (bits : UInt64) : UInt64 := bits &&& 0x7fffffffffffffff

theorem floatEq32_eq : floatEq32 = eqAsNumbers 0 magnitude32 fun m => m > 0x7f800000 := by
  funext a b
  have hzeros : ((a ||| b) &&& 0x7fffffff) = magnitude32 a ||| magnitude32 b :=
    UInt32.toBitVec_inj.1 BitVec.and_or_distrib_right
  have hboth : ((a ||| b) &&& 0x7fffffff == 0) =
      (magnitude32 a == 0 && magnitude32 b == 0) := by
    rw [Bool.eq_iff_iff, hzeros]
    simp
  rw [floatEq32, eqAsNumbers, hboth]
  rfl

theorem floatEq64_eq : floatEq64 = eqAsNumbers 0 magnitude64 fun m => m > 0x7ff0000000000000 := by
  funext a b
  have hzeros : ((a ||| b) &&& 0x7fffffffffffffff) = magnitude64 a ||| magnitude64 b :=
    UInt64.toBitVec_inj.1 BitVec.and_or_distrib_right
  have hboth : ((a ||| b) &&& 0x7fffffffffffffff == 0) =
      (magnitude64 a == 0 && magnitude64 b == 0) := by
    rw [Bool.eq_iff_iff, hzeros]
    simp
  rw [floatEq64, eqAsNumbers, hboth]
  rfl

/-! ## Standard forms -/

mutual

/-- A value with every zero made positive. -/
def standard : Value → Value
  | .f32 bits => .f32 (unsignZero 0 magnitude32 bits)
  | .f64 bits => .f64 (unsignZero 0 magnitude64 bits)
  | .array items => .array (standardItems items)
  | .map entries => .map (standardEntries entries)
  | v => v

def standardItems : List Value → List Value
  | [] => []
  | v :: vs => v.standard :: standardItems vs

def standardEntries : List (Value × Value) → List (Value × Value)
  | [] => []
  | (k, v) :: es => (k.standard, v.standard) :: standardEntries es

end

mutual

/-- A search does not see the sign of a zero. -/
theorem agrees_standard : ∀ a b : Value, a.standard.agrees b.standard = a.agrees b
  | .f32 a, b => by
      cases b with
      | f32 b =>
          simp only [agrees, standard, compareBy, floatEq32_eq]
          exact eqAsNumbers_unsignZero _ rfl a b
      | _ => rfl
  | .f64 a, b => by
      cases b with
      | f64 b =>
          simp only [agrees, standard, compareBy, floatEq64_eq]
          exact eqAsNumbers_unsignZero _ rfl a b
      | _ => rfl
  | .array as, b => by
      cases b with
      | array bs => exact compareItems_standard as bs
      | _ => rfl
  | .map as, b => by
      cases b with
      | map bs => exact compareEntries_standard as bs
      | _ => rfl
  | .nil, b | .bool _, b | .uint _, b | .nint _, b | .str _, b | .bin _, b | .ext _ _, b => by
      cases b <;> rfl

theorem compareItems_standard : ∀ as bs : List Value,
    compareItems floatEq32 floatEq64 (standardItems as) (standardItems bs) =
      compareItems floatEq32 floatEq64 as bs
  | [], [] | [], _ :: _ | _ :: _, [] => rfl
  | a :: as, b :: bs => by
      have hfirst := agrees_standard a b
      simp only [agrees] at hfirst
      rw [standardItems, standardItems, compareItems, compareItems, hfirst,
        compareItems_standard as bs]

theorem compareEntries_standard : ∀ as bs : List (Value × Value),
    compareEntries floatEq32 floatEq64 (standardEntries as) (standardEntries bs) =
      compareEntries floatEq32 floatEq64 as bs
  | [], [] | [], _ :: _ | _ :: _, [] => rfl
  | (j, a) :: as, (k, b) :: bs => by
      have hkey := agrees_standard j k
      have hvalue := agrees_standard a b
      simp only [agrees] at hkey hvalue
      rw [standardEntries, standardEntries, compareEntries, compareEntries, hkey, hvalue,
        compareEntries_standard as bs]

end

mutual

theorem standard_eq_of_agrees : ∀ {a b : Value}, a.agrees b = true → a.standard = b.standard
  | .f32 a, b, h => by
      cases b with
      | f32 b =>
          simp only [agrees, compareBy, floatEq32_eq] at h
          rw [standard, standard, ((eqAsNumbers_eq_true_iff _ rfl).1 h).2]
      | _ => cases h
  | .f64 a, b, h => by
      cases b with
      | f64 b =>
          simp only [agrees, compareBy, floatEq64_eq] at h
          rw [standard, standard, ((eqAsNumbers_eq_true_iff _ rfl).1 h).2]
      | _ => cases h
  | .array as, b, h => by
      cases b with
      | array bs => exact congrArg Value.array (standardItems_eq_of_agree h)
      | _ => cases h
  | .map as, b, h => by
      cases b with
      | map bs => exact congrArg Value.map (standardEntries_eq_of_agree h)
      | _ => cases h
  | .nil, b, h | .bool _, b, h | .uint _, b, h | .nint _, b, h | .str _, b, h | .bin _, b, h
  | .ext _ _, b, h => by
      cases b <;> simp_all [agrees, compareBy, standard]

theorem standardItems_eq_of_agree : ∀ {as bs : List Value},
    compareItems floatEq32 floatEq64 as bs = true → standardItems as = standardItems bs
  | [], [], _ => rfl
  | [], _ :: _, h | _ :: _, [], h => by cases h
  | a :: as, b :: bs, h => by
      rw [compareItems, Bool.and_eq_true] at h
      rw [standardItems, standardItems, standard_eq_of_agrees h.1, standardItems_eq_of_agree h.2]

theorem standardEntries_eq_of_agree : ∀ {as bs : List (Value × Value)},
    compareEntries floatEq32 floatEq64 as bs = true → standardEntries as = standardEntries bs
  | [], [], _ => rfl
  | [], _ :: _, h | _ :: _, [], h => by cases h
  | (j, a) :: as, (k, b) :: bs, h => by
      rw [compareEntries, Bool.and_eq_true, Bool.and_eq_true] at h
      rw [standardEntries, standardEntries, standard_eq_of_agrees h.1.1,
        standard_eq_of_agrees h.1.2, standardEntries_eq_of_agree h.2]

end

/-! ## What agreeing is -/

variable {a b c : Value}

/-- A value agrees with those that have its standard form, unless there is a NaN in it. -/
theorem agrees_iff : a.agrees b = true ↔ a.agrees a = true ∧ a.standard = b.standard := by
  constructor
  · intro h
    have hstandard := standard_eq_of_agrees h
    refine ⟨?_, hstandard⟩
    rw [← agrees_standard, ← hstandard, agrees_standard] at h
    exact h
  · rintro ⟨hself, hstandard⟩
    rw [← agrees_standard, ← hstandard, agrees_standard]
    exact hself

theorem agrees_self_of_agrees (h : a.agrees b = true) : b.agrees b = true := by
  rw [← agrees_standard, ← standard_eq_of_agrees h, agrees_standard]
  exact (agrees_iff.1 h).1

theorem agrees_symm (h : a.agrees b = true) : b.agrees a = true :=
  agrees_iff.2 ⟨agrees_self_of_agrees h, (standard_eq_of_agrees h).symm⟩

theorem agrees_trans (hab : a.agrees b = true) (hbc : b.agrees c = true) : a.agrees c = true :=
  agrees_iff.2 ⟨(agrees_iff.1 hab).1,
    (standard_eq_of_agrees hab).trans (standard_eq_of_agrees hbc)⟩

end Value

end TupleWire

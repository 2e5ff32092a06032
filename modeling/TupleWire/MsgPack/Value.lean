/-
  MessagePack values.

  A value is what the wire carries in a header, a body or a tuple.  Integers are
  kept by value, so that one integer has one representation here however it was
  spelled; strings are kept as bytes, because the wire may hold bytes that are
  not UTF-8; floats are kept by their IEEE bits.

  There are two equalities.  `=` is identity, decided by `Value.same`.
  `Value.agrees` is the comparison that a key search uses: it reads floats as
  numbers, so that the two zeros agree and a NaN agrees with nothing.
-/
import TupleWire.Text.Utf8

set_option autoImplicit false

namespace TupleWire

/-- A MessagePack value. -/
inductive Value where
  | nil
  | bool (b : Bool)
  /-- a non-negative integer -/
  | uint (n : UInt64)
  /-- the negative integer `-1 - m` -/
  | nint (m : Fin 0x8000000000000000)
  /-- a single-precision float, by its bits -/
  | f32 (bits : UInt32)
  /-- a double-precision float, by its bits -/
  | f64 (bits : UInt64)
  | str (bytes : Bytes)
  | bin (bytes : Bytes)
  | array (items : List Value)
  | map (entries : List (Value × Value))
  | ext (kind : Int8) (data : Bytes)
  deriving Inhabited, Repr

namespace Value

/-! ## Making values -/

/-- A character string. -/
def text (s : String) : Value := .str (Utf8.encode s)

/-- A small non-negative integer. -/
def byte (b : UInt8) : Value := .uint b.toUInt64

/-- A 32-bit non-negative integer. -/
def word (n : UInt32) : Value := .uint n.toUInt64

/-- The integer of a sign and magnitude that fits the wire's range; the magnitude is taken
modulo the range otherwise. -/
def ofInt : Int → Value
  | .ofNat n => .uint (UInt64.ofNat n)
  | .negSucc m => .nint (Fin.ofNat _ m)

/-! ## Reading values -/

/-- The value as a non-negative integer. -/
def asUInt? : Value → Option UInt64
  | .uint n => some n
  | _ => none

/-- The value as a character string; a string of bytes that are not UTF-8 is none. -/
def asText? : Value → Option String
  | .str bytes => Utf8.decode? bytes
  | _ => none

/-- The elements of an array. -/
def asArray? : Value → Option (List Value)
  | .array items => some items
  | _ => none

/-- The entries of a map. -/
def asMap? : Value → Option (List (Value × Value))
  | .map entries => some entries
  | _ => none

@[simp] theorem asText?_text (s : String) : (text s).asText? = some s :=
  Utf8.decode?_encode s

/-- The value that a map holds under a small integer key; the first entry wins. -/
def lookup? (v : Value) (key : UInt64) : Option Value :=
  v.asMap?.bind fun entries =>
    (entries.find? fun e => e.1.asUInt? == some key).map Prod.snd

/-! ## Comparing values

`compareBy` walks two values side by side and leaves the comparison of float bits to its
caller.  Both equalities are instances of it. -/

section Compare

variable (eq32 : UInt32 → UInt32 → Bool) (eq64 : UInt64 → UInt64 → Bool)

mutual

/-- Side-by-side comparison, with the given comparisons of float bits. -/
def compareBy : Value → Value → Bool
  | .nil, .nil => true
  | .bool a, .bool b => a == b
  | .uint a, .uint b => a == b
  | .nint a, .nint b => a == b
  | .f32 a, .f32 b => eq32 a b
  | .f64 a, .f64 b => eq64 a b
  | .str a, .str b => a == b
  | .bin a, .bin b => a == b
  | .array a, .array b => compareItems a b
  | .map a, .map b => compareEntries a b
  | .ext k a, .ext l b => k == l && a == b
  | _, _ => false

/-- Element by element. -/
def compareItems : List Value → List Value → Bool
  | [], [] => true
  | a :: as, b :: bs => compareBy a b && compareItems as bs
  | _, _ => false

/-- Entry by entry, in order. -/
def compareEntries : List (Value × Value) → List (Value × Value) → Bool
  | [], [] => true
  | (j, a) :: as, (k, b) :: bs => compareBy j k && compareBy a b && compareEntries as bs
  | _, _ => false

end

end Compare

/-- Identity: floats are compared by their bits. -/
def same : Value → Value → Bool := compareBy (· == ·) (· == ·)

/-- Single-precision comparison on bits: a NaN (exponent all ones, fraction not zero) equals
nothing, and the two zeros are equal. -/
def floatEq32 (a b : UInt32) : Bool :=
  let isNaN := fun (x : UInt32) => (x &&& 0x7fffffff) > 0x7f800000
  !isNaN a && !isNaN b && (a == b || ((a ||| b) &&& 0x7fffffff) == 0)

/-- Double-precision comparison on bits, by the same rule. -/
def floatEq64 (a b : UInt64) : Bool :=
  let isNaN := fun (x : UInt64) => (x &&& 0x7fffffffffffffff) > 0x7ff0000000000000
  !isNaN a && !isNaN b && (a == b || ((a ||| b) &&& 0x7fffffffffffffff) == 0)

/-- The comparison of a key search: floats are compared as numbers. -/
def agrees : Value → Value → Bool := compareBy floatEq32 floatEq64

mutual

theorem same_iff : ∀ a b : Value, same a b = true ↔ a = b
  | .nil, b => by cases b <;> simp [same, compareBy]
  | .bool a, b => by cases b <;> simp [same, compareBy]
  | .uint a, b => by cases b <;> simp [same, compareBy]
  | .nint a, b => by cases b <;> simp [same, compareBy]
  | .f32 a, b => by cases b <;> simp [same, compareBy]
  | .f64 a, b => by cases b <;> simp [same, compareBy]
  | .str a, b => by cases b <;> simp [same, compareBy]
  | .bin a, b => by cases b <;> simp [same, compareBy]
  | .array a, b => by
      cases b <;> simp only [same, compareBy, reduceCtorEq, Bool.false_eq_true, array.injEq]
      exact sameItems_iff a _
  | .map a, b => by
      cases b <;> simp only [same, compareBy, reduceCtorEq, Bool.false_eq_true, map.injEq]
      exact sameEntries_iff a _
  | .ext k a, b => by cases b <;> simp [same, compareBy]

theorem sameItems_iff : ∀ as bs : List Value,
    compareItems (· == ·) (· == ·) as bs = true ↔ as = bs
  | [], bs => by cases bs <;> simp [compareItems]
  | a :: as, [] => by simp [compareItems]
  | a :: as, b :: bs => by
      have h₁ := same_iff a b
      have h₂ := sameItems_iff as bs
      rw [same] at h₁
      simp [compareItems, h₁, h₂]

theorem sameEntries_iff : ∀ as bs : List (Value × Value),
    compareEntries (· == ·) (· == ·) as bs = true ↔ as = bs
  | [], bs => by cases bs <;> simp [compareEntries]
  | (j, a) :: as, [] => by simp [compareEntries]
  | (j, a) :: as, (k, b) :: bs => by
      have h₁ := same_iff j k
      have h₂ := same_iff a b
      have h₃ := sameEntries_iff as bs
      rw [same] at h₁ h₂
      simp [compareEntries, h₁, h₂, h₃]

end

instance : DecidableEq Value := fun a b => decidable_of_iff _ (same_iff a b)

end Value

end TupleWire

/-
  Protocol features and sets of them.

  A client and a server each support some of seven features; what both support
  is negotiated when they connect.  A set of features is its membership test,
  so two sets with the same members are the same set (`FeatureSet.ext_contains`).
-/

set_option autoImplicit false

namespace TupleWire

/-- A capability of the protocol that has to be negotiated. -/
inductive Feature where
  | streams
  | transactions
  | errorExtension
  | watchers
  | pagination
  | spaceAndIndexNames
  | watchOnce
  deriving DecidableEq, Repr, Inhabited

namespace Feature

/-- Every feature, in ascending order of its number. -/
def all : List Feature :=
  [streams, transactions, errorExtension, watchers, pagination, spaceAndIndexNames, watchOnce]

/-- The number of a feature. -/
def id : Feature → UInt8
  | streams => 0
  | transactions => 1
  | errorExtension => 2
  | watchers => 3
  | pagination => 4
  | spaceAndIndexNames => 5
  | watchOnce => 6

/-- The feature with a number, if there is one. -/
def ofId? (n : UInt64) : Option Feature :=
  all.find? fun f => f.id.toUInt64 == n

/-- The name of a feature in diagnostics. -/
def name : Feature → String
  | streams => "STREAMS"
  | transactions => "TRANSACTIONS"
  | errorExtension => "ERROR_EXTENSION"
  | watchers => "WATCHERS"
  | pagination => "PAGINATION"
  | spaceAndIndexNames => "SPACE_AND_INDEX_NAMES"
  | watchOnce => "WATCH_ONCE"

theorem mem_all (f : Feature) : f ∈ all := by
  cases f <;> decide

end Feature

/-- A set of features. -/
structure FeatureSet where
  contains : Feature → Bool

namespace FeatureSet

@[ext] theorem ext_contains {s t : FeatureSet} (h : ∀ f, s.contains f = t.contains f) : s = t := by
  cases s; cases t; simp only [mk.injEq]; exact funext h

instance : DecidableEq FeatureSet := fun s t =>
  decidable_of_iff (∀ f ∈ Feature.all, s.contains f = t.contains f)
    ⟨fun h => ext_contains fun f => h f f.mem_all, fun h _ _ => by rw [h]⟩

/-- No feature. -/
def empty : FeatureSet := ⟨fun _ => false⟩

instance : Inhabited FeatureSet := ⟨empty⟩

/-- Every feature. -/
def all : FeatureSet := ⟨fun _ => true⟩

/-- The set with one more feature. -/
def insert (s : FeatureSet) (f : Feature) : FeatureSet := ⟨fun g => g == f || s.contains g⟩

/-- The set with one feature less. -/
def remove (s : FeatureSet) (f : Feature) : FeatureSet := ⟨fun g => g != f && s.contains g⟩

/-- The features that two sets share. -/
def intersect (s t : FeatureSet) : FeatureSet := ⟨fun g => s.contains g && t.contains g⟩

/-- The features with the given numbers; a number that names no feature is skipped. -/
def ofIds (ids : List UInt64) : FeatureSet := ⟨fun g => ids.contains g.id.toUInt64⟩

/-- The members, in ascending order of their numbers. -/
def toList (s : FeatureSet) : List Feature := Feature.all.filter s.contains

/-- The members by name, between braces. -/
def describe (s : FeatureSet) : String :=
  "\x7b" ++ ", ".intercalate (s.toList.map fun f => "\"" ++ f.name ++ "\"") ++ "\x7d"

@[simp] theorem mem_toList (s : FeatureSet) (f : Feature) :
    f ∈ s.toList ↔ s.contains f = true := by
  simp [toList, Feature.mem_all]

end FeatureSet

end TupleWire

/-
  The ways an object may be written, and what a reader finds in it.

  An object is written from a list of entries.  Each stands in it under its key
  with one of the values that spell it, or is lacking where that says the same;
  and members that no reader looks for may stand between them, with a text each.
  `Spells` says so by recursion on the members.  Of such an object a reader keeps
  exactly the members it looks for, none of them twice, and finds each entry there
  as it was written: `SpelledBy.exists_knownMembers`.
-/
import Mathlib.Data.List.Forall2
import TupleWire.Config.Text

set_option autoImplicit false

namespace TupleWire

open JsonValue (record)

/-! ## Entries -/

/-- How an object may hold one field: the values that it may have there, and whether it may lack
the field. -/
structure Entry where
  key : String
  IsValue : JsonValue → Prop
  MayLack : Prop

namespace Entry

/-- A field that is always written, with this value. -/
def always (key : String) (v : JsonValue) : Entry := ⟨key, (· = v), False⟩

/-- A field that is written with this value, and may be left out if it holds its default. -/
def plain (key : String) (v : JsonValue) (isDefault : Prop) : Entry := ⟨key, (· = v), isDefault⟩

/-- What members under distinct keys say of the field. -/
def HeldIn (e : Entry) (members : List (String × JsonValue)) : Prop :=
  match members.lookup e.key with
  | some v => e.IsValue v
  | none => e.MayLack

/-- A member that writes the field. -/
def IsMember (e : Entry) (m : String × JsonValue) : Prop := m.1 = e.key ∧ e.IsValue m.2

end Entry

/-- The members of an object with these entries, in their order; `known` are the keys that no other
member may have. -/
inductive Spells (known : List String) : List Entry → List (String × JsonValue) → Prop where
  | done : Spells known [] []
  | written {e : Entry} {es : List Entry} {v : JsonValue} {ms : List (String × JsonValue)} :
      e.IsValue v → Spells known es ms → Spells known (e :: es) ((e.key, v) :: ms)
  | lacking {e : Entry} {es : List Entry} {ms : List (String × JsonValue)} :
      e.MayLack → Spells known es ms → Spells known (e :: es) ms
  | more {key : String} {es : List Entry} {t : String} {ms : List (String × JsonValue)} :
      key ∉ known → Spells known es ms → Spells known es ((key, .text t) :: ms)

/-- An object with these entries, and with texts under other keys. -/
def SpelledBy (entries : List Entry) (v : JsonValue) : Prop :=
  ∃ members, Spells (entries.map Entry.key) entries members ∧ v = record members

/-- Values in an array, in their order. -/
def SpelledEach {α : Type} (spelled : α → JsonValue → Prop) (as : List α) (v : JsonValue) : Prop :=
  ∃ items, List.Forall₂ spelled as items ∧ v = .array items

/-- An optional value, null if absent. -/
def SpelledOrNull {α : Type} (spelled : α → JsonValue → Prop) : Option α → JsonValue → Prop
  | some a, v => spelled a v
  | none, v => v = .null

theorem SpelledEach.map {α : Type} {spelled : α → JsonValue → Prop} {write : α → JsonValue}
    (h : ∀ a, spelled a (write a)) (as : List α) :
    SpelledEach spelled as (.array (as.map write)) :=
  ⟨as.map write, List.forall₂_map_right_iff.mpr (List.forall₂_same.mpr fun a _ => h a), rfl⟩

theorem SpelledOrNull.optional {α : Type} {spelled : α → JsonValue → Prop} {write : α → JsonValue}
    (h : ∀ a, spelled a (write a)) (o : Option α) :
    SpelledOrNull spelled o (JsonValue.optional write o) := by
  cases o with
  | none => rfl
  | some a => exact h a

/-! ## What a reader keeps -/

namespace Spells

variable {known : List String} {entries : List Entry} {members : List (String × JsonValue)}

/-- The keys that a reader looks for come in the order of the entries. -/
theorem sublist (h : Spells known entries members) {names : List String}
    (hnames : names ⊆ known) :
    ((members.filter fun m => names.contains m.1).map Prod.fst).Sublist
      (entries.map Entry.key) := by
  induction h with
  | done => exact .slnil
  | @written e es v ms _ _ ih =>
    by_cases hkey : e.key ∈ names
    · simpa [hkey] using ih
    · simpa [hkey] using ih.cons e.key
  | lacking _ _ ih => exact ih.cons _
  | @more key es t ms hkey _ ih =>
    have hskipped : key ∉ names := fun hmem => hkey (hnames hmem)
    simpa [hskipped] using ih

/-- Every field is written, and nothing else. -/
theorem of_isMember (h : List.Forall₂ Entry.IsMember entries members) :
    Spells known entries members := by
  induction h with
  | nil => exact .done
  | @cons e m es ms hm _ ih =>
    obtain ⟨key, v⟩ := m
    obtain ⟨rfl, hv⟩ : key = e.key ∧ e.IsValue v := hm
    exact .written hv ih

theorem knownMembers?_eq (h : Spells known entries members)
    (hdistinct : (entries.map Entry.key).Nodup) {names : List String} (hnames : names ⊆ known) :
    knownMembers? names (record members)
      = some (members.filter fun m => names.contains m.1) := by
  have hnamed : (members.map fun m => (some m.1, m.2)).mapM
      (fun m : Option String × JsonValue => m.1.map fun key => (key, m.2)) = some members := by
    rw [List.mapM_map]
    exact List.mapM_pure.trans (congrArg some members.map_id)
  have hnodup := (h.sublist hnames).nodup hdistinct
  simp only [knownMembers?, record, hnamed, Option.bind_eq_bind, Option.bind_some, if_pos hnodup]

/-- A known key that no entry has is not written. -/
theorem lookup_eq_none (h : Spells known entries members) {key : String} (hkey : key ∈ known)
    (hnone : key ∉ entries.map Entry.key) : members.lookup key = none := by
  induction h with
  | done => rfl
  | written _ _ ih =>
    rw [List.map_cons, List.mem_cons, not_or] at hnone
    rw [List.lookup_cons, beq_false_of_ne hnone.1]
    exact ih hnone.2
  | lacking _ _ ih =>
    rw [List.map_cons, List.mem_cons, not_or] at hnone
    exact ih hnone.2
  | @more other _ _ _ hother _ ih =>
    have hne : key ≠ other := fun heq => hother (heq ▸ hkey)
    rw [List.lookup_cons, beq_false_of_ne hne]
    exact ih hnone

/-- Each entry is found as it was written. -/
theorem heldIn (h : Spells known entries members) (hdistinct : (entries.map Entry.key).Nodup)
    (hknown : entries.map Entry.key ⊆ known) {e : Entry} (he : e ∈ entries) :
    e.HeldIn members := by
  induction h with
  | done => cases he
  | @written first es v ms hv _ ih =>
    rw [List.map_cons, List.nodup_cons] at hdistinct
    rcases List.mem_cons.mp he with rfl | he
    · simpa [Entry.HeldIn] using hv
    · have hne : e.key ≠ first.key := fun heq => hdistinct.1 (heq ▸ List.mem_map_of_mem he)
      have hrest := ih hdistinct.2 (fun _ hmem => hknown (.tail _ hmem)) he
      rwa [Entry.HeldIn, List.lookup_cons, beq_false_of_ne hne]
  | @lacking first es ms hlack hms ih =>
    rw [List.map_cons, List.nodup_cons] at hdistinct
    rcases List.mem_cons.mp he with rfl | he
    · have hnone := hms.lookup_eq_none (hknown List.mem_cons_self) hdistinct.1
      simpa [Entry.HeldIn, hnone] using hlack
    · exact ih hdistinct.2 (fun _ hmem => hknown (.tail _ hmem)) he
  | @more other es t ms hother _ ih =>
    have hne : e.key ≠ other := fun heq => hother (heq ▸ hknown (List.mem_map_of_mem he))
    have hrest := ih hdistinct hknown he
    rwa [Entry.HeldIn, List.lookup_cons, beq_false_of_ne hne]

/-- An object of texts is well-formed at any depth. -/
theorem arePlainMembers (h : Spells known entries members)
    (htexts : ∀ e ∈ entries, ∀ v, e.IsValue v → ∃ t, v = .text t) (depth : Nat) :
    JsonValue.arePlainMembers depth (members.map fun m => (some m.1, m.2)) = true := by
  induction h with
  | done => simp [JsonValue.arePlainMembers]
  | @written e es v ms hv _ ih =>
    obtain ⟨t, rfl⟩ := htexts e List.mem_cons_self v hv
    have hrest := ih fun e he => htexts e (.tail _ he)
    simpa [JsonValue.arePlainMembers, JsonValue.isPlain, JsonValue.text] using hrest
  | lacking _ _ ih => exact ih fun e he => htexts e (.tail _ he)
  | more _ _ ih =>
    simpa [JsonValue.arePlainMembers, JsonValue.isPlain, JsonValue.text] using ih htexts

end Spells

/-- A key that is kept holds what it held. -/
theorem lookup_filter_contains (names : List String) (members : List (String × JsonValue))
    {key : String} (hkey : key ∈ names) :
    (members.filter fun m => names.contains m.1).lookup key = members.lookup key := by
  induction members with
  | nil => rfl
  | cons m ms ih =>
    obtain ⟨other, v⟩ := m
    by_cases heq : key = other
    · subst heq
      simp [hkey]
    · have hne : (key == other) = false := beq_false_of_ne heq
      rw [List.filter_cons, List.lookup_cons, hne]
      split
      next => rw [List.lookup_cons, hne, ih]
      next => exact ih

namespace SpelledBy

variable {entries : List Entry} {v : JsonValue}

/-- A reader that looks for some of the keys keeps members in which it finds their entries. -/
theorem exists_knownMembers_of_subset (h : SpelledBy entries v)
    (hdistinct : (entries.map Entry.key).Nodup) {names : List String}
    (hnames : names ⊆ entries.map Entry.key) :
    ∃ kept, knownMembers? names v = some kept ∧
      ∀ e ∈ entries, e.key ∈ names → e.HeldIn kept := by
  obtain ⟨members, hspells, rfl⟩ := h
  refine ⟨_, hspells.knownMembers?_eq hdistinct hnames, fun e he hkey => ?_⟩
  have hheld := hspells.heldIn hdistinct (fun _ hmem => hmem) he
  rwa [Entry.HeldIn, lookup_filter_contains names members hkey]

/-- A reader that looks for all the keys finds every entry. -/
theorem exists_knownMembers (h : SpelledBy entries v)
    (hdistinct : (entries.map Entry.key).Nodup) :
    ∃ kept, knownMembers? (entries.map Entry.key) v = some kept ∧
      ∀ e ∈ entries, e.HeldIn kept := by
  obtain ⟨kept, hkept, hheld⟩ := h.exists_knownMembers_of_subset hdistinct (List.Subset.refl _)
  exact ⟨kept, hkept, fun e he => hheld e he (List.mem_map_of_mem he)⟩

theorem of_isMember {members : List (String × JsonValue)}
    (h : List.Forall₂ Entry.IsMember entries members) : SpelledBy entries (record members) :=
  ⟨members, .of_isMember h, rfl⟩

end SpelledBy

/-! ## Reading fields -/

namespace Field

variable {α : Type} {read : JsonValue → Option α} {a : α} {kept : List (String × JsonValue)}

/-- A reader of records reads one field and goes on with the next. -/
theorem bind_eq {β : Type} {field : Option α} {next : α → Option β} {b : β}
    (hfield : field = some a) (hnext : next a = some b) : (field >>= next) = some b := by
  rw [hfield]
  exact hnext

theorem required_eq {key : String} {v : JsonValue} (h : (Entry.always key v).HeldIn kept)
    (hread : read v = some a) : required read kept key = some a := by
  unfold Entry.HeldIn Entry.always at h
  cases hfound : kept.lookup key with
  | none => simp [hfound] at h
  | some w =>
    obtain rfl : w = v := by simpa [hfound] using h
    simpa [required, hfound] using hread

/-- A field with a default is read as what it holds, or as its default where it is left out. -/
theorem withDefault_eq_of_isValue {e : Entry} {default : α} (h : e.HeldIn kept)
    (hread : ∀ v, e.IsValue v → read v = some a) (hdefault : e.MayLack → a = default) :
    withDefault read default kept e.key = some a := by
  unfold Entry.HeldIn at h
  unfold withDefault
  cases hfound : kept.lookup e.key with
  | none =>
    rw [hfound] at h
    simp [hdefault h]
  | some v =>
    rw [hfound] at h
    exact hread v h

theorem withDefault_eq {key : String} {v : JsonValue} {default : α}
    (h : (Entry.plain key v (a = default)).HeldIn kept) (hread : read v = some a) :
    withDefault read default kept key = some a :=
  withDefault_eq_of_isValue h (by rintro _ rfl; exact hread) id

theorem list_eq {spelled : α → JsonValue → Prop} {as : List α} {v : JsonValue}
    (h : SpelledEach spelled as v) (hread : ∀ a w, spelled a w → read w = some a) :
    list read v = some as := by
  obtain ⟨items, hitems, rfl⟩ := h
  unfold list
  induction hitems with
  | nil => rfl
  | @cons a w as ws ha _ ih => simp [List.mapM_cons, hread a w ha, ih]

theorem orNull_eq {spelled : α → JsonValue → Prop} {o : Option α} {v : JsonValue}
    (h : SpelledOrNull spelled o v) (hread : ∀ a w, spelled a w → read w = some a)
    (hnull : read .null = none) : orNull read v = some o := by
  cases o with
  | none =>
    obtain rfl : v = .null := h
    rfl
  | some a =>
    have hv : read v = some a := hread a v h
    cases v with
    | null => simp [hnull] at hv
    | _ => simp [orNull, hv]

theorem orNull_optional {write : α → JsonValue} (o : Option α)
    (hread : ∀ a, read (write a) = some a) (hnull : read .null = none) :
    orNull read (JsonValue.optional write o) = some o := by
  refine orNull_eq (SpelledOrNull.optional (fun _ => rfl) o) ?_ hnull
  rintro a _ rfl
  exact hread a

end Field

end TupleWire

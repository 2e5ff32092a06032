/-
  Entries that the readers of headers and bodies skip.

  A later version of the protocol may put more into a packet, so what stands under
  a key that a reader does not know must not change what it reads.  For bodies
  this is so: the keys beyond a byte can come and go.  A header takes its keys by
  their lowest eight bits, so a large key is taken for a small one, and only
  those can come and go whose lowest eight bits are none of the four keys of a
  header (`skipped_keys_iff`).
-/
import TupleWire.Proofs.Packet.Reading

set_option autoImplicit false

namespace TupleWire

/-! ## Lists that differ under some keys -/

section Keys

variable {keys : UInt64 → Bool}

/-- Whether an entry is under a key of a set. -/
def isUnder (keys : UInt64 → Bool) (entry : Value × Value) : Bool := entry.1.asUInt?.any keys

/-- The second list comes from the first by taking out and putting in, anywhere, entries under keys
of a set. -/
def SameOutside (keys : UInt64 → Bool) (es es' : List (Value × Value)) : Prop :=
  es.filter (!isUnder keys ·) = es'.filter (!isUnder keys ·)

theorem isUnder_eq_true_iff {entry : Value × Value} :
    isUnder keys entry = true ↔ ∃ key, entry.1.asUInt? = some key ∧ keys key = true :=
  Option.any_eq_true ..

/-- An entry put in anywhere. -/
theorem sameOutside_insert {entry : Value × Value} (h : isUnder keys entry = true)
    (front back : List (Value × Value)) :
    SameOutside keys (front ++ back) (front ++ entry :: back) := by
  have hout : (entry :: back).filter (!isUnder keys ·) = back.filter (!isUnder keys ·) :=
    List.filter_cons_of_neg (by simp [h])
  rw [SameOutside, List.filter_append, List.filter_append, hout]

/-- Entries that leave what was gathered so far as it is can be left out. -/
theorem foldlM_outside {σ ε : Type} {add : σ → Value × Value → Except ε σ}
    (h : ∀ s entry, isUnder keys entry = true → add s entry = .ok s)
    (es : List (Value × Value)) (s : σ) :
    es.foldlM add s = (es.filter (!isUnder keys ·)).foldlM add s := by
  induction es generalizing s with
  | nil => rfl
  | cons entry rest ih =>
      cases hunder : isUnder keys entry with
      | true =>
          rw [List.foldlM_cons, h s entry hunder, List.filter_cons_of_neg (by simp [hunder])]
          exact ih s
      | false =>
          rw [List.filter_cons_of_pos (by simp [hunder]), List.foldlM_cons, List.foldlM_cons]
          exact congrArg _ (funext ih)

end Keys

/-! ## Headers -/

/-- The keys of a header. -/
def HeaderKey.all : List UInt8 := [code, sync, schemaVersion, streamId]

namespace Header

/-- An entry under a key whose lowest eight bits are no key of a header is skipped. -/
theorem add_of_not_mem {d : Draft} {entry : Value × Value} {key : UInt64}
    (hkey : entry.1.asUInt? = some key) (h : key.toUInt8 ∉ HeaderKey.all) : d.add entry = .ok d := by
  simp only [HeaderKey.all, List.mem_cons, List.not_mem_nil, or_false, not_or] at h
  obtain ⟨hcode, hsync, hversion, hstream⟩ := h
  rw [Draft.add, hkey]
  simp only [if_neg hcode, if_neg hsync, if_neg hversion, if_neg hstream]

/-- A header takes a key by its lowest eight bits. -/
theorem add_lowest_bits (d : Draft) (key : UInt64) (v : Value) :
    d.add (.uint key, v) = d.add (.byte key.toUInt8, v) := by
  have hlow : key.toUInt8.toUInt64.toUInt8 = key.toUInt8 := UInt8.toUInt8_toUInt64 _
  rw [Value.byte, Draft.add, Draft.add]
  simp only [Value.asUInt?, hlow]

/-- A number under a key of a header that comes behind a code of zero makes another header. -/
theorem ofValue_ne_of_mem {key : UInt64} (h : key.toUInt8 ∈ HeaderKey.all) :
    ofValue (.map [(.byte HeaderKey.code, .uint 0)]) ≠
      ofValue (.map [(.byte HeaderKey.code, .uint 0), (.uint key, .uint 1)]) := by
  have hlow : ofValue (.map [(.byte HeaderKey.code, .uint 0), (.uint key, .uint 1)]) =
      ofValue (.map [(.byte HeaderKey.code, .uint 0), (.byte key.toUInt8, .uint 1)]) := by
    simp only [ofValue, ofEntries, List.foldlM_cons, add_lowest_bits]
  rw [hlow]
  intro hsame
  simp only [HeaderKey.all, List.mem_cons, List.not_mem_nil, or_false] at h
  obtain hkey | hkey | hkey | hkey := h <;> rw [hkey] at hsame <;> cases hsame

end Header

/-! ## Bodies -/

namespace Body

/-- An entry under a key beyond a byte is skipped. -/
theorem add_of_lt {body : Body} {entry : Value × Value} {key : UInt64}
    (hkey : entry.1.asUInt? = some key) (h : 255 < key) : body.add entry = .ok body := by
  rw [add, hkey]
  exact congrArg Except.ok (if_neg (UInt64.not_le.2 h))

/-- An entry under a key of a byte makes another body of none. -/
theorem ofValue_ne_of_le {key : UInt64} (h : key ≤ 255) (v : Value) :
    ofValue (.map []) ≠ ofValue (.map [(.uint key, v)]) := by
  have hread : ofValue (.map [(.uint key, v)]) = .ok (empty.insert key.toUInt8 v) :=
    congrArg Except.ok (if_pos h)
  rw [hread]
  intro hsame
  have hfound := congrArg (SortedMap.get? · key.toUInt8) (Except.ok.inj hsame)
  rw [SortedMap.get?_insert, if_pos rfl] at hfound
  cases hfound

end Body

/-! ## What can come and go -/

/-- Entries under the keys of a set can be put into a header and taken out of it, any number of them
and anywhere, without changing the header or the fault that is read, if and only if the lowest eight
bits of no key of the set are a key of a header; they can be put into a body and taken out of it if
and only if every key of the set is beyond a byte. -/
theorem skipped_keys_iff (keys : UInt64 → Bool) :
    ((∀ es es', SameOutside keys es es' →
        Header.ofValue (.map es) = Header.ofValue (.map es')) ↔
      ∀ key, keys key = true → key.toUInt8 ∉ HeaderKey.all) ∧
    ((∀ es es', SameOutside keys es es' → Body.ofValue (.map es) = Body.ofValue (.map es')) ↔
      ∀ key, keys key = true → 255 < key) := by
  have hunder {key : UInt64} (hkey : keys key = true) (v : Value) :
      isUnder keys (.uint key, v) = true := isUnder_eq_true_iff.2 ⟨key, rfl, hkey⟩
  refine ⟨⟨?_, ?_⟩, ?_, ?_⟩
  · intro hskips key hkey hmem
    exact Header.ofValue_ne_of_mem hmem
      (hskips _ _ (sameOutside_insert (hunder hkey (.uint 1)) [_] []))
  · intro hkeys es es' hsame
    have hskip (d : Header.Draft) (entry : Value × Value) (h : isUnder keys entry = true) :
        d.add entry = .ok d := by
      obtain ⟨key, hentry, hkey⟩ := isUnder_eq_true_iff.1 h
      exact Header.add_of_not_mem hentry (hkeys key hkey)
    rw [Header.ofValue, Header.ofValue, Header.ofEntries, Header.ofEntries, foldlM_outside hskip es,
      foldlM_outside hskip es', hsame]
  · intro hskips key hkey
    refine UInt64.not_le.1 fun hle => ?_
    exact Body.ofValue_ne_of_le hle .nil (hskips _ _ (sameOutside_insert (hunder hkey .nil) [] []))
  · intro hkeys es es' hsame
    have hskip (body : Body) (entry : Value × Value) (h : isUnder keys entry = true) :
        body.add entry = .ok body := by
      obtain ⟨key, hentry, hkey⟩ := isUnder_eq_true_iff.1 h
      exact Body.add_of_lt hentry (hkeys key hkey)
    rw [Body.ofValue, Body.ofValue, foldlM_outside hskip es, foldlM_outside hskip es', hsame]

/-- The keys that are none of a header. -/
def isForeign (key : UInt64) : Bool := !HeaderKey.all.any (·.toUInt64 == key)

/-- A key that is none of a header, put behind the header of a ping, makes another request of it. -/
theorem foreign_key_replaces_code :
    let ping : List (Value × Value) :=
      [(.byte HeaderKey.code, .uint 64), (.byte HeaderKey.sync, .uint 7)]
    SameOutside isForeign ping (ping ++ [(.uint 256, .uint 5)]) ∧
      Header.ofValue (.map ping) = .ok (.request .ping 7) ∧
      Header.ofValue (.map (ping ++ [(.uint 256, .uint 5)])) = .ok (.request .delete 7) := by
  intro ping
  refine ⟨?_, rfl, rfl⟩
  have hsame : SameOutside isForeign (ping ++ []) (ping ++ [(.uint 256, .uint 5)]) :=
    sameOutside_insert rfl ping []
  rwa [List.append_nil] at hsame

end TupleWire

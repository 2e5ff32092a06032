/-
  What is written as JSON is read back.

  The writer puts no blanks, so a reader of any kind finds what it reads at the
  front, and stops at the end of the text or at one of the three characters that
  may follow a value: `Ends`.  Each reader therefore gets one lemma of the form
  "it takes what was written and leaves the rest", with the fuel bounded by the
  number of characters written.  Texts are read character by character
  (`readTextFrom_escape`), numbers digit by digit (`readUnsigned_toDigits`), and
  arrays and objects by recursion on the value.
-/
import Mathlib.Tactic.IntervalCases
import TupleWire.Json.Reader

set_option autoImplicit false

namespace TupleWire.JsonValue

/-- What may follow a value: nothing, or what goes on or ends around it. -/
inductive Ends : List Char → Prop where
  | nothing : Ends []
  | comma (cs : List Char) : Ends (',' :: cs)
  | bracket (cs : List Char) : Ends (']' :: cs)
  | brace (cs : List Char) : Ends ('\x7d' :: cs)

/-! ## Numbers -/

theorem isDigit_of_mem_toDigits {n : Nat} {c : Char} (h : c ∈ Nat.toDigits 10 n) :
    isDigit c = true := by
  have hdigit := Nat.isDigit_of_mem_toDigits (by decide) (by decide) h
  simpa [isDigit, Char.isDigit, Char.le_def] using hdigit

theorem exists_digitChar {c : Char} (h : isDigit c = true) : ∃ d < 10, c = Nat.digitChar d := by
  have hrange : 48 ≤ c.toNat ∧ c.toNat ≤ 57 := by
    simpa [isDigit, Char.le_def, UInt32.le_iff_toNat_le] using h
  refine ⟨c.toNat - 48, by omega, Char.toNat_inj.mp ?_⟩
  rw [Nat.toNat_digitChar_of_lt_ten (by omega)]
  omega

/-- Every number has a first digit. -/
theorem exists_toDigits_eq (n : Nat) :
    ∃ (c : Char) (cs : List Char), Nat.toDigits 10 n = c :: cs ∧ isDigit c = true := by
  obtain ⟨c, cs, hdigits⟩ := List.exists_cons_of_ne_nil (Nat.toDigits_ne_nil (n := n) (b := 10))
  exact ⟨c, cs, hdigits, isDigit_of_mem_toDigits (n := n) (by simp [hdigits])⟩

theorem decimal_toDigits (n : Nat) : decimal (Nat.toDigits 10 n) = n := by
  have h := Nat.ofDigitChars_toDigits (b := 10) (n := n) (by decide) (by decide)
  rw [Nat.ofDigitChars_eq_foldl] at h
  simpa [decimal, Magnitude.digit, Nat.mul_comm] using h

/-- A number other than zero is written without a leading zero. -/
theorem head_toDigits_ne_zero {n : Nat} (h : 0 < n) : (Nat.toDigits 10 n).head? ≠ some '0' := by
  induction n using Nat.strongRecOn with
  | ind n ih =>
    by_cases hsmall : n < 10
    · rw [Nat.toDigits_of_lt_base hsmall]
      have hdigits : ∀ d < 10, 0 < d → some (Nat.digitChar d) ≠ some '0' := by decide
      exact hdigits n hsmall h
    · have hfront := ih (n / 10) (by omega) (by omega)
      obtain ⟨c, cs, hdigits, -⟩ := exists_toDigits_eq (n / 10)
      rw [Nat.toDigits_of_base_le (by decide) (by omega), hdigits]
      simpa [hdigits] using hfront

/-- Digits are read up to what is none. -/
theorem readDigits_append {digits rest : List Char} (hne : digits ≠ [])
    (hdigits : ∀ c ∈ digits, isDigit c = true) (hrest : Ends rest) :
    readDigits (digits ++ rest) = some (digits, rest) := by
  have htake : (digits ++ rest).takeWhile isDigit = digits := by
    rw [List.takeWhile_append_of_pos hdigits]
    cases hrest <;> simp [isDigit]
  have hdrop : (digits ++ rest).dropWhile isDigit = rest := by
    rw [List.dropWhile_append_of_pos hdigits]
    cases hrest <;> rfl
  simp [readDigits, htake, hdrop, hne]

theorem readInteger_toDigits (n : Nat) {rest : List Char} (hrest : Ends rest) :
    readInteger (Nat.toDigits 10 n ++ rest) = some (Nat.toDigits 10 n, rest) := by
  rcases Nat.eq_zero_or_pos n with rfl | hpos
  · rfl
  · have hhead := head_toDigits_ne_zero hpos
    rw [← readDigits_append Nat.toDigits_ne_nil (fun _ => isDigit_of_mem_toDigits) hrest]
    obtain ⟨c, cs, hdigits, -⟩ := exists_toDigits_eq n
    have hc : c ≠ '0' := by simpa [hdigits] using hhead
    simp [hdigits, readInteger, hc]

/-- A natural number of 64 bits is read back. -/
theorem readUnsigned_toDigits (n : UInt64) {rest : List Char} (hrest : Ends rest) :
    readUnsigned false (Nat.toDigits 10 n.toNat ++ rest) = some (.natural n, rest) := by
  have hfraction : readFraction rest = some (none, rest) := by cases hrest <;> rfl
  have hexponent : readExponent rest = some (none, rest) := by cases hrest <;> rfl
  simp [readUnsigned, readInteger_toDigits n.toNat hrest, hfraction, hexponent, decimal_toDigits,
    n.toNat_lt]

/-! ## Texts -/

theorem hexDigit?_digitChar {n : Nat} (h : n < 16) : hexDigit? (Nat.digitChar n) = some n := by
  have hdigits : ∀ d < 16, hexDigit? (Nat.digitChar d) = some d := by decide
  exact hdigits n h

/-- A character that has a two-letter escape is the one that the escape stands for. -/
theorem unescape?_of_shortEscape? {c e : Char} (h : shortEscape? c = some e) :
    unescape? e = some c ∧ e ≠ 'u' := by
  unfold shortEscape? at h
  split at h <;> cases h <;> exact ⟨rfl, by decide⟩

/-- A text that is being read and holds no half of a surrogate pair. -/
def TextDraft.of (cs : List Char) : TextDraft := ⟨some cs.reverse, none⟩

theorem TextDraft.push_of (cs : List Char) (c : Char) : (of cs).push c = of (cs ++ [c]) := by
  simp [of, push]

/-- A control character by its number. -/
theorem TextDraft.pushUnit_of (cs : List Char) {c : Char} (h : c.toNat < 0x20) :
    (of cs).pushUnit c.toNat = of (cs ++ [c]) := by
  have hlow : ¬ (0xd800 ≤ c.toNat ∧ c.toNat < 0xdc00) := by omega
  have hhigh : ¬ (0xdc00 ≤ c.toNat ∧ c.toNat < 0xe000) := by omega
  simp [of, pushUnit, hlow, hhigh]

/-- A character of a quoted text is read back. -/
theorem readTextFrom_escape (read : List Char) (c : Char) (more : List Char) :
    readTextFrom (.of read) (escape c ++ more) = readTextFrom (.of (read ++ [c])) more := by
  unfold escape
  cases hshort : shortEscape? c with
  | some e =>
    obtain ⟨hunescape, hu⟩ := unescape?_of_shortEscape? hshort
    simp [readTextFrom, hu, hunescape, TextDraft.push_of]
  | none =>
    by_cases hcontrol : c.toNat < 0x20
    · have hvalue : c.toNat / 16 * 16 + c.toNat % 16 = c.toNat := by omega
      have hzero : hexDigit? '0' = some 0 := by decide
      simp [hcontrol, readTextFrom, hzero, hexDigit?_digitChar (n := c.toNat / 16) (by omega),
        hexDigit?_digitChar (n := c.toNat % 16) (by omega), hvalue,
        TextDraft.pushUnit_of read hcontrol]
    · have hquote : c ≠ '"' := by rintro rfl; cases hshort
      have hslash : c ≠ '\\' := by rintro rfl; cases hshort
      simp [hcontrol, readTextFrom, hslash, TextDraft.push_of]

/-- The characters of a quoted text are read back, after those that have been read. -/
theorem readTextFrom_flatMap_escape (read cs rest : List Char) :
    readTextFrom (.of read) (cs.flatMap escape ++ '"' :: rest)
      = some (some (String.ofList (read ++ cs)), rest) := by
  induction cs generalizing read with
  | nil => simp [readTextFrom, TextDraft.finish, TextDraft.of]
  | cons c cs ih =>
    rw [List.flatMap_cons, List.append_assoc, readTextFrom_escape, ih, List.append_assoc]
    rfl

/-- A key, or a text of its own, is read back, whether it spells a character string or not. -/
theorem exists_renderKey_eq (key : Option String) : ∃ cs : List Char,
    renderKey key = '"' :: cs ∧ ∀ rest, readTextFrom {} (cs ++ rest) = some (key, rest) := by
  cases key with
  | none => exact ⟨_, rfl, fun _ => rfl⟩
  | some s =>
    refine ⟨s.toList.flatMap escape ++ ['"'], by simp [renderKey, quote], fun rest => ?_⟩
    have h := readTextFrom_flatMap_escape [] s.toList rest
    simpa [TextDraft.of] using h

/-! ## Values -/

theorem skipBlanks_cons {c : Char} (h : isBlank c = false) (cs : List Char) :
    skipBlanks (c :: cs) = c :: cs := by
  simp [skipBlanks, h]

theorem render_string (s : Option String) : render (.string s) = renderKey s := by
  cases s <;> rfl

/-- A value begins with a character that is no blank and ends nothing. -/
theorem exists_render_eq (v : JsonValue) :
    ∃ (c : Char) (cs : List Char), render v = c :: cs ∧ isBlank c = false ∧ c ≠ ']' := by
  cases v with
  | null => exact ⟨_, _, rfl, rfl, by decide⟩
  | bool b => cases b <;> exact ⟨_, _, rfl, rfl, by decide⟩
  | natural n =>
    obtain ⟨c, cs, hdigits, hc⟩ := exists_toDigits_eq n.toNat
    obtain ⟨d, hd, rfl⟩ := exists_digitChar hc
    have hfirst : ∀ d < 10, isBlank (Nat.digitChar d) = false ∧ Nat.digitChar d ≠ ']' := by decide
    exact ⟨_, cs, hdigits, hfirst d hd⟩
  | otherNumber inRange => cases inRange <;> exact ⟨_, _, rfl, rfl, by decide⟩
  | string s =>
    obtain ⟨cs, hcs, -⟩ := exists_renderKey_eq s
    exact ⟨'"', cs, by rw [render_string, hcs], rfl, by decide⟩
  | array items => exact ⟨_, _, by rw [render, List.cons_append], rfl, by decide⟩
  | object members => exact ⟨_, _, by rw [render, List.cons_append], rfl, by decide⟩

theorem length_render_pos (v : JsonValue) : 0 < (render v).length := by
  obtain ⟨c, cs, hrender, -⟩ := exists_render_eq v
  simp [hrender]

/-- Elements begin as the first of them does. -/
theorem exists_renderItems_eq (v : JsonValue) (vs : List JsonValue) :
    ∃ (c : Char) (cs : List Char),
      renderItems (v :: vs) = c :: cs ∧ isBlank c = false ∧ c ≠ ']' := by
  obtain ⟨c, cs, hrender, hc⟩ := exists_render_eq v
  cases vs with
  | nil => exact ⟨c, cs, by rw [renderItems, hrender], hc⟩
  | cons w ws => exact ⟨c, cs ++ ',' :: renderItems (w :: ws), by simp [renderItems, hrender], hc⟩

theorem exists_renderMembers_eq (key : Option String) (v : JsonValue)
    (ms : List (Option String × JsonValue)) :
    ∃ cs : List Char, renderMembers ((key, v) :: ms) = '"' :: cs := by
  obtain ⟨cs, hcs, -⟩ := exists_renderKey_eq key
  cases ms with
  | nil => exact ⟨_, by rw [renderMembers, hcs, List.cons_append]⟩
  | cons m ms =>
    exact ⟨cs ++ ':' :: (render v ++ ',' :: renderMembers (m :: ms)), by simp [renderMembers, hcs]⟩

/-- What begins with a digit is a number. -/
theorem readValue_of_isDigit {c : Char} (h : isDigit c = true) (fuel : Nat) (cs : List Char) :
    readValue (fuel + 1) (c :: cs) = readUnsigned false (c :: cs) := by
  obtain ⟨d, hd, rfl⟩ := exists_digitChar h
  interval_cases d <;> rfl

theorem readValue_natural (n : UInt64) (fuel : Nat) {rest : List Char} (hrest : Ends rest) :
    readValue (fuel + 1) (render (.natural n) ++ rest) = some (.natural n, rest) := by
  have hread := readUnsigned_toDigits n hrest
  obtain ⟨c, cs, hdigits, hc⟩ := exists_toDigits_eq n.toNat
  rw [hdigits, List.cons_append] at hread
  rw [render, hdigits, List.cons_append, readValue_of_isDigit hc, hread]

/-- The two numbers that stand for all others are read back. -/
theorem readValue_otherNumber (inRange : Bool) (fuel : Nat) {rest : List Char}
    (hrest : Ends rest) :
    readValue (fuel + 1) (render (.otherNumber inRange) ++ rest)
      = some (.otherNumber inRange, rest) := by
  cases inRange with
  | true =>
    have hone : (Magnitude.ofDigits ['1'] [] 0).inRange = true := by decide +kernel
    have hwhole : readInteger ('1' :: rest) = some (['1'], rest) := readInteger_toDigits 1 hrest
    calc readValue (fuel + 1) ('-' :: '1' :: rest)
      _ = readUnsigned true ('1' :: rest) := rfl
      _ = some (.otherNumber true, rest) := by
        cases hrest <;> simp [readUnsigned, hwhole, readFraction, readExponent, hone]
  | false => cases hrest <;> rfl

mutual

/-- A value is read back. -/
theorem readValue_render (v : JsonValue) {fuel : Nat} {rest : List Char}
    (hfuel : (render v).length ≤ fuel) (hrest : Ends rest) :
    readValue fuel (render v ++ rest) = some (v, rest) := by
  obtain ⟨fuel, rfl⟩ : ∃ k, fuel = k + 1 := ⟨fuel - 1, by have := length_render_pos v; omega⟩
  match v with
  | .null => rfl
  | .bool b => cases b <;> rfl
  | .natural n => exact readValue_natural n fuel hrest
  | .otherNumber inRange => exact readValue_otherNumber inRange fuel hrest
  | .string s =>
    obtain ⟨cs, hcs, hread⟩ := exists_renderKey_eq s
    simp [render_string, hcs, readValue, skipBlanks, isBlank, hread]
  | .array [] => rfl
  | .array (v :: vs) =>
    have hlength : (renderItems (v :: vs)).length < fuel := by
      simp only [render, List.length_append, List.length_cons, List.length_nil] at hfuel
      omega
    have hitems := readItems_renderItems (v :: vs) (by simp) rest hlength
    obtain ⟨c, cs, hcs, hblank, hbracket⟩ := exists_renderItems_eq v vs
    rw [hcs, List.cons_append] at hitems
    have hopen : isBlank '[' = false := rfl
    simp [render, hcs, readValue, skipBlanks_cons hopen, skipBlanks_cons hblank, hbracket, hitems]
  | .object [] => rfl
  | .object ((key, v) :: ms) =>
    have hlength : (renderMembers ((key, v) :: ms)).length < fuel := by
      simp only [render, List.length_append, List.length_cons, List.length_nil] at hfuel
      omega
    have hmembers := readMembers_renderMembers ((key, v) :: ms) (by simp) rest hlength
    obtain ⟨cs, hcs⟩ := exists_renderMembers_eq key v ms
    rw [hcs, List.cons_append] at hmembers
    simp [render, hcs, readValue, skipBlanks, isBlank, hmembers]

/-- Elements are read back. -/
theorem readItems_renderItems (vs : List JsonValue) (hne : vs ≠ []) {fuel : Nat}
    (rest : List Char) (hfuel : (renderItems vs).length < fuel) :
    readItems fuel (renderItems vs ++ ']' :: rest) = some (vs, rest) := by
  obtain ⟨fuel, rfl⟩ : ∃ k, fuel = k + 1 := ⟨fuel - 1, by omega⟩
  match vs with
  | [v] =>
    rw [renderItems] at hfuel ⊢
    have hv := readValue_render v (Nat.lt_succ_iff.mp hfuel) (.bracket rest)
    simp [readItems, hv, skipBlanks, isBlank]
  | v :: w :: ws =>
    have hlength : (renderItems (v :: w :: ws)).length
        = (render v).length + (renderItems (w :: ws)).length + 1 := by
      simp only [renderItems, List.length_append, List.length_cons]
      omega
    have hfirst : (render v).length ≤ fuel := by omega
    have hlast : (renderItems (w :: ws)).length < fuel := by omega
    have hv := readValue_render v hfirst (.comma (renderItems (w :: ws) ++ ']' :: rest))
    have hws := readItems_renderItems (w :: ws) (by simp) rest hlast
    simp [renderItems, readItems, hv, hws, skipBlanks, isBlank]

/-- Members are read back. -/
theorem readMembers_renderMembers (ms : List (Option String × JsonValue)) (hne : ms ≠ [])
    {fuel : Nat} (rest : List Char) (hfuel : (renderMembers ms).length < fuel) :
    readMembers fuel (renderMembers ms ++ '\x7d' :: rest) = some (ms, rest) := by
  obtain ⟨fuel, rfl⟩ : ∃ k, fuel = k + 1 := ⟨fuel - 1, by omega⟩
  match ms with
  | [(key, v)] =>
    have hlength : (renderMembers [(key, v)]).length
        = (renderKey key).length + (render v).length + 1 := by
      simp only [renderMembers, List.length_append, List.length_cons]
      omega
    have hvalue : (render v).length ≤ fuel := by omega
    have hv := readValue_render v hvalue (.brace rest)
    obtain ⟨cs, hcs, hread⟩ := exists_renderKey_eq key
    simp [renderMembers, hcs, readMembers, hread, hv, skipBlanks, isBlank]
  | (key, v) :: m :: ms =>
    have hlength : (renderMembers ((key, v) :: m :: ms)).length
        = (renderKey key).length + (render v).length + (renderMembers (m :: ms)).length + 2 := by
      simp only [renderMembers, List.length_append, List.length_cons]
      omega
    have hvalue : (render v).length ≤ fuel := by omega
    have hlast : (renderMembers (m :: ms)).length < fuel := by omega
    have hv := readValue_render v hvalue (.comma (renderMembers (m :: ms) ++ '\x7d' :: rest))
    have hms := readMembers_renderMembers (m :: ms) (by simp) rest hlast
    obtain ⟨cs, hcs, hread⟩ := exists_renderKey_eq key
    simp [renderMembers, hcs, readMembers, hread, hv, hms, skipBlanks, isBlank]

end

/-- A whole text that was written is read back. -/
theorem parse?_toText (v : JsonValue) : parse? v.toText = some v := by
  have hfuel : (render v).length ≤ 2 * (render v).length + 2 := by omega
  have hread := readValue_render v hfuel .nothing
  rw [List.append_nil] at hread
  simp [parse?, toText, hread, skipBlanks]

end TupleWire.JsonValue

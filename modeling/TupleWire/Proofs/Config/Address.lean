/-
  Which texts are addresses, and what they name.

  An address is cut at its last colon, so a host may hold colons of its own and a
  port holds none (`splitLastColon?_append`, `of_splitLastColon?`).  Which texts are
  ports is said by a grammar, `Denotes`, that knows nothing of the reader; the reader
  takes these texts and no others (`port?_eq_some_iff`).  What a group prints is one
  of its addresses, since a number printed in decimal denotes itself.
-/
import Mathlib.Data.List.TakeWhile
import TupleWire.Config.Group

set_option autoImplicit false

namespace TupleWire.Group

/-! ## Numbers -/

/-- One or more decimal digits. -/
structure AreDigits (digits : List Char) : Prop where
  nonempty : digits ≠ []
  digit : ∀ c ∈ digits, c.isDigit = true

/-- The texts that denote a number: its decimal digits, with zeros in front or not, and with a plus
sign before them or not. -/
inductive Denotes : List Char → Nat → Prop where
  | plain {digits : List Char} (h : AreDigits digits) :
      Denotes digits (Nat.ofDigitChars 10 digits 0)
  | signed {digits : List Char} (h : AreDigits digits) :
      Denotes ('+' :: digits) (Nat.ofDigitChars 10 digits 0)

theorem areDigits_toDigits (n : Nat) : AreDigits (Nat.toDigits 10 n) where
  nonempty := Nat.toDigits_ne_nil
  digit _ hc := Nat.isDigit_of_mem_toDigits (by decide) (by decide) hc

/-- A number as it is printed denotes itself. -/
theorem denotes_toDigits (n : Nat) : Denotes (Nat.toDigits 10 n) n := by
  have hdenotes := Denotes.plain (areDigits_toDigits n)
  rwa [Nat.ofDigitChars_toDigits (by decide) (by decide)] at hdenotes

theorem AreDigits.not_mem {digits : List Char} (h : AreDigits digits) {c : Char}
    (hc : c.isDigit = false) : c ∉ digits := by
  intro hmem
  rw [h.digit c hmem] at hc
  cases hc

/-- No text that denotes a number holds a colon. -/
theorem Denotes.colon_not_mem {text : List Char} {n : Nat} (h : Denotes text n) : ':' ∉ text := by
  cases h with
  | plain hdigits => exact hdigits.not_mem rfl
  | signed hdigits =>
      intro hcolon
      obtain hplus | hcolon := List.mem_cons.1 hcolon
      · cases hplus
      · exact hdigits.not_mem rfl hcolon

/-! ## Digits -/

theorem digit?_eq_some_iff {c : Char} {d : Nat} :
    digit? c = some d ↔ c.isDigit = true ∧ c.toNat - '0'.toNat = d := by
  have hrange : c.isDigit = true ↔ '0' ≤ c ∧ c ≤ '9' := by
    simp [Char.isDigit, Char.le_def]
  rw [hrange, digit?, Option.ite_none_right_eq_some, Option.some.injEq]

/-- Digits are read one after the other, on top of what has been read before. -/
theorem foldlM_digit?_eq_some_iff {digits : List Char} {before n : Nat} :
    digits.foldlM (fun acc c => (digit? c).map (acc * 10 + ·)) before = some n ↔
      (∀ c ∈ digits, c.isDigit = true) ∧ Nat.ofDigitChars 10 digits before = n := by
  induction digits generalizing before with
  | nil => simp
  | cons c cs ih =>
      rw [List.foldlM_cons, Option.bind_eq_bind, Option.bind_eq_some_iff, List.forall_mem_cons,
        Nat.ofDigitChars_cons, Nat.mul_comm 10 before]
      constructor
      · rintro ⟨value, hvalue, hrest⟩
        obtain ⟨d, hd, rfl⟩ := Option.map_eq_some_iff.1 hvalue
        obtain ⟨hdigit, rfl⟩ := digit?_eq_some_iff.1 hd
        obtain ⟨hdigits, hn⟩ := ih.1 hrest
        exact ⟨⟨hdigit, hdigits⟩, hn⟩
      · rintro ⟨⟨hdigit, hdigits⟩, hn⟩
        have hd : digit? c = some (c.toNat - '0'.toNat) := digit?_eq_some_iff.2 ⟨hdigit, rfl⟩
        exact ⟨_, Option.map_eq_some_iff.2 ⟨_, hd, rfl⟩, ih.2 ⟨hdigits, hn⟩⟩

theorem decimal?_eq_some_iff {digits : List Char} {n : Nat} :
    decimal? digits = some n ↔ AreDigits digits ∧ Nat.ofDigitChars 10 digits 0 = n := by
  rw [decimal?]
  split
  · rename_i hempty
    refine iff_of_false (by simp) ?_
    rintro ⟨hdigits, -⟩
    exact hdigits.nonempty (List.isEmpty_iff.1 hempty)
  · rename_i hsome
    rw [foldlM_digit?_eq_some_iff]
    constructor
    · rintro ⟨hdigits, hn⟩
      exact ⟨⟨fun hnil => hsome (List.isEmpty_iff.2 hnil), hdigits⟩, hn⟩
    · rintro ⟨hdigits, hn⟩
      exact ⟨hdigits.digit, hn⟩

/-! ## Ports -/

/-- A text without the plus sign before it. -/
def withoutSign : List Char → List Char
  | '+' :: digits => digits
  | digits => digits

theorem withoutSign_of_areDigits {digits : List Char} (h : AreDigits digits) :
    withoutSign digits = digits := by
  unfold withoutSign
  split
  · exact absurd List.mem_cons_self (h.not_mem (c := '+') rfl)
  · rfl

theorem decimal?_withoutSign_eq_some_iff {text : List Char} {n : Nat} :
    decimal? (withoutSign text) = some n ↔ Denotes text n := by
  rw [decimal?_eq_some_iff]
  constructor
  · rintro ⟨hdigits, rfl⟩
    unfold withoutSign at hdigits ⊢
    split at hdigits
    · exact .signed hdigits
    · exact .plain hdigits
  · intro hdenotes
    cases hdenotes with
    | plain hdigits =>
        rw [withoutSign_of_areDigits hdigits]
        exact ⟨hdigits, rfl⟩
    | signed hdigits => exact ⟨hdigits, rfl⟩

theorem port?_eq_bind (text : List Char) :
    port? text = (decimal? (withoutSign text)).bind fun n =>
      if n < 65536 then some (UInt16.ofNat n) else none := by
  unfold withoutSign
  split
  · rename_i digits
    rw [port?]
    cases decimal? digits <;> rfl
  · rename_i hplain
    rw [port?]
    · cases decimal? text <;> rfl
    · exact hplain

/-- A port is a number that fits into sixteen bits. -/
theorem port?_eq_some_iff {text : List Char} {port : UInt16} :
    port? text = some port ↔ ∃ n, Denotes text n ∧ n ≤ 65535 ∧ port = UInt16.ofNat n := by
  rw [port?_eq_bind, Option.bind_eq_some_iff]
  refine exists_congr fun n => ?_
  rw [decimal?_withoutSign_eq_some_iff, Option.ite_none_right_eq_some, Option.some.injEq,
    Nat.lt_succ_iff, eq_comm (a := UInt16.ofNat n)]

/-! ## Addresses -/

/-- A text is cut at a colon with none behind it. -/
theorem splitLastColon?_append (host : List Char) {port : List Char} (hport : ':' ∉ port) :
    splitLastColon? (host ++ ':' :: port) = some (host, port) := by
  have hback : (host ++ ':' :: port).reverse = port.reverse ++ ':' :: host.reverse := by
    rw [List.reverse_append, List.reverse_cons, List.append_assoc, List.singleton_append]
  have hother : ∀ c ∈ port.reverse, (c != ':') = true := by
    intro c hc
    rw [bne_iff_ne]
    rintro rfl
    exact hport (List.mem_reverse.1 hc)
  rw [splitLastColon?, hback, List.dropWhile_append_of_pos hother,
    List.takeWhile_append_of_pos hother]
  simp

/-- A text is not cut anywhere else. -/
theorem of_splitLastColon? {text host port : List Char}
    (h : splitLastColon? text = some (host, port)) : text = host ++ ':' :: port ∧ ':' ∉ port := by
  rw [splitLastColon?] at h
  split at h
  · rename_i colon front hdrop
    -- Reading from the back stops at the first colon, which is the last one of the text.
    obtain rfl : colon = ':' := by
      have hstops := List.head_dropWhile_not (· != ':') (l := text.reverse) (by simp [hdrop])
      simpa [hdrop] using hstops
    have hback : text.reverse = text.reverse.takeWhile (· != ':') ++ ':' :: front := by
      rw [← hdrop, List.takeWhile_append_dropWhile]
    obtain ⟨rfl, rfl⟩ := Prod.mk.inj (Option.some.inj h)
    constructor
    · calc text = text.reverse.reverse := text.reverse_reverse.symm
        _ = (text.reverse.takeWhile (· != ':') ++ ':' :: front).reverse := by rw [← hback]
        _ = front.reverse ++ ':' :: (text.reverse.takeWhile (· != ':')).reverse := by simp
    · intro hmem
      have hother := List.mem_takeWhile_imp (List.mem_reverse.1 hmem)
      simp at hother
  · cases h

/-- A group is made from a text that is a host, a colon and a number of sixteen bits. -/
theorem ofAddr?_eq_some_iff {tag text : String} {g : Group} :
    ofAddr? tag text = some g ↔
      ∃ (host port : String) (n : Nat), text = host ++ ":" ++ port ∧ ':' ∉ port.toList ∧
        Denotes port.toList n ∧ n ≤ 65535 ∧ g = { tag, host, port := UInt16.ofNat n } := by
  constructor
  · intro hread
    rw [ofAddr?] at hread
    split at hread
    · rename_i host port hsplit
      obtain ⟨htext, hcolon⟩ := of_splitLastColon? hsplit
      obtain ⟨number, hport, rfl⟩ := Option.map_eq_some_iff.1 hread
      obtain ⟨n, hdenotes, hn, rfl⟩ := port?_eq_some_iff.1 hport
      refine ⟨String.ofList host, String.ofList port, n, ?_, ?_, ?_, hn, rfl⟩
      · rw [← String.toList_inj, htext]
        simp
      · rwa [String.toList_ofList]
      · rwa [String.toList_ofList]
    · cases hread
  · rintro ⟨host, port, n, rfl, hcolon, hdenotes, hn, rfl⟩
    have htext : (host ++ ":" ++ port).toList = host.toList ++ ':' :: port.toList := by simp
    have hport : port? port.toList = some (UInt16.ofNat n) :=
      port?_eq_some_iff.2 ⟨n, hdenotes, hn, rfl⟩
    rw [ofAddr?, htext, splitLastColon?_append _ hcolon]
    simp only [hport, Option.map_some, String.ofList_toList]

theorem addr_eq (g : Group) :
    g.addr = g.host ++ ":" ++ String.ofList (Nat.toDigits 10 g.port.toNat) := by
  rw [addr, ← Nat.toString_eq_ofList_toDigits]
  rfl

/-- A group is made from exactly those texts that are a host, a colon and a port, where a port holds
no colon and denotes a number of sixteen bits; it then has this host and this port.  The address of
any group, whatever its host, is such a text and gives its host and port back. -/
theorem addresses_name_host_and_port (tag : String) :
    (∀ (text : String) (g : Group), ofAddr? tag text = some g ↔
      ∃ (host port : String) (n : Nat), text = host ++ ":" ++ port ∧ ':' ∉ port.toList ∧
        Denotes port.toList n ∧ n ≤ 65535 ∧ g = { tag, host, port := UInt16.ofNat n }) ∧
    ∀ g : Group, ofAddr? tag g.addr = some { tag, host := g.host, port := g.port } := by
  refine ⟨fun text g => ofAddr?_eq_some_iff, ?_⟩
  intro g
  have hdenotes : Denotes (Nat.toDigits 10 g.port.toNat) g.port.toNat := denotes_toDigits _
  rw [ofAddr?_eq_some_iff, addr_eq]
  refine ⟨g.host, String.ofList (Nat.toDigits 10 g.port.toNat), g.port.toNat, rfl, ?_, ?_, ?_, ?_⟩
  · rw [String.toList_ofList]
    exact hdenotes.colon_not_mem
  · rwa [String.toList_ofList]
  · exact Nat.le_of_lt_succ g.port.toNat_lt
  · rw [UInt16.ofNat_toNat]

example : ofAddr? "replica" "fe80::1:+03301" =
    some { tag := "replica", host := "fe80::1", port := 3301 } := by
  cbv

end TupleWire.Group

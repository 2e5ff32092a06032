/-
  Which greetings a client reads as they were meant.

  A line of a greeting has room for 63 bytes.  A longer text is cut short, and
  filler at the end of a text is lost among the spaces that fill the line up, so
  a line shows a text exactly when `trim_line_eq_iff` says so.  Whatever else the
  cut may leave, half a character or a group of letters without its end, is never
  read as the text that it was: both codes are inverse to their readers.
-/
import TupleWire.Packet.Greeting
import TupleWire.Proofs.Text.Base64
import TupleWire.Proofs.Text.Utf8
import Mathlib.Data.List.DropRight

set_option autoImplicit false

namespace TupleWire.Greeting

/-! ## What a line shows -/

theorem trim_eq_rdropWhile (text : Bytes) : trim text = text.rdropWhile isFiller := rfl

theorem length_trim_le (text : Bytes) : (trim text).length ≤ text.length :=
  (List.rdropWhile_prefix isFiller (l := text)).length_le

/-- Filler at the end of a text does not show. -/
theorem trim_append_filler (text : Bytes) {filler : Bytes} (h : ∀ b ∈ filler, isFiller b = true) :
    trim (text ++ filler) = trim text := by
  rw [trim, List.reverse_append, List.dropWhile_append_of_pos (by simpa using h), trim]

theorem trim_eq_self_iff (text : Bytes) :
    trim text = text ↔ ∀ b ∈ text.getLast?, isFiller b = false := by
  rw [trim_eq_rdropWhile, List.rdropWhile_eq_self_iff]
  obtain rfl | ⟨front, b, rfl⟩ := List.eq_nil_or_concat' text
  · simp
  · simp

/-- A line is its text, as far as there is room, with spaces and a line feed after it. -/
theorem line_eq_append (text : Bytes) :
    ∃ ending, line text = text.take (lineSize - 1) ++ ending ∧
      ∀ b ∈ ending, b = 0x20 ∨ b = 0x0a := by
  refine ⟨_, List.append_assoc _ _ _, fun b hb => ?_⟩
  rw [List.mem_append, List.mem_replicate, List.mem_singleton] at hb
  exact hb.imp_left And.right

theorem trim_line (text : Bytes) : trim (line text) = trim (text.take (lineSize - 1)) := by
  obtain ⟨ending, hline, hblank⟩ := line_eq_append text
  rw [hline, trim_append_filler]
  intro b hb
  obtain rfl | rfl := hblank b hb <;> rfl

/-- A line shows its text if the text fits, and does not end in filler. -/
theorem trim_line_eq_iff (text : Bytes) :
    trim (line text) = text ↔
      text.length < lineSize ∧ ∀ b ∈ text.getLast?, isFiller b = false := by
  rw [trim_line]
  constructor
  · intro h
    have hfits : text.length < lineSize := by
      have hle := length_trim_le (text.take (lineSize - 1))
      rw [h, List.length_take] at hle
      have : lineSize = 64 := rfl
      omega
    rw [List.take_of_length_le (Nat.le_sub_one_of_lt hfits)] at h
    exact ⟨hfits, (trim_eq_self_iff text).1 h⟩
  · rintro ⟨hfits, hsolid⟩
    rw [List.take_of_length_le (Nat.le_sub_one_of_lt hfits), (trim_eq_self_iff text).2 hsolid]

/-- A line is UTF-8 if its text is, and was not cut. -/
theorem isValid_line {text : Bytes} (hvalid : Utf8.isValid text = true)
    (hfits : text.length < lineSize) : Utf8.isValid (line text) = true := by
  obtain ⟨ending, hline, hblank⟩ := line_eq_append text
  rw [hline, List.take_of_length_le (Nat.le_sub_one_of_lt hfits)]
  refine Utf8.isValid_append hvalid (Utf8.isValid_of_ascii fun b hb => ?_)
  obtain rfl | rfl := hblank b hb <;> decide

/-! ## What a reader takes from a line -/

theorem readServer_eq_ok_iff {shown : Bytes} {server : String} :
    readServer shown = .ok server ↔
      Utf8.isValid shown = true ∧ Utf8.encode server = trim shown ∧
        banner <+: Utf8.encode server := by
  rw [readServer, ← Utf8.decode?_eq_some_iff, ← List.isPrefixOf_iff_prefix]
  split
  case isFalse hinvalid => simp [hinvalid]
  case isTrue hvalid =>
    cases htext : Utf8.decode? (trim shown) with
    | none => simp
    | some text =>
        simp only [← Utf8.encode_of_decode? htext, hvalid, true_and, Option.some.injEq]
        constructor
        · intro h
          split at h
          case isFalse => contradiction
          case isTrue hbanner =>
            obtain rfl := Except.ok.inj h
            exact ⟨rfl, hbanner⟩
        · rintro ⟨rfl, hbanner⟩
          exact if_pos hbanner

theorem readSalt_eq_ok_iff {shown salt : Bytes} :
    readSalt shown = .ok salt ↔
      Utf8.isValid shown = true ∧ Base64.encode salt = trim shown ∧
        Sha1.digestSize ≤ salt.length := by
  rw [readSalt, ← Base64.decode?_eq_some_iff]
  split
  case isFalse hinvalid => simp [hinvalid]
  case isTrue hvalid =>
    cases htext : Base64.decode? (trim shown) with
    | none => simp
    | some bytes =>
        simp only [hvalid, true_and, Option.some.injEq]
        constructor
        · intro h
          split at h
          case isTrue => contradiction
          case isFalse hlong =>
            obtain rfl := Except.ok.inj h
            exact ⟨rfl, Nat.le_of_not_lt hlong⟩
        · rintro ⟨rfl, hlong⟩
          exact if_neg (Nat.not_lt_of_le hlong)

theorem readServer_line_eq_ok_iff (server : String) :
    readServer (line (Utf8.encode server)) = .ok server ↔
      banner <+: Utf8.encode server ∧
        trim (line (Utf8.encode server)) = Utf8.encode server := by
  rw [readServer_eq_ok_iff]
  constructor
  · rintro ⟨-, hshown, hbanner⟩
    exact ⟨hbanner, hshown.symm⟩
  · rintro ⟨hbanner, hshown⟩
    have hfits := ((trim_line_eq_iff _).1 hshown).1
    exact ⟨isValid_line (Utf8.isValid_encode _) hfits, hshown.symm, hbanner⟩

theorem solid_of_inAlphabet {l : UInt8} (h : Base64.InAlphabet l) :
    isFiller l = false ∧ l < 0x80 := by
  obtain rfl | ⟨n, hn, rfl⟩ := h
  · decide
  · revert n; decide

theorem readSalt_line_eq_ok_iff (salt : Bytes) :
    readSalt (line (Base64.encode salt)) = .ok salt ↔
      Sha1.digestSize ≤ salt.length ∧
        trim (line (Base64.encode salt)) = Base64.encode salt := by
  rw [readSalt_eq_ok_iff]
  constructor
  · rintro ⟨-, hshown, hlong⟩
    exact ⟨hlong, hshown.symm⟩
  · rintro ⟨hlong, hshown⟩
    have hfits := ((trim_line_eq_iff _).1 hshown).1
    have hvalid : Utf8.isValid (Base64.encode salt) = true :=
      Utf8.isValid_of_ascii fun l hl =>
        (solid_of_inAlphabet (Base64.inAlphabet_of_mem_encode salt l hl)).2
    exact ⟨isValid_line hvalid hfits, hshown.symm, hlong⟩

/-! ## Which texts fit their lines -/

theorem isFiller_eq_true_iff (b : UInt8) : isFiller b = true ↔ b = 0x00 ∨ b = 0x20 ∨ b = 0x0a := by
  simp only [isFiller, Bool.or_eq_true, beq_iff_eq, or_assoc]

/-- A line shows a banner of at most 63 bytes that does not end in filler. -/
theorem trim_server_iff (server : String) :
    trim (line (Utf8.encode server)) = Utf8.encode server ↔
      server.utf8ByteSize ≤ 63 ∧
        server.toList.getLast? ∉ [some '\x00', some ' ', some '\n'] := by
  have hnul := Utf8.getLast?_encode_eq_some_iff server (c := '\x00') (by decide)
  have hspace := Utf8.getLast?_encode_eq_some_iff server (c := ' ') (by decide)
  have hfeed := Utf8.getLast?_encode_eq_some_iff server (c := '\n') (by decide)
  have hsolid : (∀ b ∈ (Utf8.encode server).getLast?, isFiller b = false) ↔
      server.toList.getLast? ∉ [some '\x00', some ' ', some '\n'] := by
    simp only [List.mem_cons, List.not_mem_nil, or_false, ← hnul, ← hspace, ← hfeed]
    cases (Utf8.encode server).getLast? with
    | none => simp
    | some b => simp [← Bool.not_eq_true, isFiller_eq_true_iff]
  rw [trim_line_eq_iff, Utf8.length_encode, hsolid]
  exact and_congr_left' Nat.lt_succ_iff

/-- A line shows the letters of at most 45 bytes: 60 of them, for the next three bytes take four
more. -/
theorem trim_salt_iff (salt : Bytes) :
    trim (line (Base64.encode salt)) = Base64.encode salt ↔ salt.length ≤ 45 := by
  rw [trim_line_eq_iff, Base64.length_encode]
  have hsize : lineSize = 64 := rfl
  constructor
  · rintro ⟨hfits, -⟩
    omega
  · intro hshort
    refine ⟨by omega, fun l hl => ?_⟩
    exact (solid_of_inAlphabet (Base64.inAlphabet_of_mem_encode salt l
      (List.mem_of_getLast? hl))).1

/-! ## Both lines -/

/-- A greeting is read line by line. -/
theorem parse_encode (g read : Greeting) :
    parse g.encode = .ok read ↔
      readServer (line (Utf8.encode g.server)) = .ok read.server ∧
        readSalt (line (Base64.encode g.salt)) = .ok read.salt := by
  have hfirst := length_line (Utf8.encode g.server)
  have hsecond := length_line (Base64.encode g.salt)
  cases read
  rw [parse, if_neg (by simp), encode, List.take_left' hfirst, List.drop_left' hfirst,
    List.take_of_length_le hsecond.le]
  cases readServer (line (Utf8.encode g.server)) with
  | error fault => simp
  | ok server =>
      cases readSalt (line (Base64.encode g.salt)) with
      | error fault => simp
      | ok salt => simp

/-- **Greetings that survive.**  A greeting that is written is read back as it was if and only if
its banner starts with the server's name, fits the first line, and does not end in filler, and its
salt has the 20 bytes that a proof takes and at most the 45 whose letters fit the second line. -/
theorem parse_encode_eq_ok_iff (g : Greeting) :
    parse g.encode = .ok g ↔
      (g.server.startsWith "Tarantool" ∧ g.server.utf8ByteSize ≤ 63 ∧
        g.server.toList.getLast? ∉ [some '\x00', some ' ', some '\n']) ∧
      20 ≤ g.salt.length ∧ g.salt.length ≤ 45 := by
  rw [parse_encode, readServer_line_eq_ok_iff, readSalt_line_eq_ok_iff, trim_server_iff,
    trim_salt_iff, banner, Utf8.encode_isPrefix_iff, String.startsWith_string_iff]
  rfl

end TupleWire.Greeting

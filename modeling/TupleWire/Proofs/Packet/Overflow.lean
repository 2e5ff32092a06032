/-
  Sizes of frames in 64 bits.

  The length of a frame is whatever the other side writes, and a reader accepts as
  much as it is set to.  It compares the two before it adds the size of the
  length, so a limit that keeps nine bytes below 2^64 keeps the sum in 64 bits,
  and no other limit does (`Frame.sizes_fit_unless_overflowing`).  A look whose sum
  does not fit breaks off, whether the machine checks sums or lets them wrap
  around; every other look gives the answer of `Frame.next` if there is room for
  the frame, and takes nothing off a buffer but a frame that is in it.
-/
import TupleWire.Config.Basic
import TupleWire.Packet.Look
import TupleWire.Proofs.Packet.Framing

set_option autoImplicit false

namespace TupleWire

/-- Whether a sum of sizes is what a look broke off on: the sum itself, or a cut beyond the end of
the buffer that it led to. -/
def Crash.IsOverflow : Crash → Prop
  | .overflow | .outOfRange _ _ => True
  | .noRoom _ => False

theorem Machine.sum_of_lt (m : Machine) {a b : Nat} (h : a + b < UInt64.size) :
    m.sum a b = .ok (a + b) := if_pos h

theorem Machine.sum_of_le (m : Machine) {a b : Nat} (h : UInt64.size ≤ a + b) :
    m.sum a b = if m.checksSums then .error .overflow else .ok ((a + b) % UInt64.size) :=
  if_neg (Nat.not_lt.2 h)

namespace Bytes

variable {n : Nat} {bs : Bytes}

theorem splitExact?_of_le (h : n ≤ bs.length) : splitExact? n bs = some (bs.take n, bs.drop n) :=
  if_pos (List.length_take_of_le h)

theorem splitExact?_of_lt (h : bs.length < n) : splitExact? n bs = none := by
  refine if_neg ?_
  rw [List.length_take]
  omega

theorem cut_of_le (h : n ≤ bs.length) : cut n bs = .ok (bs.take n, bs.drop n) := by
  rw [cut, splitExact?_of_le h]

theorem cut_of_lt (h : bs.length < n) : cut n bs = .error (.outOfRange n bs.length) := by
  rw [cut, splitExact?_of_lt h]

end Bytes

namespace Frame

variable {m : Machine} {limit size len : Nat} {buffer : Bytes}

/-! ## Looks that come to a frame -/

section Announced

variable (hlength : readLength buffer = .ok (some (size, len))) (hlimit : len ≤ limit)

include hlength hlimit

/-- A frame that is still coming in is waited for, if there is room for it. -/
theorem look_of_coming (hsum : size + len < UInt64.size) (hcoming : buffer.length < size + len) :
    look m limit buffer =
      if m.hasRoom (size + len) then .ok (next limit buffer)
      else .error (.noRoom (size + len)) := by
  have hnext : next limit buffer = .wait := by
    have hdrop : (buffer.drop size).length < len := by
      rw [List.length_drop]
      have hsize := (readLength_size hlength).2
      omega
    rw [next, hlength]
    dsimp only
    rw [if_neg (Nat.not_lt.2 hlimit), Bytes.splitExact?_of_lt hdrop]
  rw [hnext, look, hlength]
  dsimp only
  rw [if_neg (Nat.not_lt.2 hlimit), m.sum_of_lt hsum]
  dsimp only [bind, Except.bind]
  rw [if_pos hcoming, Machine.reserve]
  cases m.hasRoom (size + len) <;> rfl

/-- A frame that is there is taken off. -/
theorem look_of_there (hsum : size + len < UInt64.size) (hthere : size + len ≤ buffer.length) :
    look m limit buffer = .ok (next limit buffer) := by
  have hdrop : len ≤ (buffer.drop size).length := by
    rw [List.length_drop]
    omega
  rw [look, next, hlength]
  dsimp only
  rw [if_neg (Nat.not_lt.2 hlimit), if_neg (Nat.not_lt.2 hlimit), m.sum_of_lt hsum,
    Bytes.splitExact?_of_le hdrop]
  dsimp only [bind, Except.bind]
  rw [if_neg (Nat.not_lt.2 hthere), Bytes.cut_of_le (by omega)]
  dsimp only
  rw [Bytes.cut_of_le hdrop]
  dsimp only [pure, Except.pure]
  cases Packet.ofPayload ((buffer.drop size).take len) <;> rfl

/-- A sum that does not fit breaks a look off: at once, or, wrapped around, at the cut that goes
beyond the end of the buffer. -/
theorem look_of_overflow (hsum : UInt64.size ≤ size + len) (hlen : len < UInt64.size)
    (hbuffer : buffer.length < UInt64.size) :
    look m limit buffer =
      .error (if m.checksSums then .overflow else .outOfRange len (buffer.length - size)) := by
  have hsize := (readLength_size hlength).2
  rw [look, hlength]
  dsimp only
  rw [if_neg (Nat.not_lt.2 hlimit), m.sum_of_le hsum]
  split
  · rfl
  · -- the sum wraps around to less than the size of the length, and the buffer holds that
    have hwrapped : ¬ buffer.length < (size + len) % UInt64.size := by
      rw [Nat.mod_eq_sub_mod hsum, Nat.mod_eq_of_lt (by omega)]
      omega
    have hcut : (buffer.drop size).length < len := by
      rw [List.length_drop]
      omega
    dsimp only [bind, Except.bind]
    rw [if_neg hwrapped, Bytes.cut_of_le hsize]
    dsimp only
    rw [Bytes.cut_of_lt hcut, List.length_drop]

end Announced

/-! ## Which looks break off -/

/-- The buffer begins with the length of a frame that is accepted but does not end within 2^64
bytes.  Such a length takes all the eight bytes that a length can be written in. -/
def Overflows (limit : Nat) (buffer : Bytes) : Prop :=
  ∃ len rest, buffer = LengthForm.eight.write len ++ rest ∧ len < UInt64.size ∧ len ≤ limit ∧
    UInt64.size ≤ 9 + len

theorem overflows_iff : Overflows limit buffer ↔
    ∃ size len, readLength buffer = .ok (some (size, len)) ∧ len ≤ limit ∧
      UInt64.size ≤ size + len := by
  constructor
  · rintro ⟨len, rest, rfl, hlen, hlimit, hsum⟩
    have hlength : readLength (LengthForm.eight.write len ++ rest) = .ok (some (9, len)) :=
      readLength_write hlen rest
    exact ⟨9, len, hlength, hlimit, hsum⟩
  · rintro ⟨size, len, hlength, hlimit, hsum⟩
    obtain ⟨form, rest, hlen, rfl, rfl⟩ := write_of_readLength hlength
    cases form with
    | eight => exact ⟨len, rest, rfl, hlen, hlimit, hsum⟩
    | marker | one | two | four =>
        simp only [LengthForm.capacity, LengthForm.width, Bytes.capacity, UInt64.size] at hlen hsum
        omega

/-- A look either breaks off on a sum of sizes, finds no room, or answers as on sizes of any
length. -/
theorem look_cases (m : Machine) (limit : Nat) (hbuffer : buffer.length < UInt64.size) :
    (Overflows limit buffer ∧ ∃ crash, look m limit buffer = .error crash ∧ crash.IsOverflow) ∨
      ¬ Overflows limit buffer ∧ (look m limit buffer = .ok (next limit buffer) ∨
        ∃ size, look m limit buffer = .error (.noRoom size) ∧ buffer.length < size ∧
          size < UInt64.size ∧ m.hasRoom size = false) := by
  by_cases hover : Overflows limit buffer
  · obtain ⟨size, len, hlength, hlimit, hsum⟩ := overflows_iff.1 hover
    obtain ⟨form, rest, hlen, rfl, rfl⟩ := write_of_readLength hlength
    refine .inl ⟨hover, _, look_of_overflow hlength hlimit hsum ?_ hbuffer, ?_⟩
    · cases form <;> simp only [LengthForm.capacity, Bytes.capacity, UInt64.size] at hlen ⊢ <;>
        omega
    · split <;> trivial
  · refine .inr ⟨hover, ?_⟩
    cases hlength : readLength buffer with
    | error e =>
        left
        rw [look, next, hlength]
    | ok found =>
        cases found with
        | none =>
            left
            rw [look, next, hlength]
        | some announced =>
            obtain ⟨size, len⟩ := announced
            by_cases hlimit : limit < len
            · left
              rw [look, next, hlength]
              dsimp only
              rw [if_pos hlimit, if_pos hlimit]
            · have hle := Nat.not_lt.1 hlimit
              have hsum : size + len < UInt64.size := by
                refine Nat.not_le.1 fun hsum => ?_
                exact hover (overflows_iff.2 ⟨size, len, hlength, hle, hsum⟩)
              by_cases hcoming : buffer.length < size + len
              · cases hroom : m.hasRoom (size + len) with
                | true =>
                    left
                    rw [look_of_coming hlength hle hsum hcoming, hroom, if_pos rfl]
                | false =>
                    refine .inr ⟨size + len, ?_, hcoming, hsum, hroom⟩
                    rw [look_of_coming hlength hle hsum hcoming, hroom]
                    exact if_neg Bool.false_ne_true
              · exact .inl (look_of_there hlength hle hsum (Nat.not_lt.1 hcoming))

/-- A limit keeps every sum in 64 bits exactly if it keeps nine bytes below 2^64. -/
theorem not_overflows_iff (hlimit : limit < UInt64.size) :
    (∀ buffer, ¬ Overflows limit buffer) ↔ limit + 9 < UInt64.size := by
  constructor
  · intro hfits
    refine Nat.not_le.1 fun hover => ?_
    exact hfits _ ⟨limit, [], rfl, hlimit, Nat.le_refl limit, by omega⟩
  · rintro hfits buffer ⟨len, rest, -, -, hle, hsum⟩
    omega

/-- On every machine, with every accepted length that is a 64-bit number and on every buffer: a look
breaks off on a sum of sizes if and only if the buffer begins with the length of an accepted frame,
written in eight bytes, to which nine bytes can be added only beyond 64 bits; there is such a buffer
if and only if the accepted length is over 2^64 - 10.  Every other look finds no frame yet, refuses
what it finds, or takes just the bytes of one frame off the front of the buffer, unless there is no
room for a frame that is still coming in. -/
theorem sizes_fit_unless_overflowing (m : Machine) (limit : UInt64) (buffer : Bytes)
    (hbuffer : buffer.length < UInt64.size) :
    ((∃ crash, look m limit.toNat buffer = .error crash ∧ crash.IsOverflow) ↔
        Overflows limit.toNat buffer) ∧
      ((∀ other, ¬ Overflows limit.toNat other) ↔ limit.toNat ≤ UInt64.size - 10) ∧
      (¬ Overflows limit.toNat buffer →
        look m limit.toNat buffer = .ok .wait ∨
          (∃ e, look m limit.toNat buffer = .ok (.refused e)) ∨
          (∃ (f : Framed) (rest : Bytes),
            look m limit.toNat buffer = .ok (.removed f.outcome rest) ∧
              f.payload.length ≤ limit.toNat ∧ buffer = f.bytes ++ rest) ∨
          ∃ size, look m limit.toNat buffer = .error (.noRoom size) ∧ buffer.length < size ∧
            size < UInt64.size ∧ m.hasRoom size = false) := by
  have hlimit := limit.toNat_lt
  have hcases := look_cases m limit.toNat hbuffer
  refine ⟨⟨?_, ?_⟩, ?_, ?_⟩
  · rintro ⟨crash, hlook, hcrash⟩
    rcases hcases with ⟨hover, -⟩ | ⟨-, hanswer | ⟨size, hroom, -⟩⟩
    · exact hover
    · rw [hanswer] at hlook
      cases hlook
    · rw [hroom] at hlook
      cases hlook
      exact hcrash.elim
  · intro hover
    rcases hcases with ⟨-, hcrash⟩ | ⟨hnot, -⟩
    · exact hcrash
    · exact absurd hover hnot
  · rw [not_overflows_iff hlimit, UInt64.size]
    omega
  · intro hnot
    rcases hcases with ⟨hover, -⟩ | ⟨-, hanswer | hroom⟩
    · exact absurd hover hnot
    · rw [hanswer]
      cases hnext : next limit.toNat buffer with
      | wait => exact .inl rfl
      | refused e => exact .inr (.inl ⟨e, rfl⟩)
      | removed result rest =>
          obtain ⟨f, hle, hbytes, rfl⟩ := framed_of_removed hnext
          exact .inr (.inr (.inl ⟨f, rest, rfl, hle, hbytes⟩))
    · exact .inr (.inr (.inr hroom))

/-- The length of the longest frame that can be announced. -/
def farthest : Bytes := 0xcf :: List.replicate 8 0xff

/-- A configuration that accepts frames of any length. -/
def boundless : ClientConfig :=
  { groups := [{ tag := "default", host := "127.0.0.1", port := 3301 }]
    maxFrameSize := UInt64.ofNat (UInt64.size - 1) }

/-- The nine bytes of the longest announced length break off every look of a reader that accepts it,
which a valid configuration can ask for. -/
theorem look_of_farthest :
    boundless.validate = .ok () ∧
      readLength farthest = .ok (some (9, UInt64.size - 1)) ∧
      look ⟨true, fun _ => true⟩ boundless.maxFrameSize.toNat farthest = .error .overflow ∧
      look .ample boundless.maxFrameSize.toNat farthest =
        .error (.outOfRange (UInt64.size - 1) 0) := by
  have hlength : readLength farthest = .ok (some (9, UInt64.size - 1)) := rfl
  have hbreaks (m : Machine) : look m boundless.maxFrameSize.toNat farthest =
      .error (if m.checksSums then .overflow else .outOfRange (UInt64.size - 1) 0) :=
    look_of_overflow hlength (by decide) (by decide) (by decide) (by decide)
  exact ⟨rfl, hlength, hbreaks _, hbreaks _⟩

/-- It is the sum of sizes that they break off on. -/
theorem sizes_fit_unless_overflowing_of_farthest :
    farthest.length < UInt64.size ∧ Overflows boundless.maxFrameSize.toNat farthest ∧
      ∃ crash, look .ample boundless.maxFrameSize.toNat farthest = .error crash ∧
        crash.IsOverflow := by
  have hbuffer : farthest.length < UInt64.size := by decide
  have hover : Overflows boundless.maxFrameSize.toNat farthest :=
    ⟨UInt64.size - 1, [], by decide, by decide, by decide, by decide⟩
  obtain ⟨hcrash, -, -⟩ := sizes_fit_unless_overflowing .ample boundless.maxFrameSize farthest hbuffer
  exact ⟨hbuffer, hover, hcrash.2 hover⟩

end Frame

end TupleWire

/-
  Frames whose lengths are written in any form.

  A length is written in one of five forms, and it may be written in a longer
  form than it needs.  Reading works both ways: a frame is taken off the front of
  a buffer whatever its form is and whatever follows it, and nothing but such a
  frame is ever taken off (`next_eq_removed_iff`).  So decoding keeps to the
  borders of the frames, also behind a payload that is no packet
  (`decodeTimes_concat`), and a look that takes nothing leaves the buffer alone
  (`decode_cases`).
-/
import Mathlib.Data.List.Induction
import TupleWire.Packet.Frame

set_option autoImplicit false

namespace TupleWire

/-- A byte string is the way in which the number that it denotes is written in so many bytes. -/
theorem Bytes.ofNat_toNat (bs : Bytes) : ofNat bs.length (toNat bs) = bs := by
  induction bs using List.reverseRecOn with
  | nil => rfl
  | append_singleton bs b ih =>
      have hb : b.toNat < 256 := b.toNat_lt
      have hdiv : (toNat bs * 256 + b.toNat) / 256 = toNat bs := by omega
      have hlast : UInt8.ofNat (toNat bs * 256 + b.toNat) = b := by
        apply UInt8.toNat_inj.1
        rw [UInt8.toNat_ofNat']
        omega
      rw [toNat_append_singleton, List.length_append, List.length_singleton, ofNat, hdiv, hlast, ih]

/-! ## What is wrong with payloads -/

namespace Packet

/-- Whether an error is about what a payload holds. -/
def IsAboutPayload : ProtocolError → Prop
  | .decode _ | .header _ | .body _ => True
  | .invalidLengthPrefix _ | .frameTooLarge _ _ | .greeting _ => False

theorem isAboutPayload_of_takeValue {bs : Bytes} {e : ProtocolError}
    (h : takeValue bs = .error e) : IsAboutPayload e := by
  unfold takeValue at h
  split at h
  · cases h
    trivial
  · cases h

theorem isAboutPayload_of_readBody {bs : Bytes} {e : ProtocolError}
    (h : readBody bs = .error e) : IsAboutPayload e := by
  unfold readBody at h
  split at h
  · cases h
  · split at h
    · rename_i htake
      cases h
      exact isAboutPayload_of_takeValue htake
    · split at h
      · cases h
        trivial
      · cases h

theorem isAboutPayload_of_ofPayload {bs : Bytes} {e : ProtocolError}
    (h : ofPayload bs = .error e) : IsAboutPayload e := by
  unfold ofPayload at h
  split at h
  · rename_i htake
    cases h
    exact isAboutPayload_of_takeValue htake
  · split at h
    · cases h
      trivial
    · split at h
      · rename_i hbody
        cases h
        exact isAboutPayload_of_readBody hbody
      · cases h

end Packet

namespace Frame

/-! ## Lengths -/

/-- How a length is written: as its own marker, or behind a marker in so many bytes. -/
inductive LengthForm where
  | marker
  | one
  | two
  | four
  | eight
  deriving DecidableEq, Repr

namespace LengthForm

/-- The number of bytes behind the marker. -/
def width : LengthForm → Nat
  | marker => 0
  | one => 1
  | two => 2
  | four => 4
  | eight => 8

/-- The number of lengths that can be written in a form. -/
def capacity : LengthForm → Nat
  | marker => 0x80
  | one => Bytes.capacity 1
  | two => Bytes.capacity 2
  | four => Bytes.capacity 4
  | eight => Bytes.capacity 8

/-- A length in a form, whether a shorter one would do or not. -/
def write (form : LengthForm) (n : Nat) : Bytes :=
  match form with
  | marker => [UInt8.ofNat n]
  | one => 0xcc :: Bytes.ofNat 1 n
  | two => 0xcd :: Bytes.ofNat 2 n
  | four => 0xce :: Bytes.ofNat 4 n
  | eight => 0xcf :: Bytes.ofNat 8 n

theorem length_write (form : LengthForm) (n : Nat) : (form.write n).length = 1 + form.width := by
  cases form with
  | marker => rfl
  | one | two | four | eight =>
      simp only [write, width, List.length_cons, Bytes.length_ofNat]

end LengthForm

variable {n : Nat}

/-- A length behind a marker is read from its bytes. -/
theorem readLength_of_width {b : UInt8} {width : Nat} (hmarker : lengthMarker b = .ok (.inr width))
    (hn : n < Bytes.capacity width) (rest : Bytes) :
    readLength (b :: Bytes.ofNat width n ++ rest) = .ok (some (1 + width, n)) := by
  have hsplit := Bytes.splitExact?_append (Bytes.ofNat width n) rest
  rw [Bytes.length_ofNat] at hsplit
  rw [List.cons_append, readLength, hmarker]
  dsimp only
  rw [hsplit]
  dsimp only
  rw [Bytes.toNat_ofNat hn]

/-- A length is read in every form, whatever follows. -/
theorem readLength_write {form : LengthForm} (h : n < form.capacity) (rest : Bytes) :
    readLength (form.write n ++ rest) = .ok (some (1 + form.width, n)) := by
  cases form with
  | marker =>
      have hn : n < 0x80 := h
      have hbyte : (UInt8.ofNat n).toNat = n := by
        rw [UInt8.toNat_ofNat']
        omega
      have hmarker : lengthMarker (UInt8.ofNat n) = .ok (.inl n) := by
        rw [lengthMarker, hbyte, if_pos hn]
      simp only [LengthForm.write, List.cons_append, List.nil_append, readLength, hmarker,
        LengthForm.width]
  | one => exact readLength_of_width rfl h rest
  | two => exact readLength_of_width rfl h rest
  | four => exact readLength_of_width rfl h rest
  | eight => exact readLength_of_width rfl h rest

/-- A first byte announces a form, of which it is the marker, or is no marker. -/
theorem lengthMarker_cases {b : UInt8} {found : Nat ⊕ Nat} (h : lengthMarker b = .ok found) :
    (found = .inl b.toNat ∧ b.toNat < 0x80) ∨
      ∃ form : LengthForm, found = .inr form.width ∧ form.capacity = Bytes.capacity form.width ∧
        ∀ n, form.write n = b :: Bytes.ofNat form.width n := by
  have hbyte {k : UInt8} (hk : b.toNat = k.toNat) : b = k := UInt8.toNat_inj.1 hk
  unfold lengthMarker at h
  split at h
  · rename_i hlt
    cases h
    exact .inl ⟨rfl, hlt⟩
  · right
    split at h
    · rename_i hb
      cases h
      obtain rfl := hbyte (k := 0xcc) hb
      exact ⟨.one, rfl, rfl, fun _ => rfl⟩
    · rename_i hb
      cases h
      obtain rfl := hbyte (k := 0xcd) hb
      exact ⟨.two, rfl, rfl, fun _ => rfl⟩
    · rename_i hb
      cases h
      obtain rfl := hbyte (k := 0xce) hb
      exact ⟨.four, rfl, rfl, fun _ => rfl⟩
    · rename_i hb
      cases h
      obtain rfl := hbyte (k := 0xcf) hb
      exact ⟨.eight, rfl, rfl, fun _ => rfl⟩
    · cases h

/-- Whatever is read as a length is one, written in a form that can hold it. -/
theorem write_of_readLength {buffer : Bytes} {size : Nat}
    (h : readLength buffer = .ok (some (size, n))) :
    ∃ (form : LengthForm) (rest : Bytes), n < form.capacity ∧ size = 1 + form.width ∧
      buffer = form.write n ++ rest := by
  cases buffer with
  | nil => cases h
  | cons b rest =>
      rw [readLength] at h
      cases hmarker : lengthMarker b with
      | error e =>
          rw [hmarker] at h
          cases h
      | ok found =>
          rw [hmarker] at h
          rcases lengthMarker_cases hmarker with ⟨rfl, hlt⟩ | ⟨form, rfl, hcapacity, hwrite⟩
          · cases h
            refine ⟨.marker, rest, hlt, rfl, ?_⟩
            rw [LengthForm.write, UInt8.ofNat_toNat]
            rfl
          · dsimp only at h
            split at h
            · cases h
            · rename_i digits behind hsplit
              cases h
              obtain ⟨rfl, hlength⟩ := Bytes.splitExact?_eq_some hsplit
              refine ⟨form, behind, ?_, rfl, ?_⟩
              · rw [hcapacity, ← hlength]
                exact Bytes.toNat_lt digits
              · rw [hwrite, ← hlength, Bytes.ofNat_toNat]
                rfl

end Frame

/-! ## Frames -/

/-- A payload behind its length, in a form that can hold it. -/
structure Framed where
  form : Frame.LengthForm
  payload : Bytes
  fits : payload.length < form.capacity

namespace Framed

/-- The bytes of a frame. -/
def bytes (f : Framed) : Bytes := f.form.write f.payload.length ++ f.payload

/-- What the payload is read as: a packet, kept with it, or what is wrong with it. -/
def outcome (f : Framed) : Except ProtocolError ReceivedPacket :=
  (Packet.ofPayload f.payload).map fun packet => ⟨f.payload, packet⟩

/-- Frames one after the other. -/
def concat (frames : List Framed) : Bytes := frames.flatMap bytes

/-- What decoding frames one after the other gives: what each is read as, and those behind it. -/
def trail : List Framed → List (Except ProtocolError (Option ReceivedPacket) × Bytes)
  | [] => []
  | f :: rest => (f.outcome.map some, concat rest) :: trail rest

/-- A frame has at least one byte. -/
theorem length_bytes_pos (f : Framed) : 0 < f.bytes.length := by
  rw [bytes, List.length_append, Frame.LengthForm.length_write]
  omega

end Framed

namespace Frame

variable {limit : Nat} {buffer rest : Bytes} {result : Except ProtocolError ReceivedPacket}

/-- A frame that is not too long is taken off a buffer that begins with it, and what follows it is
left. -/
theorem next_framed {f : Framed} (hlimit : f.payload.length ≤ limit) (rest : Bytes) :
    next limit (f.bytes ++ rest) = .removed f.outcome rest := by
  have hdrop : (f.form.write f.payload.length ++ (f.payload ++ rest)).drop (1 + f.form.width) =
      f.payload ++ rest := List.drop_left' (f.form.length_write _)
  rw [Framed.bytes, List.append_assoc, next, readLength_write f.fits]
  dsimp only
  rw [if_neg (Nat.not_lt.2 hlimit), hdrop, Bytes.splitExact?_append]
  dsimp only [Framed.outcome]
  cases Packet.ofPayload f.payload with
  | error e => rfl
  | ok packet => rfl

/-- What is taken off a buffer is a frame that is not too long. -/
theorem framed_of_removed (h : next limit buffer = .removed result rest) :
    ∃ f : Framed, f.payload.length ≤ limit ∧ buffer = f.bytes ++ rest ∧ result = f.outcome := by
  rw [next] at h
  split at h
  · cases h
  · cases h
  · rename_i size len hlength
    obtain ⟨form, behind, hfits, rfl, rfl⟩ := write_of_readLength hlength
    split at h
    · cases h
    · rename_i hlimit
      rw [List.drop_left' (form.length_write len)] at h
      split at h
      · cases h
      · rename_i payload left hsplit
        obtain ⟨rfl, rfl⟩ := Bytes.splitExact?_eq_some hsplit
        refine ⟨⟨form, payload, hfits⟩, Nat.not_lt.1 hlimit, ?_⟩
        rw [Framed.bytes, Framed.outcome, List.append_assoc]
        split at h
        · rename_i hpayload
          cases h
          exact ⟨rfl, by rw [hpayload]; rfl⟩
        · rename_i hpayload
          cases h
          exact ⟨rfl, by rw [hpayload]; rfl⟩

/-- What is taken off the front of a buffer is one frame in any form, and every such frame is taken
off. -/
theorem next_eq_removed_iff : next limit buffer = .removed result rest ↔
    ∃ f : Framed, f.payload.length ≤ limit ∧ buffer = f.bytes ++ rest ∧ result = f.outcome := by
  constructor
  · exact framed_of_removed
  · rintro ⟨f, hlimit, rfl, rfl⟩
    exact next_framed hlimit rest

/-! ## Decoding again and again -/

/-- A look at a buffer as its reader sees it: a packet, nothing yet or an error, and the buffer
afterwards. -/
def decode (limit : Nat) (buffer : Bytes) :
    Except ProtocolError (Option ReceivedPacket) × Bytes :=
  match next limit buffer with
  | .wait => (.ok none, buffer)
  | .refused e => (.error e, buffer)
  | .removed result rest => (result.map some, rest)

/-- So many looks one after the other, whatever each of them gives, with the buffer after each. -/
def decodeTimes (limit : Nat) :
    Nat → Bytes → List (Except ProtocolError (Option ReceivedPacket) × Bytes)
  | 0, _ => []
  | times + 1, buffer =>
      let look := decode limit buffer
      look :: decodeTimes limit times look.2

/-- Whether a look says that there is no frame to take: not yet, or because the buffer does not
begin with a length, or because the length is over the limit. -/
def TakesNothing : Except ProtocolError (Option ReceivedPacket) → Prop
  | .ok none | .error (.invalidLengthPrefix _) | .error (.frameTooLarge _ _) => True
  | .ok (some _) | .error (.decode _) | .error (.header _) | .error (.body _)
  | .error (.greeting _) => False

/-- The errors of a look that takes nothing. -/
theorem takesNothing_of_refused {e : ProtocolError} (h : next limit buffer = .refused e) :
    TakesNothing (.error e) := by
  rw [next] at h
  split at h
  · rename_i hlength
    cases h
    cases buffer with
    | nil => cases hlength
    | cons b rest =>
        rw [readLength] at hlength
        split at hlength
        · rename_i hmarker
          cases hlength
          unfold lengthMarker at hmarker
          split at hmarker
          · cases hmarker
          · split at hmarker <;> cases hmarker
            trivial
        · cases hlength
        · split at hlength <;> cases hlength
  · cases h
  · split at h
    · cases h
      trivial
    · split at h
      · cases h
      · split at h <;> cases h

/-- A look either takes nothing, says so and leaves the buffer as it was, or it takes one frame off
it and says what its payload is read as. -/
theorem decode_cases (limit : Nat) (buffer : Bytes) :
    (TakesNothing (decode limit buffer).1 ∧ (decode limit buffer).2 = buffer) ∨
      ∃ f : Framed, f.payload.length ≤ limit ∧ buffer = f.bytes ++ (decode limit buffer).2 ∧
        (decode limit buffer).1 = f.outcome.map some := by
  unfold decode
  split
  · exact .inl ⟨trivial, rfl⟩
  · rename_i hnext
    exact .inl ⟨takesNothing_of_refused hnext, rfl⟩
  · rename_i hnext
    obtain ⟨f, hlimit, hbuffer, hresult⟩ := framed_of_removed hnext
    exact .inr ⟨f, hlimit, hbuffer, congrArg (Except.map some) hresult⟩

/-- A look that takes a frame does not say that it takes nothing. -/
theorem not_takesNothing_outcome (f : Framed) : ¬ TakesNothing (f.outcome.map some) := by
  rw [Framed.outcome]
  cases hpayload : Packet.ofPayload f.payload with
  | ok packet => exact id
  | error e =>
      have habout := Packet.isAboutPayload_of_ofPayload hpayload
      cases e with
      | decode cause | header cause | body cause => exact id
      | invalidLengthPrefix marker | frameTooLarge len bound | greeting cause => cases habout

/-- A look leaves the buffer as it was exactly if it takes nothing. -/
theorem decode_snd_eq_self_iff (limit : Nat) (buffer : Bytes) :
    (decode limit buffer).2 = buffer ↔ TakesNothing (decode limit buffer).1 := by
  rcases decode_cases limit buffer with ⟨hnothing, hsame⟩ | ⟨f, _, hbuffer, hresult⟩
  · exact iff_of_true hsame hnothing
  · refine iff_of_false ?_ (hresult ▸ not_takesNothing_outcome f)
    intro hsame
    have hlength := congrArg List.length hbuffer
    rw [hsame, List.length_append] at hlength
    have hpos := f.length_bytes_pos
    omega

/-- A frame that is not too long is decoded whatever follows it, and what follows it is left. -/
theorem decode_framed {f : Framed} (hlimit : f.payload.length ≤ limit) (rest : Bytes) :
    decode limit (f.bytes ++ rest) = (f.outcome.map some, rest) := by
  rw [decode, next_framed hlimit]

/-- Nothing can be taken off an empty buffer, however often it is tried. -/
theorem decodeTimes_nil (limit times : Nat) :
    decodeTimes limit times [] = List.replicate times (.ok none, []) := by
  induction times with
  | zero => rfl
  | succ times ih =>
      rw [decodeTimes, List.replicate_succ]
      exact congrArg (List.cons _) ih

/-- Frames that are not too long are decoded one by one, and then there is nothing left. -/
theorem decodeTimes_concat {frames : List Framed} (hlimit : ∀ f ∈ frames, f.payload.length ≤ limit)
    (more : Nat) : decodeTimes limit (frames.length + more) (Framed.concat frames) =
      Framed.trail frames ++ List.replicate more (.ok none, []) := by
  induction frames with
  | nil =>
      rw [List.length_nil, Nat.zero_add]
      exact decodeTimes_nil limit more
  | cons f rest ih =>
      have hrest := ih fun g hg => hlimit g (List.mem_cons_of_mem _ hg)
      have hlook : decode limit (Framed.concat (f :: rest)) =
          (f.outcome.map some, Framed.concat rest) := by
        rw [Framed.concat, List.flatMap_cons]
        exact decode_framed (hlimit f List.mem_cons_self) _
      have htimes : (f :: rest).length + more = rest.length + more + 1 := by
        rw [List.length_cons]
        omega
      rw [htimes, decodeTimes, hlook, Framed.trail, List.cons_append]
      exact congrArg (List.cons _) hrest

/-- Frames that are not too long, each with its length in whatever form can hold it, are decoded one
by one and in order, also behind a payload that is no packet: a look takes just one of them and
gives what its payload is read as, and when all are taken the buffer is empty and stays so.  On any
buffer a look leaves it as it was exactly if it finds no frame yet, a byte that begins no length or
a length over the limit. -/
theorem frames_keep_their_borders (limit : Nat) (frames : List Framed) (more : Nat)
    (hlimit : ∀ f ∈ frames, f.payload.length ≤ limit) :
    decodeTimes limit (frames.length + more) (Framed.concat frames) =
        Framed.trail frames ++ List.replicate more (.ok none, []) ∧
      ∀ buffer, (decode limit buffer).2 = buffer ↔ TakesNothing (decode limit buffer).1 :=
  ⟨decodeTimes_concat hlimit more, decode_snd_eq_self_iff limit⟩

/-- The payload of a ping. -/
def pingPayload : Bytes := [0x82, 0x00, 0x40, 0x01, 0x07]

/-- A ping with its length in eight bytes, an empty payload with its length as a marker, a lone nil
with its length in one byte, and the ping again with its length in two bytes. -/
def pings : List Framed :=
  [⟨.eight, pingPayload, by decide⟩, ⟨.marker, [], by decide⟩, ⟨.one, [0xc0], by decide⟩,
    ⟨.two, pingPayload, by decide⟩]

/-- Both pings are decoded, each with its bytes, and the payloads between them are errors; a byte
that begins no length stays where it is. -/
theorem frames_keep_their_borders_of_pings :
    (decodeTimes 5 5 (Framed.concat pings)).map Prod.fst =
        [.ok (some ⟨pingPayload, Header.request .ping 7, Body.empty⟩), .error (.decode .marker),
          .error (.header .notAMap),
          .ok (some ⟨pingPayload, Header.request .ping 7, Body.empty⟩), .ok none] ∧
      (∀ f ∈ pings, f.payload.length ≤ 5) ∧ (decode 5 [0xa1, 0x00]).2 = [0xa1, 0x00] := by
  have hlimit : ∀ f ∈ pings, f.payload.length ≤ 5 := by decide
  obtain ⟨hpings, hbuffer⟩ := frames_keep_their_borders 5 pings 1 hlimit
  have htimes : pings.length + 1 = 5 := rfl
  rw [htimes] at hpings
  refine ⟨?_, hlimit, (hbuffer _).2 trivial⟩
  rw [hpings]
  decide +kernel

end Frame

end TupleWire

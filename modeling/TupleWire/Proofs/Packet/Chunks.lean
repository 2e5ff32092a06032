/-
  A byte stream that arrives in chunks.

  What has been decided about the bytes at the front of a buffer is not changed
  by bytes that come in behind them: `next_append` says so of one look at the
  buffer, `drain_append` of taking every frame off it.  So the chunks in which
  a stream arrives make no difference up to the first fault.
-/
import TupleWire.Proofs.Packet.Framing

set_option autoImplicit false

namespace TupleWire

/-! ## More bytes behind a buffer -/

theorem Bytes.splitExact?_append_of_eq_some {n : Nat} {bs head rest : Bytes}
    (h : splitExact? n bs = some (head, rest)) (more : Bytes) :
    splitExact? n (bs ++ more) = some (head, rest ++ more) := by
  obtain ⟨rfl, rfl⟩ := splitExact?_eq_some h
  rw [List.append_assoc]
  exact splitExact?_append head (rest ++ more)

namespace Frame

variable {limit : Nat} {buffer : Bytes}

/-- A length prefix is read from its own bytes, and refused for its first one. -/
theorem readLength_append (h : readLength buffer ≠ .ok none) (more : Bytes) :
    readLength (buffer ++ more) = readLength buffer := by
  cases buffer with
  | nil => exact absurd rfl h
  | cons b rest =>
      rw [readLength] at h
      rw [List.cons_append, readLength, readLength]
      cases hmarker : lengthMarker b with
      | error e => rfl
      | ok size =>
          cases size with
          | inl n => rfl
          | inr width =>
              rw [hmarker] at h
              cases hsplit : Bytes.splitExact? width rest with
              | none =>
                  simp only [hsplit] at h
                  exact absurd rfl h
              | some found =>
                  obtain ⟨digits, left⟩ := found
                  simp only [hsplit, Bytes.splitExact?_append_of_eq_some hsplit more]

/-- The prefix of a frame has at most nine bytes. -/
theorem readLength_size_le {size len : Nat} (h : readLength buffer = .ok (some (size, len))) :
    size ≤ 9 := by
  obtain ⟨form, rest, -, rfl, -⟩ := write_of_readLength h
  cases form <;> decide

/-- An outcome when more bytes stand behind those that were looked at. -/
def Next.before (outcome : Next) (more : Bytes) : Next :=
  match outcome with
  | .wait => .wait
  | .refused e => .refused e
  | .removed result rest => .removed result (rest ++ more)

/-- Once a look at a buffer gives something, it gives the same with more bytes behind it. -/
theorem next_append (h : next limit buffer ≠ .wait) (more : Bytes) :
    next limit (buffer ++ more) = (next limit buffer).before more := by
  have hprefix : readLength buffer ≠ .ok none := by
    intro hnone
    rw [next, hnone] at h
    exact h rfl
  rw [next, readLength_append hprefix more]
  rw [next] at h ⊢
  cases hlength : readLength buffer with
  | error e => rfl
  | ok found =>
      cases found with
      | none => exact absurd hlength hprefix
      | some frame =>
          obtain ⟨size, len⟩ := frame
          rw [hlength] at h
          dsimp only at h ⊢
          by_cases hlimit : limit < len
          · rw [if_pos hlimit, if_pos hlimit]
            rfl
          · rw [if_neg hlimit] at h
            rw [if_neg hlimit, if_neg hlimit,
              List.drop_append_of_le_length (readLength_size hlength).2]
            cases hsplit : Bytes.splitExact? len (buffer.drop size) with
            | none =>
                simp only [hsplit] at h
                exact absurd rfl h
            | some taken =>
                obtain ⟨payload, rest⟩ := taken
                simp only [Bytes.splitExact?_append_of_eq_some hsplit more]
                cases Packet.ofPayload payload with
                | error e => rfl
                | ok packet => rfl

/-! ## Taking every frame off a buffer -/

theorem drain_of_wait (h : next limit buffer = .wait) :
    drain limit buffer = ⟨[], none, buffer⟩ := by
  rw [drain]
  split <;> simp_all

theorem drain_of_refused {e : ProtocolError} (h : next limit buffer = .refused e) :
    drain limit buffer = ⟨[], some e, buffer⟩ := by
  rw [drain]
  split <;> simp_all

theorem drain_of_removed_error {e : ProtocolError} {rest : Bytes}
    (h : next limit buffer = .removed (.error e) rest) :
    drain limit buffer = ⟨[], some e, rest⟩ := by
  rw [drain]
  split <;> simp_all

theorem drain_of_removed_ok {p : ReceivedPacket} {rest : Bytes}
    (h : next limit buffer = .removed (.ok p) rest) :
    drain limit buffer =
      { drain limit rest with packets := p :: (drain limit rest).packets } := by
  rw [drain]
  split <;> simp_all

/-- One draining after another one, which was not at fault. -/
def Drained.andThen (first second : Drained) : Drained :=
  { second with packets := first.packets ++ second.packets }

/-- Bytes behind a buffer are drained together with what the buffer left, unless it was at fault;
then they are left as well. -/
theorem drain_append (limit : Nat) (buffer more : Bytes) :
    drain limit (buffer ++ more) =
      if (drain limit buffer).fault.isSome then
        { drain limit buffer with rest := (drain limit buffer).rest ++ more }
      else (drain limit buffer).andThen (drain limit ((drain limit buffer).rest ++ more)) := by
  fun_induction drain limit buffer with
  | case1 buffer hnext => rfl
  | case2 buffer e hnext =>
      have hmore := next_append (by rw [hnext]; simp) more
      rw [hnext] at hmore
      exact drain_of_refused hmore
  | case3 buffer e rest hnext =>
      have hmore := next_append (by rw [hnext]; simp) more
      rw [hnext] at hmore
      exact drain_of_removed_error hmore
  | case4 buffer p rest hnext found ih =>
      have hmore := next_append (by rw [hnext]; simp) more
      rw [hnext] at hmore
      rw [drain_of_removed_ok hmore, ih]
      dsimp only
      split
      · rfl
      · rfl

/-- What is left when there is no fault gives nothing more. -/
theorem next_rest_drain (h : (drain limit buffer).fault = none) :
    next limit (drain limit buffer).rest = .wait := by
  fun_induction drain limit buffer with
  | case1 buffer hnext => exact hnext
  | case2 buffer e hnext => cases h
  | case3 buffer e rest hnext => cases h
  | case4 buffer p rest hnext found ih => exact ih h

/-! ## Streams in chunks -/

/-- What drainings one after the other come to: all that they give up to the first fault, with
which a stream ends. -/
def Drained.joined : Bytes → List Drained → Drained
  | buffer, [] => ⟨[], none, buffer⟩
  | _, d :: ds => if d.fault.isSome then d else d.andThen (joined d.rest ds)

/-- Two drainings give the same packets and the same fault, and unless there is one they leave the
same bytes. -/
structure Drained.Agrees (d d' : Drained) : Prop where
  packets : d.packets = d'.packets
  fault : d.fault = d'.fault
  rest : d.fault = none → d.rest = d'.rest

theorem Drained.Agrees.andThen {d d' : Drained} (h : Agrees d d') (first : Drained) :
    Agrees (first.andThen d) (first.andThen d') where
  packets := congrArg (first.packets ++ ·) h.packets
  fault := h.fault
  rest := h.rest

/-- A buffer in which nothing is left to be taken gives the same with chunks that come in one after
the other as with all of them at once. -/
theorem joined_drainChunks (hidle : next limit buffer = .wait) (chunks : List Bytes) :
    Drained.Agrees (.joined buffer (drainChunks limit buffer chunks))
      (drain limit (buffer ++ chunks.flatten)) := by
  induction chunks generalizing buffer with
  | nil =>
      rw [List.flatten_nil, List.append_nil, drain_of_wait hidle]
      exact ⟨rfl, rfl, fun _ => rfl⟩
  | cons chunk chunks ih =>
      rw [List.flatten_cons, ← List.append_assoc, drain_append, drainChunks, Drained.joined]
      cases hfault : (drain limit (buffer ++ chunk)).fault with
      | some e => exact ⟨rfl, rfl, fun hnone => absurd (hfault.symm.trans hnone) (by simp)⟩
      | none => exact (ih (next_rest_drain hfault)).andThen _

/-- However a stream is cut into chunks, empty ones among them: to take frames off it after each
chunk gives the same packets in the same order and ends with the same fault as to take them off
the whole stream, and unless there is a fault the same bytes are left.  Where the accepted length
keeps nine below 2^64, the end of an accepted frame is a 64-bit number. -/
theorem drainChunks_agrees_drain_flatten (limit : Nat) (chunks : List Bytes) :
    Drained.Agrees (.joined [] (drainChunks limit [] chunks)) (drain limit chunks.flatten) ∧
      (limit < UInt64.size - 9 → ∀ buffer size len, readLength buffer = .ok (some (size, len)) →
        len ≤ limit → size + len < UInt64.size) := by
  refine ⟨joined_drainChunks rfl chunks, ?_⟩
  intro hlimit buffer size len hlength hlen
  have hsize := readLength_size_le hlength
  omega

/-- A stream of one frame and the first byte of another one. -/
def pinged : Bytes := [0x05, 0x82, 0x00, 0x40, 0x01, 0x07, 0x05]

/-- The packet in it. -/
def ping : ReceivedPacket :=
  ⟨[0x82, 0x00, 0x40, 0x01, 0x07], Header.request .ping 7, Body.empty⟩

theorem next_pinged : next defaultLimit pinged = .removed (.ok ping) [0x05] := rfl

/-- The same stream cut behind the length, inside the payload and behind the frame, with a chunk
that is empty. -/
theorem drainChunks_agrees_of_pinged :
    let joined := Drained.joined []
      (drainChunks defaultLimit [] [[0x05], [], [0x82, 0x00], [0x40, 0x01, 0x07], [0x05]])
    joined.packets = [ping] ∧ joined.fault = none ∧ joined.rest = [0x05] ∧
      defaultLimit < UInt64.size - 9 ∧ 1 + 5 < UInt64.size := by
  intro joined
  obtain ⟨hagrees, hfits⟩ := drainChunks_agrees_drain_flatten defaultLimit
    [[0x05], [], [0x82, 0x00], [0x40, 0x01, 0x07], [0x05]]
  have hwhole : drain defaultLimit pinged = ⟨[ping], none, [0x05]⟩ := by
    rw [drain_of_removed_ok next_pinged, drain_of_wait rfl]
  have hfault : joined.fault = none := hagrees.fault.trans (congrArg Drained.fault hwhole)
  refine ⟨?_, hfault, ?_, by decide, ?_⟩
  · exact hagrees.packets.trans (congrArg Drained.packets hwhole)
  · exact (hagrees.rest hfault).trans (congrArg Drained.rest hwhole)
  · exact hfits (by decide) pinged 1 5 rfl (by decide)

end Frame

end TupleWire

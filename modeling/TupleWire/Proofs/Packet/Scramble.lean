/-
  The proof of a password.

  `scramble` masks the digest of a password.  The mask is a digest of the salt
  and of the digest of that digest, so whoever holds the latter can take the
  mask off again (`xorBytes_cancel`) and digest what is below it
  (`hash_unmasked_scramble`); the password itself is not needed.  Conversely a
  proof that stands this check is the mask on something with the digest that is
  held (`hash_unmasked_eq_iff`).
-/
import TupleWire.Packet.Greeting

set_option autoImplicit false

namespace TupleWire

/-! ## Masks -/

theorem length_xorBytes (a b : Bytes) : (xorBytes a b).length = min a.length b.length :=
  List.length_zipWith

/-- A mask that is put on twice is off again. -/
theorem xorBytes_cancel {bytes mask : Bytes} (h : bytes.length ≤ mask.length) :
    xorBytes (xorBytes bytes mask) mask = bytes := by
  induction bytes generalizing mask with
  | nil => rfl
  | cons b bytes ih =>
      cases mask with
      | nil => cases h
      | cons m mask =>
          have hrest : xorBytes (xorBytes bytes mask) mask = bytes := ih (Nat.le_of_succ_le_succ h)
          have hfirst : b ^^^ m ^^^ m = b := by
            rw [UInt8.xor_assoc, UInt8.xor_self, UInt8.xor_zero]
          exact List.cons_eq_cons.2 ⟨hfirst, hrest⟩

/-! ## Scrambles -/

/-- What a server keeps that is to check proofs of a password and not to know it: the digest of its
digest. -/
def storedHash (password : String) : Bytes := Sha1.hash (Sha1.hash (Utf8.encode password))

@[simp] theorem length_scrambleMask (salt stored : Bytes) :
    (scrambleMask salt stored).length = Sha1.digestSize := Sha1.length_hash _

theorem scramble_eq (salt : Bytes) (password : String) :
    scramble salt password =
      xorBytes (Sha1.hash (Utf8.encode password)) (scrambleMask salt (storedHash password)) := rfl

theorem length_once_le (salt : Bytes) (password : String) :
    (Sha1.hash (Utf8.encode password)).length ≤ (scrambleMask salt (storedHash password)).length :=
  Nat.le_of_eq ((Sha1.length_hash _).trans (length_scrambleMask _ _).symm)

@[simp] theorem length_scramble (salt : Bytes) (password : String) :
    (scramble salt password).length = Sha1.digestSize := by
  rw [scramble_eq, length_xorBytes, Nat.min_eq_left (length_once_le salt password),
    Sha1.length_hash]

/-- Below the mask is the digest of the password. -/
theorem unmasked_scramble (salt : Bytes) (password : String) :
    xorBytes (scramble salt password) (scrambleMask salt (storedHash password)) =
      Sha1.hash (Utf8.encode password) := by
  rw [scramble_eq, xorBytes_cancel (length_once_le salt password)]

theorem hash_unmasked_scramble (salt : Bytes) (password : String) :
    Sha1.hash (xorBytes (scramble salt password) (scrambleMask salt (storedHash password))) =
      storedHash password :=
  congrArg Sha1.hash (unmasked_scramble salt password)

/-- A proof stands the check against a digest if and only if it is the mask on something that has
this digest. -/
theorem hash_unmasked_eq_iff {salt stored proof : Bytes} (h : proof.length = Sha1.digestSize) :
    Sha1.hash (xorBytes proof (scrambleMask salt stored)) = stored ↔
      ∃ below : Bytes, below.length = Sha1.digestSize ∧ Sha1.hash below = stored ∧
        proof = xorBytes below (scrambleMask salt stored) := by
  have hmask := length_scrambleMask salt stored
  constructor
  · intro hcheck
    refine ⟨_, ?_, hcheck, (xorBytes_cancel (Nat.le_of_eq (h.trans hmask.symm))).symm⟩
    rw [length_xorBytes, h, hmask]
    exact Nat.min_self _
  · rintro ⟨below, hlength, hhash, rfl⟩
    rw [xorBytes_cancel (Nat.le_of_eq (hlength.trans hmask.symm)), hhash]

/-- Only the first bytes of a salt matter. -/
theorem scramble_congr {salt salt' : Bytes}
    (h : salt.take Sha1.digestSize = salt'.take Sha1.digestSize) (password : String) :
    scramble salt password = scramble salt' password := by
  have hmask : scrambleMask salt (storedHash password) = scrambleMask salt' (storedHash password) := by
    rw [scrambleMask, scrambleMask, h]
  rw [scramble_eq, scramble_eq, hmask]

end TupleWire

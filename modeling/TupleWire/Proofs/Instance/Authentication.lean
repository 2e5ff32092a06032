/-
  Letting users in.

  A client lays out the name of a user and the proof of a password, and the
  instance lets the user in if it would lay out the same proof: its own password
  for that user need not be the client's, but has to have the same scramble
  (`Recognizes`).  `passwords_are_proved_over_the_wire` takes the proof all the
  way: from the request of a connection through a frame to the session of the
  instance.
-/
import TupleWire.Proofs.Instance.Answering
import TupleWire.Proofs.Packet.RoundTrip
import TupleWire.Proofs.Packet.Scramble
import TupleWire.Proofs.Packet.Size

set_option autoImplicit false

namespace TupleWire

/-! ## What the client lays out -/

namespace Body

theorem entries_auth (user : String) (proof : Bytes) :
    (auth user proof).entries =
      [(Key.tuple, .array [.text "chap-sha1", .bin proof]), (Key.userName, .text user)] := rfl

theorem isText_auth (user : String) (proof : Bytes) :
    (auth user proof).toValue.isText = true := by
  have hmethod : (Value.text "chap-sha1").isText = true := Utf8.isValid_encode _
  have huser : (Value.text user).isText = true := Utf8.isValid_encode user
  rw [toValue, entries_auth]
  simp only [List.map_cons, List.map_nil, Value.isText, Value.isTextEntries, Value.isTextItems,
    Value.byte, hmethod, huser, Bool.and_self]

theorem depth_auth (user : String) (proof : Bytes) : (auth user proof).toValue.depth = 7 := rfl

/-- What a user's name and a proof take besides the two. -/
def authRoom : Nat := 32

theorem length_write_auth_le (user : String) (proof : Bytes) :
    (MsgPack.write (auth user proof).toValue).length ≤
      authRoom + proof.length + (Utf8.encode user).length := by
  have hmethod : (MsgPack.write (.text "chap-sha1")).length = 10 := rfl
  have huser := MsgPack.length_write_text_le user
  have hproof : (MsgPack.write (.bin proof)).length ≤ 5 + proof.length := by
    have hhead : (MsgPack.binHead proof.length).length ≤ 5 := by
      grind [MsgPack.binHead, Bytes.length_ofNat]
    rw [MsgPack.write, List.length_append]
    omega
  have hbody : MsgPack.write (auth user proof).toValue =
      [0x82, Key.tuple, 0x92] ++ (MsgPack.write (.text "chap-sha1") ++
        (MsgPack.write (.bin proof) ++ [])) ++ (Key.userName :: (MsgPack.write (.text user) ++ [])) :=
    rfl
  rw [hbody, authRoom]
  simp only [List.length_append, List.length_cons, List.length_nil, hmethod]
  omega

theorem text?_auth_userName (user : String) (proof : Bytes) :
    (auth user proof).text? Key.userName = some user :=
  Value.asText?_text user

end Body

theorem proof?_auth (user : String) (proof : Bytes) :
    Instance.proof? (Body.auth user proof) = some proof := rfl

/-- Every packet under which a connection asks to be let in names the user and carries the proof. -/
theorem Connection.authPacket_of_mem_request {c : Connection} {now : Nat} {user password : String}
    {o : RequestOptions} {p : Packet}
    (h : Effect.queued p ∈ (c.request now (.authorize user password) o).2.2) :
    p.header.code = RequestType.auth.code ∧ p.body = Body.auth user (scramble c.salt password) := by
  unfold request at h
  split at h
  · simp at h
  · unfold send at h
    split at h
    · simp at h
    · dsimp only at h
      split at h
      · simp at h
      · simp only [List.mem_cons, reduceCtorEq, Effect.queued.injEq, List.not_mem_nil, or_false,
          false_or] at h
        subst h
        exact ⟨rfl, rfl⟩

namespace Instance

variable {i : Instance} {s : Session} {user password : String}

/-! ## What the instance makes of it -/

/-- An instance holds a password for a user that has the same scramble as another one. -/
def Recognizes (i : Instance) (salt : Bytes) (user password : String) : Prop :=
  ∃ stored, i.settings.users.get? user = some stored ∧ scramble salt stored = scramble salt password

/-- The error of a user that is not let in. -/
def denied (user : String) : ServerError :=
  ⟨ServerCode.credentials, s!"User not found or supplied credentials are invalid: {user}"⟩

theorem recognizes_of_stored (salt : Bytes) (h : i.settings.users.get? user = some password) :
    i.Recognizes salt user password := ⟨password, h, rfl⟩

theorem recognizes_iff_of_stored {salt : Bytes} {stored : String}
    (h : i.settings.users.get? user = some stored) :
    i.Recognizes salt user password ↔ scramble salt stored = scramble salt password := by
  constructor
  · rintro ⟨found, hfound, hsame⟩
    rw [h, Option.some.injEq] at hfound
    rw [hfound]
    exact hsame
  · exact fun hsame => ⟨stored, h, hsame⟩

/-- A recognized user is the user of the session from then on. -/
theorem authenticate_of_recognizes (h : i.Recognizes s.salt user password) :
    i.authenticate s (Body.auth user (scramble s.salt password)) =
      (.ok Body.empty, { s with user }) := by
  obtain ⟨stored, hstored, hsame⟩ := h
  rw [authenticate, Body.text?_auth_userName, Option.getD_some, hstored, proof?_auth]
  exact if_pos (beq_iff_eq.2 (congrArg some hsame.symm))

theorem authenticate_of_not_recognizes (h : ¬ i.Recognizes s.salt user password) :
    i.authenticate s (Body.auth user (scramble s.salt password)) = (.error (denied user), s) := by
  rw [authenticate, Body.text?_auth_userName, Option.getD_some, proof?_auth]
  cases hstored : i.settings.users.get? user with
  | none => rfl
  | some stored =>
      have hother : scramble s.salt password ≠ scramble s.salt stored :=
        fun hsame => h ⟨stored, hstored, hsame.symm⟩
      dsimp only
      rw [if_neg (by rw [beq_iff_eq, Option.some.injEq]; exact hother)]
      rfl

/-- An instance that is not muted answers and changes nothing but the session. -/
theorem handle_of_auth {p : Packet} (hawake : i.isMuted = false)
    (hcode : p.header.code = RequestType.auth.code) :
    i.handle s p = (i.count p.header, (i.authenticate s p.body).2,
      i.answer p.header.sync (i.authenticate s p.body).1) := by
  have hkind : RequestType.ofCode? p.header.code = some .auth := by rw [hcode]; rfl
  rw [handle_of_unchecked hawake hkind rfl]
  rfl

/-! ## From the client to the session -/

/-- What becomes of the packet that proves a password to an instance, in a session with a salt. -/
structure Admission (i : Instance) (s : Session) (user password : String) (p : Packet) : Prop where
  /-- it is what a connection sends that was greeted with the salt -/
  sent : ∀ (c : Connection) (now : Nat) (o : RequestOptions) (q : Packet), c.salt = s.salt →
    Effect.queued q ∈ (c.request now (.authorize user password) o).2.2 →
      q.header.code = RequestType.auth.code ∧ q.body = p.body
  /-- only the name can make it long -/
  small : p.payload.length ≤
    Header.room + Body.authRoom + Sha1.digestSize + (Utf8.encode user).length
  /-- unless it is too long, it is written and read back as it was, whatever follows it -/
  arrives : p.payload.length ≤ Packet.payloadLimit → ∃ frame, p.frame = .ok frame ∧
    ∀ (limit : Nat) (rest : Bytes), p.payload.length ≤ limit →
      Frame.next limit (frame ++ rest) = .removed (.ok ⟨p.payload, p⟩) rest
  /-- an instance that is awake answers it, and changes nothing but the session -/
  handled : i.isMuted = false → i.handle s p =
    (i.count p.header, (i.authenticate s p.body).2, i.answer p.header.sync (i.authenticate s p.body).1)
  /-- the password that the instance holds is accepted -/
  own : i.settings.users.get? user = some password →
    i.authenticate s p.body = (.ok Body.empty, { s with user })
  /-- another one is accepted only if it has the same scramble -/
  other : ∀ stored, i.settings.users.get? user = some stored →
    ((∃ body, (i.authenticate s p.body).1 = .ok body) ↔
      scramble s.salt stored = scramble s.salt password)
  /-- who is accepted is listed, and is the user of the session from then on -/
  accepted : ∀ body, (i.authenticate s p.body).1 = .ok body →
    i.Recognizes s.salt user password ∧ i.authenticate s p.body = (.ok Body.empty, { s with user })
  /-- a refusal has the code 47 and leaves the session as it was -/
  rejected : ∀ e, (i.authenticate s p.body).1 = .error e →
    e.code = 47 ∧ i.authenticate s p.body = (.error e, s)
  /-- it is enough to hold the digest of the digest of the password: below the mask is what it is the
  digest of -/
  verified : Sha1.hash (xorBytes (scramble s.salt password)
      (Sha1.hash (s.salt.take 20 ++ Sha1.hash (Sha1.hash (Utf8.encode password))))) =
    Sha1.hash (Sha1.hash (Utf8.encode password))
  /-- the salt counts with twenty bytes -/
  saltPrefix : ∀ salt : Bytes, salt.take 20 = s.salt.take 20 →
    scramble salt password = scramble s.salt password

/-- A user who proves a password is let in if and only if the instance holds a password for that user
with the same scramble, and the session is theirs then. -/
theorem passwords_are_proved_over_the_wire (i : Instance) (s : Session) (user password : String)
    (sync : UInt64) (schemaVersion streamId : Option UInt64) :
    i.Admission s user password ⟨⟨RequestType.auth.code, sync, schemaVersion, streamId⟩,
      (Request.authorize user password).body s.salt⟩ := by
  have hpassed (h : i.Recognizes s.salt user password) := authenticate_of_recognizes h
  have hdenied (h : ¬ i.Recognizes s.salt user password) := authenticate_of_not_recognizes h
  have haccepted (body : Body)
      (h : (i.authenticate s (Body.auth user (scramble s.salt password))).1 = .ok body) :
      i.Recognizes s.salt user password := by
    by_contra hunknown
    rw [hdenied hunknown] at h
    cases h
  refine
    { sent := ?_
      small := ?_
      arrives := ?_
      handled := fun hawake => handle_of_auth hawake rfl
      own := fun hstored => hpassed (recognizes_of_stored s.salt hstored)
      other := ?_
      accepted := fun body hbody => ⟨haccepted body hbody, hpassed (haccepted body hbody)⟩
      rejected := ?_
      verified := hash_unmasked_scramble s.salt password
      saltPrefix := fun salt hsalt => scramble_congr hsalt password }
  · intro c now o q hsalt hq
    rw [Request.body, ← hsalt]
    exact Connection.authPacket_of_mem_request hq
  · have hheader := Header.length_write_le ⟨RequestType.auth.code, sync, schemaVersion, streamId⟩
    have hbody := Body.length_write_auth_le user (scramble s.salt password)
    rw [length_scramble] at hbody
    rw [Packet.payload, List.length_append, Request.body]
    dsimp only
    omega
  · intro hfits
    have hframe := Packet.frame_eq_ok_iff.2 ⟨hfits, rfl⟩
    have hdepth : (Body.auth user (scramble s.salt password)).toValue.depth ≤ MsgPack.depthBudget := by
      rw [Body.depth_auth]
      decide
    exact ⟨_, hframe, fun limit rest hlimit =>
      Packet.next_frame_of_isText hframe (Body.isText_auth _ _) hdepth hlimit rest⟩
  · intro stored hstored
    rw [← recognizes_iff_of_stored hstored]
    constructor
    · rintro ⟨body, hbody⟩
      exact haccepted body hbody
    · intro hknown
      exact ⟨_, congrArg Prod.fst (hpassed hknown)⟩
  · intro e he
    have hunknown : ¬ i.Recognizes s.salt user password := by
      intro hknown
      rw [Request.body, hpassed hknown] at he
      cases he
    rw [Request.body, hdenied hunknown] at he ⊢
    cases he
    exact ⟨rfl, rfl⟩

end Instance

end TupleWire

/-
  How an instance answers packets.

  Whatever the states of an instance and a session, a packet is handled in one
  of few ways, which `Handled` lists with all that they change; `handle_handled`
  says that there are no others.  From it follows what holds of every packet
  (`Turn.Settled`): it is answered once at the most, and just once if an answer
  is due (`answerTo`), and it changes the spaces or the user of the session only
  in the ways that are meant to.  `handleAll` takes packet after packet, and
  what a whole run does is what its turns do.
-/
import TupleWire.Proofs.Instance.Delivery

set_option autoImplicit false

namespace TupleWire

/-- Whether a request is one that changes the rows of a space. -/
def RequestType.stores : RequestType → Bool
  | .insert | .replace | .update | .upsert | .delete => true
  | _ => false

/-- Whether a request is one that is never answered: the two subscription requests, and the
notifications, which are no requests. -/
def RequestType.isUnanswered : RequestType → Bool
  | .watch | .unwatch | .event => true
  | _ => false

/-- Whether a reply comes at once. -/
def Reply.isPrompt : Reply → Bool
  | .data _ | .error _ _ => true
  | .delayed _ _ | .silent => false

namespace Instance

/-! ## What is due -/

/-- What a reply comes to at once; none if it comes later or never. -/
def promptly? (reply : Reply) : Option Answer :=
  if reply.isPrompt then resolve? reply else none

/-- What a request comes to at once, if it is carried out. -/
def outcome? (i : Instance) (s : Session) (body : Body) : RequestType → Option Answer
  | .id => some i.identify
  | .auth => some (i.authenticate s body).1
  | .ping | .begin | .commit | .rollback => some (.ok Body.empty)
  | .call => promptly? (i.call body)
  | .eval => promptly? (i.eval body)
  | .select => some (i.select body)
  | .insert => some (i.insert body).1
  | .replace => some (i.replace body).1
  | .delete => some (i.delete body).1
  | .update => some (i.update body).1
  | .upsert => some (i.upsert body).1
  | .watchOnce => some (.ok (i.watchOnce body))
  | .watch | .unwatch | .event => none

/-- The answer that is due to a packet at once, whether or not it fits a frame. -/
def answerTo (i : Instance) (s : Session) (p : Packet) : Option Answer :=
  match RequestType.ofCode? p.header.code with
  | none => some (.error
      ⟨ServerCode.unknownRequestType, s!"Unknown request type {p.header.code}"⟩)
  | some kind =>
      if i.isOutdated kind p.header then
        some (.error (wrongVersion i.schemaVersion (p.header.schemaVersion.getD 0)))
      else i.outcome? s p.body kind

/-- The reply of a stored procedure or an expression to a packet, if the packet asks for one. -/
def replyTo? (i : Instance) (p : Packet) : Option Reply :=
  match RequestType.ofCode? p.header.code with
  | some .call => some (i.call p.body)
  | some .eval => some (i.eval p.body)
  | _ => none

variable {i : Instance} {s : Session} {p : Packet}

theorem isSome_promptly? (reply : Reply) : (promptly? reply).isSome = reply.isPrompt := by
  cases reply <;> rfl

/-- An answer is due at once to every packet that is answered at all and to which nobody has
scripted another reply. -/
theorem isSome_answerTo
    (hkind : ∀ kind, RequestType.ofCode? p.header.code = some kind → kind.isUnanswered = false)
    (hprompt : ∀ reply, i.replyTo? p = some reply → reply.isPrompt = true) :
    ∃ a, i.answerTo s p = some a := by
  rw [← Option.isSome_iff_exists, answerTo]
  cases hcode : RequestType.ofCode? p.header.code with
  | none => rfl
  | some kind =>
      dsimp only
      split
      · rfl
      · rw [replyTo?, hcode] at hprompt
        cases kind with
        | watch | unwatch | event => cases hkind _ hcode
        | call => exact (isSome_promptly? _).trans (hprompt _ rfl)
        | eval => exact (isSome_promptly? _).trans (hprompt _ rfl)
        | _ => rfl

/-! ## What may change -/

/-- A packet that may change the spaces: a request to do so, to an instance that is not muted, that
rests on no version of the schema or on the one of the instance. -/
structure MayStore (i : Instance) (p : Packet) : Prop where
  awake : i.isMuted = false
  stores : ∃ kind, RequestType.ofCode? p.header.code = some kind ∧ kind.stores = true
  current : p.header.schemaVersion = none ∨ p.header.schemaVersion = some i.schemaVersion

/-- A packet that lets a user in: it names the user and proves the user's password. -/
structure LetsIn (i : Instance) (s : Session) (p : Packet) (user : String) : Prop where
  awake : i.isMuted = false
  authenticates : RequestType.ofCode? p.header.code = some .auth
  named : (p.body.text? Key.userName).getD "" = user
  proved : ∃ password, i.settings.users.get? user = some password ∧
    proof? p.body = some (scramble s.salt password)

/-- A packet that a script answers later or never. -/
def IsLate (i : Instance) (p : Packet) : Prop :=
  ∃ reply, i.replyTo? p = some reply ∧ reply.isPrompt = false

/-- What an instance makes of a packet. -/
inductive Handled (i : Instance) (s : Session) (p : Packet) :
    Instance × Session × List Outgoing → Prop
  /-- a muted instance only counts -/
  | muted (muted : i.isMuted = true) : Handled i s p (i.count p.header, s, [])
  /-- the answer that is due is given at once -/
  | answered {a : Answer} {spaces : SortedMap UInt32 StoredSpace} {user : String}
      (awake : i.isMuted = false) (due : i.answerTo s p = some a)
      (stored : spaces ≠ i.spaces → i.MayStore p) (admitted : user ≠ s.user → i.LetsIn s p user) :
      Handled i s p ({ i.count p.header with spaces }, { s with user },
        i.answer p.header.sync a)
  /-- the packet is a notification, or a script never answers it -/
  | ignored (awake : i.isMuted = false)
      (quiet : RequestType.ofCode? p.header.code = some .event ∨ i.IsLate p) :
      Handled i s p (i.count p.header, s, [])
  /-- a script answers the packet later -/
  | postponed {a : Answer} {delay : Duration} (awake : i.isMuted = false) (late : i.IsLate p) :
      Handled i s p (i.count p.header, s, post (answerPacket i.schemaVersion p.header.sync a) delay)
  /-- the session begins to watch a key, or watches it already -/
  | watched (awake : i.isMuted = false)
      (watches : RequestType.ofCode? p.header.code = some .watch) :
      Handled i s p (i.count p.header, i.watch s p.body)
  /-- the session stops watching a key -/
  | unwatched (awake : i.isMuted = false)
      (unwatches : RequestType.ofCode? p.header.code = some .unwatch) :
      Handled i s p (i.count p.header, unwatch s p.body, [])

/-- A request that stores and is not outdated rests on no version of the schema, or on the one of the
instance. -/
theorem current_of_not_isOutdated {kind : RequestType} {h : Header} (hstores : kind.stores = true)
    (hcurrent : i.isOutdated kind h = false) :
    h.schemaVersion = none ∨ h.schemaVersion = some i.schemaVersion := by
  have hchecked : isSchemaChecked kind = true := by
    cases kind with
    | insert | replace | update | upsert | delete => rfl
    | _ => cases hstores
  rw [isOutdated, hchecked, Bool.true_and] at hcurrent
  cases hversion : h.schemaVersion with
  | none => exact .inl rfl
  | some version =>
      rw [hversion, Option.any_some, bne_eq_false_iff_eq] at hcurrent
      exact .inr (congrArg some hcurrent)

/-- Authentication leaves the session alone, or the user has proved a password. -/
theorem authenticate_cases (i : Instance) (s : Session) (body : Body) :
    (∃ a, i.authenticate s body = (a, s)) ∨
      i.authenticate s body =
        (.ok Body.empty, { s with user := (body.text? Key.userName).getD "" }) ∧
      ∃ password, i.settings.users.get? ((body.text? Key.userName).getD "") = some password ∧
        proof? body = some (scramble s.salt password) := by
  rw [authenticate]
  cases hpassword : i.settings.users.get? ((body.text? Key.userName).getD "") with
  | none => exact .inl ⟨_, rfl⟩
  | some password =>
      dsimp only
      split
      · rename_i hproof
        exact .inr ⟨rfl, password, rfl, eq_of_beq hproof⟩
      · exact .inl ⟨_, rfl⟩

section CarryingOut

variable (hawake : i.isMuted = false)

include hawake

/-- An answer that leaves everything as it is. -/
theorem handled_of_answer {a : Answer} (hdue : i.answerTo s p = some a) :
    Handled i s p (i.count p.header, s, i.answer p.header.sync a) :=
  .answered hawake hdue (fun h => absurd rfl h) (fun h => absurd rfl h)

/-- A stored procedure or an expression answers at once, later or never. -/
theorem handled_of_reply {reply : Reply} (hreply : i.replyTo? p = some reply)
    (hdue : i.answerTo s p = promptly? reply) :
    Handled i s p (i.count p.header, s, i.answerReply p.header.sync reply) := by
  cases reply with
  | data rows | error code message => exact handled_of_answer hawake hdue
  | silent => exact .ignored hawake (.inr ⟨_, hreply, rfl⟩)
  | delayed delay reply =>
      have hlate : i.IsLate p := ⟨_, hreply, rfl⟩
      rw [answerReply]
      cases resolve? reply with
      | none => exact .ignored hawake (.inr hlate)
      | some a => exact .postponed hawake hlate

/-- A change of a space is of no other part of the instance. -/
theorem handled_of_change {body : Body} {f : StoredSpace → Answer × StoredSpace}
    (hdue : i.answerTo s p = some (i.change body f).1) (hstores : i.MayStore p) :
    let outcome := (i.count p.header).change body f
    Handled i s p (outcome.2, s, outcome.2.answer p.header.sync outcome.1) := by
  have hspace : (i.count p.header).spaceOf body = i.spaceOf body := rfl
  unfold change at hdue ⊢
  rw [hspace]
  cases hfound : i.spaceOf body with
  | error e =>
      rw [hfound] at hdue
      exact handled_of_answer hawake hdue
  | ok found =>
      rw [hfound] at hdue
      exact .answered hawake hdue (fun _ => hstores) (fun h => absurd rfl h)

/-- Only a user that proves a password changes the session. -/
theorem handled_of_auth (hkind : RequestType.ofCode? p.header.code = some .auth)
    (hdue : i.answerTo s p = some (i.authenticate s p.body).1) :
    Handled i s p (i.count p.header, ((i.count p.header).authenticate s p.body).2,
      i.answer p.header.sync ((i.count p.header).authenticate s p.body).1) := by
  have hsame : (i.count p.header).authenticate s p.body = i.authenticate s p.body := rfl
  rw [hsame]
  rcases i.authenticate_cases s p.body with ⟨a, hdenied⟩ | ⟨hadmitted, hproved⟩
  · rw [hdenied] at hdue ⊢
    exact handled_of_answer hawake hdue
  · rw [hadmitted] at hdue ⊢
    exact .answered hawake hdue (fun h => absurd rfl h) fun _ => ⟨hawake, hkind, rfl, hproved⟩

/-- What carrying a request out comes to, for each type of request. -/
theorem carryOut_handled {kind : RequestType}
    (hkind : RequestType.ofCode? p.header.code = some kind)
    (hcurrent : i.isOutdated kind p.header = false) :
    Handled i s p ((i.count p.header).carryOut s kind p.header.sync p.body) := by
  have hdue : i.answerTo s p = i.outcome? s p.body kind := by
    rw [answerTo, hkind]
    dsimp only
    rw [hcurrent, if_neg Bool.false_ne_true]
  have hmay (hstores : kind.stores = true) : i.MayStore p :=
    ⟨hawake, ⟨kind, hkind, hstores⟩, current_of_not_isOutdated hstores hcurrent⟩
  cases kind with
  | id | ping | begin | commit | rollback | select | watchOnce =>
      exact handled_of_answer hawake hdue
  | auth => exact handled_of_auth hawake hkind hdue
  | call =>
      have hreply : i.replyTo? p = some (i.call p.body) := by rw [replyTo?, hkind]
      exact handled_of_reply hawake hreply hdue
  | eval =>
      have hreply : i.replyTo? p = some (i.eval p.body) := by rw [replyTo?, hkind]
      exact handled_of_reply hawake hreply hdue
  | insert | replace | delete | update | upsert => exact handled_of_change hawake hdue (hmay rfl)
  | watch => exact .watched hawake hkind
  | unwatch => exact .unwatched hawake hkind
  | event => exact .ignored hawake (.inl hkind)

end CarryingOut

/-- A packet is handled in one of the ways listed. -/
theorem handle_handled (i : Instance) (s : Session) (p : Packet) :
    Handled i s p (i.handle s p) := by
  have hmuted : (i.count p.header).isMuted = i.isMuted := rfl
  rw [handle, hmuted]
  cases hawake : i.isMuted with
  | true => exact .muted hawake
  | false =>
      rw [if_neg Bool.false_ne_true]
      cases hkind : RequestType.ofCode? p.header.code with
      | none =>
          have hdue : i.answerTo s p = some (.error
              ⟨ServerCode.unknownRequestType, s!"Unknown request type {p.header.code}"⟩) := by
            rw [answerTo, hkind]
          exact handled_of_answer hawake hdue
      | some kind =>
          have hsame : (i.count p.header).isOutdated kind p.header =
              i.isOutdated kind p.header := rfl
          dsimp only
          rw [hsame]
          cases hcurrent : i.isOutdated kind p.header with
          | true =>
              have hdue : i.answerTo s p = some (.error
                  (wrongVersion i.schemaVersion (p.header.schemaVersion.getD 0))) := by
                rw [answerTo, hkind]
                dsimp only
                rw [hcurrent, if_pos rfl]
              exact handled_of_answer hawake hdue
          | false =>
              rw [if_neg Bool.false_ne_true]
              exact carryOut_handled hawake hkind hcurrent

/-! ## What is sent -/

/-- The notification of a key. -/
def notification (key : String) (value : Option Value) : Packet :=
  let body := Body.empty.insert Key.eventKey (.text key)
  ⟨Header.response RequestType.event.code 0 0, match value with
    | some v => body.insert Key.eventData v
    | none => body⟩

theorem notify_eq (key : String) (value : Option Value) :
    notify key value = post (notification key value) .zero := rfl

theorem isEvent_notification (key : String) (value : Option Value) :
    (notification key value).header.isEvent = true := rfl

theorem eventKey_notification (key : String) (value : Option Value) :
    (notification key value).body.text? Key.eventKey = some key := by
  have htext := Value.asText?_text key
  cases value with
  | none => exact htext
  | some v => exact htext

theorem eventData_notification (key : String) (value : Option Value) :
    (notification key value).body.get? Key.eventData = value := by
  cases value with
  | none => rfl
  | some v => rfl

/-- A session that is asked to watch a key stays as it is if it watches the key already; otherwise
the value of the key is sent to it. -/
theorem watch_cases (i : Instance) (s : Session) (body : Body) :
    (i.watch s body = (s, []) ∧
      ∀ key, body.text? Key.eventKey = some key → s.watched.contains key = true) ∨
    ∃ key, body.text? Key.eventKey = some key ∧ s.watched.get? key = none ∧
      i.watch s body =
        ({ s with watched :=
            s.watched.insert key (((i.values.get? key).map Prod.snd).getD 0) },
          notify key ((i.values.get? key).map Prod.fst)) := by
  rw [watch]
  cases hkey : body.text? Key.eventKey with
  | none => exact .inl ⟨rfl, fun key h => by cases h⟩
  | some key =>
      dsimp only
      split
      · rename_i hcontains
        refine .inl ⟨rfl, fun other hother => ?_⟩
        cases hother
        exact hcontains
      · rename_i habsent
        exact .inr ⟨key, rfl, Option.not_isSome_iff_eq_none.1 habsent, rfl⟩

theorem length_post_le (p : Packet) (delay : Duration) : (post p delay).length ≤ 1 := by
  rw [post]
  split
  · exact Nat.le_refl 1
  · exact Nat.zero_le 1

theorem eq_of_mem_post {packet : Packet} {delay : Duration} {o : Outgoing}
    (h : o ∈ post packet delay) : o = ⟨packet, delay⟩ := by
  rw [post] at h
  split at h
  · exact List.mem_singleton.1 h
  · cases h

variable {i : Instance} {s : Session} {p : Packet} {outcome : Instance × Session × List Outgoing}

/-- What a packet causes to be sent is an answer under its number, or the notification of a key that
the session begins to watch. -/
theorem Handled.sent (h : Handled i s p outcome) :
    outcome.2.2 = [] ∨
      (∃ a delay, outcome.2.2 = post (answerPacket i.schemaVersion p.header.sync a) delay) ∨
      ∃ key value, RequestType.ofCode? p.header.code = some .watch ∧
        p.body.text? Key.eventKey = some key ∧ outcome.2.2 = post (notification key value) .zero := by
  cases h with
  | muted | ignored | unwatched => exact .inl rfl
  | answered | postponed => exact .inr (.inl ⟨_, _, rfl⟩)
  | watched _ hwatches =>
      rcases i.watch_cases s p.body with ⟨hsame, -⟩ | ⟨key, hkey, -, hbegun⟩
      · left
        rw [hsame]
      · right
        right
        rw [hbegun]
        exact ⟨key, _, hwatches, hkey, rfl⟩

/-! ## One packet -/

/-- A packet, and the states of the instance and the session that it comes to. -/
structure Turn where
  inst : Instance
  session : Session
  packet : Packet

namespace Turn

/-- The instance after the packet. -/
def instAfter (t : Turn) : Instance := (t.inst.handle t.session t.packet).1

/-- The session after the packet. -/
def sessionAfter (t : Turn) : Session := (t.inst.handle t.session t.packet).2.1

/-- What the packet causes to be sent. -/
def sent (t : Turn) : List Outgoing := (t.inst.handle t.session t.packet).2.2

/-- The packet that answers the packet of a turn. -/
def reply (t : Turn) (a : Answer) : Packet :=
  answerPacket t.inst.schemaVersion t.packet.header.sync a

theorem handled (t : Turn) :
    Handled t.inst t.session t.packet (t.instAfter, t.sessionAfter, t.sent) :=
  t.inst.handle_handled t.session t.packet

/-- What holds of every turn. -/
structure Settled (t : Turn) : Prop where
  /-- one packet is sent at the most, also in time to come -/
  once : t.sent.length ≤ 1
  /-- what is sent is an answer under the number of the packet, or a notification -/
  numbered : ∀ o ∈ t.sent, o.packet.header.isEvent = true ∨
    o.packet.header.isEvent = false ∧ o.packet.header.sync = t.packet.header.sync
  /-- an answer is due to a packet that is answered at all, unless a script says otherwise, and if
  it fits a frame it is just what is sent: at once, under the number of the packet and with the
  version of the schema -/
  answered : t.inst.isMuted = false →
    (∀ kind, RequestType.ofCode? t.packet.header.code = some kind → kind.isUnanswered = false) →
    (∀ reply, t.inst.replyTo? t.packet = some reply → reply.isPrompt = true) →
    ∃ a, t.inst.answerTo t.session t.packet = some a ∧
      ((t.reply a).frame.isOk = true → t.sent = [⟨t.reply a, .zero⟩]) ∧
      (t.reply a).header.sync = t.packet.header.sync ∧
      (t.reply a).header.schemaVersion = some t.instAfter.schemaVersion
  /-- a muted instance sends nothing -/
  muted : t.inst.isMuted = true → t.sent = []
  /-- the spaces change only by a request to do so that is not outdated -/
  stored : t.instAfter.spaces ≠ t.inst.spaces → t.inst.MayStore t.packet
  /-- the user of the session changes only to one that is let in -/
  admitted : t.sessionAfter.user ≠ t.session.user →
    t.inst.LetsIn t.session t.packet t.sessionAfter.user
  /-- being asked to watch a key that is watched changes nothing, and nothing is sent -/
  acknowledged : ∀ key, RequestType.ofCode? t.packet.header.code = some .watch →
    t.packet.body.text? Key.eventKey = some key → t.session.watched.contains key = true →
    t.inst.handle t.session t.packet = (t.inst.count t.packet.header, t.session, [])

end Turn

theorem Handled.length_sent_le (h : Handled i s p outcome) : outcome.2.2.length ≤ 1 := by
  rcases h.sent with hnone | ⟨a, delay, hanswer⟩ | ⟨key, value, -, -, hnotified⟩
  · rw [hnone]
    exact Nat.zero_le 1
  · rw [hanswer]
    exact length_post_le _ _
  · rw [hnotified]
    exact length_post_le _ _

theorem Handled.numbered (h : Handled i s p outcome) {o : Outgoing} (ho : o ∈ outcome.2.2) :
    o.packet.header.isEvent = true ∨
      o.packet.header.isEvent = false ∧ o.packet.header.sync = p.header.sync := by
  rcases h.sent with hnone | ⟨a, delay, hanswer⟩ | ⟨key, value, -, -, hnotified⟩
  · rw [hnone] at ho
    cases ho
  · rw [hanswer] at ho
    rw [eq_of_mem_post ho]
    exact .inr ⟨isEvent_answerPacket _ _ _, answerPacket_sync _ _ _⟩
  · rw [hnotified] at ho
    rw [eq_of_mem_post ho]
    exact .inl (isEvent_notification key value)

theorem Handled.schemaVersion (h : Handled i s p outcome) :
    outcome.1.schemaVersion = i.schemaVersion := by
  cases h <;> rfl

/-- No packet sets a watched key, or mutes the instance. -/
theorem Handled.shared (h : Handled i s p outcome) :
    outcome.1.values = i.values ∧ outcome.1.valueVersion = i.valueVersion ∧
      outcome.1.isMuted = i.isMuted := by
  cases h <;> exact ⟨rfl, rfl, rfl⟩

theorem Handled.stored (h : Handled i s p outcome) (hchanged : outcome.1.spaces ≠ i.spaces) :
    i.MayStore p := by
  cases h with
  | answered _ _ hstored _ => exact hstored hchanged
  | _ => exact absurd rfl hchanged

/-- A packet that is about no watched key leaves alone what is watched, and causes at most an answer
to be sent. -/
theorem Handled.of_other (h : Handled i s p outcome)
    (hwatch : RequestType.ofCode? p.header.code ≠ some .watch)
    (hunwatch : RequestType.ofCode? p.header.code ≠ some .unwatch) :
    outcome.2.1.watched = s.watched ∧ (outcome.2.2 = [] ∨
      ∃ a delay, outcome.2.2 = post (answerPacket i.schemaVersion p.header.sync a) delay) := by
  cases h with
  | muted | ignored => exact ⟨rfl, .inl rfl⟩
  | answered | postponed => exact ⟨rfl, .inr ⟨_, _, rfl⟩⟩
  | watched _ hwatches => exact absurd hwatches hwatch
  | unwatched _ hunwatches => exact absurd hunwatches hunwatch

theorem user_watch (i : Instance) (s : Session) (body : Body) :
    (i.watch s body).1.user = s.user := by
  rcases i.watch_cases s body with ⟨hsame, -⟩ | ⟨key, -, -, hbegun⟩
  · rw [hsame]
  · rw [hbegun]

theorem user_unwatch (s : Session) (body : Body) : (unwatch s body).user = s.user := by
  rw [unwatch]
  split
  · rfl
  · rfl

theorem Handled.admitted (h : Handled i s p outcome) (hchanged : outcome.2.1.user ≠ s.user) :
    i.LetsIn s p outcome.2.1.user := by
  cases h with
  | answered _ _ _ hadmitted => exact hadmitted hchanged
  | watched => exact absurd (user_watch i s p.body) hchanged
  | unwatched => exact absurd (user_unwatch s p.body) hchanged
  | muted | ignored | postponed => exact absurd rfl hchanged

/-- A muted instance counts a packet and does nothing else. -/
theorem handle_of_isMuted (hmuted : i.isMuted = true) :
    i.handle s p = (i.count p.header, s, []) := by
  have hcount : (i.count p.header).isMuted = true := hmuted
  rw [handle, hcount, if_pos rfl]

/-- A request that no version of the schema matters to is carried out. -/
theorem handle_of_unchecked {kind : RequestType} (hawake : i.isMuted = false)
    (hkind : RequestType.ofCode? p.header.code = some kind)
    (hunchecked : isSchemaChecked kind = false) :
    i.handle s p = (i.count p.header).carryOut s kind p.header.sync p.body := by
  have hmuted : (i.count p.header).isMuted = false := hawake
  have hcurrent : (i.count p.header).isOutdated kind p.header = false := by
    rw [isOutdated, hunchecked, Bool.false_and]
  rw [handle, hmuted, if_neg Bool.false_ne_true, hkind]
  dsimp only
  rw [hcurrent, if_neg Bool.false_ne_true]

theorem handle_watch (hawake : i.isMuted = false)
    (hkind : RequestType.ofCode? p.header.code = some .watch) :
    i.handle s p = (i.count p.header, i.watch s p.body) :=
  handle_of_unchecked hawake hkind rfl

theorem handle_unwatch (hawake : i.isMuted = false)
    (hkind : RequestType.ofCode? p.header.code = some .unwatch) :
    i.handle s p = (i.count p.header, unwatch s p.body, []) :=
  handle_of_unchecked hawake hkind rfl

/-- An answer that is due is what is sent. -/
theorem Handled.sent_of_due (h : Handled i s p outcome) (hawake : i.isMuted = false)
    (hkind : ∀ kind, RequestType.ofCode? p.header.code = some kind → kind.isUnanswered = false)
    (hprompt : ∀ reply, i.replyTo? p = some reply → reply.isPrompt = true) {a : Answer}
    (hdue : i.answerTo s p = some a) : outcome.2.2 = i.answer p.header.sync a := by
  have hnotLate : ¬ i.IsLate p := by
    rintro ⟨reply, hreply, hlate⟩
    rw [hprompt reply hreply] at hlate
    cases hlate
  cases h with
  | muted hmuted =>
      rw [hawake] at hmuted
      cases hmuted
  | answered _ hdue' =>
      rw [hdue] at hdue'
      cases hdue'
      rfl
  | ignored _ hquiet =>
      rcases hquiet with hevent | hlate
      · cases hkind _ hevent
      · exact absurd hlate hnotLate
  | postponed _ hlate => exact absurd hlate hnotLate
  | watched _ hwatches => cases hkind _ hwatches
  | unwatched _ hunwatches => cases hkind _ hunwatches

/-! ## Packet after packet -/

/-- Takes packets one after the other. -/
def handleAll (i : Instance) (s : Session) : List Packet → Instance × Session × List Outgoing
  | [] => (i, s, [])
  | p :: ps =>
      let (i, s, sent) := i.handle s p
      let (i, s, more) := i.handleAll s ps
      (i, s, sent ++ more)

/-- The turns of packets that are taken one after the other. -/
def turns (i : Instance) (s : Session) : List Packet → List Turn
  | [] => []
  | p :: ps => ⟨i, s, p⟩ :: (i.handle s p).1.turns (i.handle s p).2.1 ps

/-- Every turn is settled. -/
theorem Turn.settled (t : Turn) : t.Settled where
  once := t.handled.length_sent_le
  numbered _ ho := t.handled.numbered ho
  answered hawake hkind hprompt := by
    obtain ⟨a, hdue⟩ := isSome_answerTo (s := t.session) hkind hprompt
    have hversion : t.instAfter.schemaVersion = t.inst.schemaVersion := t.handled.schemaVersion
    have hsent : t.sent = post (t.reply a) .zero :=
      t.handled.sent_of_due hawake hkind hprompt hdue
    refine ⟨a, hdue, fun hfits => ?_, answerPacket_sync _ _ _, ?_⟩
    · rw [hsent, post]
      split
      · rfl
      · rename_i hfault
        rw [hfault] at hfits
        cases hfits
    · rw [hversion]
      exact answerPacket_schemaVersion _ _ _
  muted hmuted := by rw [Turn.sent, handle_of_isMuted hmuted]
  stored := t.handled.stored
  admitted := t.handled.admitted
  acknowledged key hkind hkey hwatched := by
    cases hawake : t.inst.isMuted with
    | true => exact handle_of_isMuted hawake
    | false =>
        rw [handle_watch hawake hkind, watch, hkey]
        dsimp only
        rw [if_pos hwatched]

/-- What a run sends is what its turns send. -/
theorem sent_handleAll (i : Instance) (s : Session) (ps : List Packet) :
    (i.handleAll s ps).2.2 = (i.turns s ps).flatMap Turn.sent := by
  induction ps generalizing i s with
  | nil => rfl
  | cons p ps ih =>
      rw [handleAll, turns, List.flatMap_cons]
      exact congrArg (fun more => (i.handle s p).2.2 ++ more) (ih _ _)

/-- The spaces are changed by a run only where they are changed by one of its packets. -/
theorem spaces_handleAll {i : Instance} {s : Session} {ps : List Packet}
    (h : (i.handleAll s ps).1.spaces ≠ i.spaces) : ∃ t ∈ i.turns s ps, t.inst.MayStore t.packet := by
  induction ps generalizing i s with
  | nil => exact absurd rfl h
  | cons p ps ih =>
      by_cases hfirst : (i.handle s p).1.spaces = i.spaces
      · rw [← hfirst] at h
        obtain ⟨t, ht, hstores⟩ := ih h
        exact ⟨t, List.mem_cons_of_mem _ ht, hstores⟩
      · exact ⟨⟨i, s, p⟩, List.mem_cons_self, (i.handle_handled s p).stored hfirst⟩

/-- The user of the session after a run is the one from before, or one of the packets let it in. -/
theorem user_handleAll {i : Instance} {s : Session} {ps : List Packet}
    (h : (i.handleAll s ps).2.1.user ≠ s.user) :
    ∃ t ∈ i.turns s ps, t.inst.LetsIn t.session t.packet (i.handleAll s ps).2.1.user := by
  induction ps generalizing i s with
  | nil => exact absurd rfl h
  | cons p ps ih =>
      have hrest : (i.handleAll s (p :: ps)).2.1.user =
          ((i.handle s p).1.handleAll (i.handle s p).2.1 ps).2.1.user := rfl
      rw [hrest] at h ⊢
      by_cases hsame : ((i.handle s p).1.handleAll (i.handle s p).2.1 ps).2.1.user =
          (i.handle s p).2.1.user
      · rw [hsame] at h ⊢
        exact ⟨⟨i, s, p⟩, List.mem_cons_self, (i.handle_handled s p).admitted h⟩
      · obtain ⟨t, ht, hadmitted⟩ := ih hsame
        exact ⟨t, List.mem_cons_of_mem _ ht, hadmitted⟩

/-- Whether a packet that is sent answers one under a number. -/
def answersUnder (sync : UInt64) (o : Outgoing) : Bool :=
  !o.packet.header.isEvent && o.packet.header.sync == sync

/-- There are no more answers under a number than packets. -/
theorem countP_answersUnder_handleAll_le (sync : UInt64) (i : Instance) (s : Session)
    (ps : List Packet) :
    (i.handleAll s ps).2.2.countP (answersUnder sync) ≤ ps.countP fun p => p.header.sync == sync := by
  induction ps generalizing i s with
  | nil => exact Nat.le_refl 0
  | cons p ps ih =>
      have hhandled := i.handle_handled s p
      have hfirst : (i.handle s p).2.2.countP (answersUnder sync) ≤
          if (p.header.sync == sync) = true then 1 else 0 := by
        split
        · exact Nat.le_trans List.countP_le_length hhandled.length_sent_le
        · rename_i hother
          rw [Nat.le_zero, List.countP_eq_zero]
          intro o ho hanswers
          obtain ⟨hnoEvent, hsync⟩ := (Bool.and_eq_true _ _).mp hanswers
          rcases hhandled.numbered ho with hevent | ⟨-, hown⟩
          · rw [hevent] at hnoEvent
            cases hnoEvent
          · rw [hown] at hsync
            exact hother hsync
      have hrest := ih (i.handle s p).1 (i.handle s p).2.1
      have hsent : (i.handleAll s (p :: ps)).2.2 = (i.handle s p).2.2 ++
          ((i.handle s p).1.handleAll (i.handle s p).2.1 ps).2.2 := rfl
      rw [hsent, List.countP_append, List.countP_cons]
      omega

end Instance

end TupleWire

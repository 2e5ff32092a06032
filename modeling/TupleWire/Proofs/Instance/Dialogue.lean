/-
  The dialogue of an instance and a client.

  What an instance sends to a client is received by it, and what the client
  queues on receiving it is taken by the instance: the client acknowledges a
  notification by asking to watch its key once more.  `Delivers` delivers one
  payload, of all that are on their way in either direction; that covers every
  order in which a network or a delayed reply can bring them.

  `effort` bounds what is still to come of a dialogue:

      an acknowledgement, or another request to watch        1
      a notification                                         2
      a request to watch no longer                           3
      a key that is not watched, but that one may come to    2
      another request                                        2
      another response                                       1

  A notification is worth more than its acknowledgement, and only beginning to
  watch a key brings about a notification, which uses the key up.  So every
  delivery lowers the effort (`effort_lt`), and a dialogue comes to rest.

  `packets_are_settled` is what holds of an instance, its sessions and whatever
  packets they get.
-/
import Mathlib.Algebra.Order.BigOperators.Group.List
import Mathlib.Data.Finset.Card
import Mathlib.Data.Finset.Dedup
import TupleWire.Proofs.Connection.Inbound
import TupleWire.Proofs.Instance.Answering

set_option autoImplicit false

namespace TupleWire

/-- A session of an instance, the connection of its client, and what is on its way between them. -/
structure Dialogue where
  inst : Instance
  session : Session
  conn : Connection
  /-- the payloads on their way to the instance -/
  toInstance : List Bytes
  /-- the payloads on their way to the client, also those that are sent after a delay -/
  toClient : List Bytes

/-- What an effect of a connection puts on its way to the server. -/
def Effect.queuedPayload? : Effect → Option Bytes
  | .queued p => some p.payload
  | _ => none

namespace Dialogue

/-! ## Deliveries -/

/-- The instance takes a payload; one that is no packet is dropped. -/
def serve (d : Dialogue) (payload : Bytes) : Dialogue :=
  match Packet.ofPayload payload with
  | .error _ => d
  | .ok p =>
      let (inst, session, sent) := d.inst.handle d.session p
      { d with inst, session, toClient := d.toClient ++ sent.map fun o => o.packet.payload }

/-- The client takes a payload; one that is no packet is dropped. -/
def listen (d : Dialogue) (now : Nat) (payload : Bytes) : Dialogue :=
  match Packet.ofPayload payload with
  | .error _ => d
  | .ok p =>
      let (conn, effects) := d.conn.receive now ⟨payload, p⟩
      { d with conn, toInstance := d.toInstance ++ effects.filterMap Effect.queuedPayload? }

/-- Delivers one of the payloads that are on their way. -/
inductive Delivers (d : Dialogue) : Dialogue → Prop
  | toInstance {before after : List Bytes} {payload : Bytes}
      (waiting : d.toInstance = before ++ payload :: after) :
      Delivers d ({ d with toInstance := before ++ after }.serve payload)
  | toClient {before after : List Bytes} {payload : Bytes} (now : Nat)
      (waiting : d.toClient = before ++ payload :: after) :
      Delivers d ({ d with toClient := before ++ after }.listen now payload)

/-- So many deliveries, one after the other. -/
inductive Goes : Nat → Dialogue → Dialogue → Prop
  | nowhere (d : Dialogue) : Goes 0 d d
  | on {n : Nat} {d e f : Dialogue} (first : Delivers d e) (rest : Goes n e f) : Goes (n + 1) d f

/-- Whether nothing is on its way. -/
def IsAtRest (d : Dialogue) : Prop := d.toInstance = [] ∧ d.toClient = []

/-! ## Effort -/

/-- The packet that a payload is read as. -/
def read? (payload : Bytes) : Option Packet := (Packet.ofPayload payload).toOption

/-- What may come of a packet of some type. -/
def kindEffort : Option RequestType → Nat
  | some .watch => 1
  | some .unwatch => 3
  | _ => 2

/-- What may come of a payload on its way to the instance. -/
def requestEffort (payload : Bytes) : Nat :=
  match read? payload with
  | some p => kindEffort (RequestType.ofCode? p.header.code)
  | none => 1

/-- What may come of a payload on its way to the client. -/
def responseEffort (payload : Bytes) : Nat :=
  match read? payload with
  | some p => if p.header.isEvent then 2 else 1
  | none => 1

/-- The key that a payload on its way to the instance asks to watch. -/
def requestedKey? (payload : Bytes) : Option String := do
  let p ← read? payload
  if RequestType.ofCode? p.header.code = some .watch then p.body.text? Key.eventKey else none

/-- The key that a payload on its way to the client is a notification of. -/
def notifiedKey? (payload : Bytes) : Option String := do
  let p ← read? payload
  if p.header.isEvent then p.body.text? Key.eventKey else none

/-- Those of some keys that a session does not watch. -/
def unwatched (keys : Finset String) (s : Session) : Finset String :=
  keys.filter fun key => s.watched.contains key = false

/-- What may come of a dialogue that is about some keys. -/
def effort (keys : Finset String) (d : Dialogue) : Nat :=
  (d.toInstance.map requestEffort).sum + (d.toClient.map responseEffort).sum +
    2 * (unwatched keys d.session).card

/-- Whether a dialogue is about no other keys. -/
structure IsAbout (keys : Finset String) (d : Dialogue) : Prop where
  requested : ∀ payload ∈ d.toInstance, ∀ key, requestedKey? payload = some key → key ∈ keys
  notified : ∀ payload ∈ d.toClient, ∀ key, notifiedKey? payload = some key → key ∈ keys

variable {keys : Finset String} {d e f : Dialogue} {payload : Bytes} {p : Packet}

theorem requestEffort_of_read (h : read? payload = some p) :
    requestEffort payload = kindEffort (RequestType.ofCode? p.header.code) := by
  rw [requestEffort, h]

theorem kindEffort_pos (kind : Option RequestType) : 0 < kindEffort kind := by
  unfold kindEffort
  split <;> decide

theorem requestEffort_le (payload : Bytes) : requestEffort payload ≤ 3 := by
  rw [requestEffort]
  split
  · unfold kindEffort
    split <;> decide
  · decide

theorem requestedKey?_eq_some_iff {key : String} :
    requestedKey? payload = some key ↔ ∃ p, read? payload = some p ∧
      RequestType.ofCode? p.header.code = some .watch ∧ p.body.text? Key.eventKey = some key := by
  simp only [requestedKey?, Option.bind_eq_bind, Option.bind_eq_some_iff,
    Option.ite_none_right_eq_some]

theorem notifiedKey?_eq_some_iff {key : String} :
    notifiedKey? payload = some key ↔ ∃ p, read? payload = some p ∧
      p.header.isEvent = true ∧ p.body.text? Key.eventKey = some key := by
  simp only [notifiedKey?, Option.bind_eq_bind, Option.bind_eq_some_iff,
    Option.ite_none_right_eq_some]

theorem responseEffort_pos (payload : Bytes) : 0 < responseEffort payload := by
  rw [responseEffort]
  split
  · split <;> decide
  · decide

theorem responseEffort_le (payload : Bytes) : responseEffort payload ≤ 2 := by
  rw [responseEffort]
  split
  · split <;> decide
  · decide

/-! ## What is sent arrives as it is meant -/

/-- A packet that is sent is read as it is carried, unless it nests too deep. -/
theorem eq_carried_of_read {q : Packet} (hfits : q.payload.length ≤ Packet.payloadLimit)
    (h : read? q.payload = some p) : p = q.carried := by
  rw [read?, Packet.ofPayload_payload (Nat.lt_succ_of_le hfits)] at h
  split at h
  · exact (Option.some.inj h).symm
  · cases h

/-- A response that is no notification is worth little. -/
theorem responseEffort_of_not_isEvent {q : Packet} (hfits : q.payload.length ≤ Packet.payloadLimit)
    (hevent : q.header.isEvent = false) : responseEffort q.payload ≤ 1 := by
  rw [responseEffort]
  cases hread : read? q.payload with
  | none => exact Nat.le_refl 1
  | some p =>
      have hheader : p.header.isEvent = false := by
        rw [eq_carried_of_read hfits hread]
        exact hevent
      dsimp only
      rw [hheader, if_neg Bool.false_ne_true]

/-- What is a notification when it arrives has been one, of the same key. -/
theorem isEvent_of_notifiedKey {q : Packet} {key : String}
    (hfits : q.payload.length ≤ Packet.payloadLimit) (h : notifiedKey? q.payload = some key) :
    q.header.isEvent = true ∧ q.body.carried.text? Key.eventKey = some key := by
  obtain ⟨p, hread, hevent, hkey⟩ := notifiedKey?_eq_some_iff.1 h
  rw [eq_carried_of_read hfits hread] at hevent hkey
  exact ⟨hevent, hkey⟩

/-- A key arrives as it is. -/
theorem text?_carried {body : Body} {field : UInt8} {text : String}
    (h : body.get? field = some (.text text)) : body.carried.text? field = some text := by
  rw [Body.text?, Body.get?_carried, h, Option.map_some, Option.bind_some, Value.carried_text]
  exact Value.asText?_text text

/-- A notification is of the key that it is meant for. -/
theorem eq_of_notifiedKey_notification {key other : String} {value : Option Value}
    (hfits : (Instance.notification key value).payload.length ≤ Packet.payloadLimit)
    (h : notifiedKey? (Instance.notification key value).payload = some other) : other = key := by
  have hname : (Instance.notification key value).body.get? Key.eventKey = some (.text key) := by
    cases value with
    | none => rfl
    | some v => rfl
  have hkey := (isEvent_of_notifiedKey hfits h).2
  rw [text?_carried hname] at hkey
  exact (Option.some.inj hkey).symm

/-- An acknowledgement is worth less than a notification. -/
theorem requestEffort_acknowledgement {c : Connection} {key : String}
    (hfits : (c.acknowledgement key).payload.length ≤ Packet.payloadLimit) :
    requestEffort (c.acknowledgement key).payload = 1 := by
  rw [requestEffort]
  cases hread : read? (c.acknowledgement key).payload with
  | none => rfl
  | some p =>
      have hkind : RequestType.ofCode? p.header.code = some .watch := by
        rw [eq_carried_of_read hfits hread]
        exact RequestType.ofCode?_code .watch
      dsimp only
      rw [hkind]
      rfl

/-- An acknowledgement asks to watch the key that it is meant for. -/
theorem eq_of_requestedKey_acknowledgement {c : Connection} {key other : String}
    (hfits : (c.acknowledgement key).payload.length ≤ Packet.payloadLimit)
    (h : requestedKey? (c.acknowledgement key).payload = some other) : other = key := by
  obtain ⟨p, hread, -, hkey⟩ := requestedKey?_eq_some_iff.1 h
  have hname : (c.acknowledgement key).body.get? Key.eventKey = some (.text key) := rfl
  have hcarried : p.body = (c.acknowledgement key).body.carried := by
    rw [eq_carried_of_read hfits hread, Packet.carried]
  rw [hcarried, text?_carried hname] at hkey
  exact (Option.some.inj hkey).symm

/-! ## Keys that are watched and keys that are not -/

theorem mem_unwatched {s : Session} {key : String} :
    key ∈ unwatched keys s ↔ key ∈ keys ∧ s.watched.get? key = none := by
  rw [unwatched, Finset.mem_filter, Dict.contains, Option.isSome_eq_false_iff, Option.isNone_iff_eq_none]

theorem unwatched_congr {s s' : Session} (h : s'.watched = s.watched) :
    unwatched keys s' = unwatched keys s := by
  rw [unwatched, unwatched, h]

/-- Beginning to watch a key uses it up. -/
theorem card_unwatched_insert {s : Session} {key : String} (hkey : key ∈ keys)
    (habsent : s.watched.get? key = none) (version : Nat) :
    (unwatched keys { s with watched := s.watched.insert key version }).card + 1 =
      (unwatched keys s).card := by
  have hsame : unwatched keys { s with watched := s.watched.insert key version } =
      (unwatched keys s).erase key := by
    ext other
    rw [mem_unwatched, Finset.mem_erase, mem_unwatched, Dict.get?_insert]
    by_cases hother : key = other
    · subst hother
      simp
    · rw [if_neg hother]
      exact ⟨fun h => ⟨Ne.symm hother, h⟩, And.right⟩
  rw [hsame]
  exact Finset.card_erase_add_one (mem_unwatched.2 ⟨hkey, habsent⟩)

/-- Watching a key no longer gives back one key at the most. -/
theorem card_unwatched_unwatch_le (keys : Finset String) (s : Session) (body : Body) :
    (unwatched keys (Instance.unwatch s body)).card ≤ (unwatched keys s).card + 1 := by
  rw [Instance.unwatch]
  split
  · exact Nat.le_succ _
  · rename_i key _
    refine Nat.le_trans (Finset.card_le_card fun other hother => ?_) (Finset.card_insert_le key _)
    rw [mem_unwatched, Dict.get?_erase] at hother
    rw [Finset.mem_insert, mem_unwatched]
    by_cases hkey : key = other
    · exact .inl hkey.symm
    · rw [if_neg hkey] at hother
      exact .inr hother

/-! ## One delivery -/

/-- The payloads of packets that are sent. -/
def payloads (sent : List Outgoing) : List Bytes := sent.map fun o => o.packet.payload

/-- Payloads on their way to the client that are about some keys and worth no more than a bound. -/
structure IsWorth (keys : Finset String) (payloads : List Bytes) (bound : Nat) : Prop where
  effort : (payloads.map responseEffort).sum ≤ bound
  notified : ∀ payload ∈ payloads, ∀ key, notifiedKey? payload = some key → key ∈ keys

theorem isWorth_nil (keys : Finset String) : IsWorth keys [] 0 where
  effort := Nat.le_refl 0
  notified _ h := by cases h

theorem isWorth_post {q : Packet} {bound : Nat}
    (heffort : q.payload.length ≤ Packet.payloadLimit → responseEffort q.payload ≤ bound)
    (hkeys : q.payload.length ≤ Packet.payloadLimit →
      ∀ key, notifiedKey? q.payload = some key → key ∈ keys) (delay : Duration) :
    IsWorth keys (payloads (Instance.post q delay)) bound := by
  rw [Instance.post]
  split
  · rename_i frame hframe
    have hfits := (Packet.frame_eq_ok_iff.1 hframe).1
    constructor
    · rw [payloads, List.map_singleton, List.map_singleton, List.sum_singleton]
      exact heffort hfits
    · intro payload hpayload
      rw [List.mem_singleton.1 hpayload]
      exact hkeys hfits
  · exact ⟨Nat.zero_le bound, fun _ h => by cases h⟩

/-- An answer is worth one delivery. -/
theorem isWorth_answer (keys : Finset String) (version sync : UInt64) (a : Answer)
    (delay : Duration) :
    IsWorth keys (payloads (Instance.post (Instance.answerPacket version sync a) delay)) 1 := by
  have hevent := Instance.isEvent_answerPacket version sync a
  refine isWorth_post (fun hfits => responseEffort_of_not_isEvent hfits hevent)
    (fun hfits key hkey => ?_) delay
  rw [(isEvent_of_notifiedKey hfits hkey).1] at hevent
  cases hevent

/-- A notification is worth two: its delivery and that of its acknowledgement. -/
theorem isWorth_notification {key : String} (hkey : key ∈ keys) (value : Option Value) :
    IsWorth keys (payloads (Instance.notify key value)) 2 := by
  refine isWorth_post (fun _ => responseEffort_le _) (fun hfits other hother => ?_) .zero
  rw [eq_of_notifiedKey_notification hfits hother]
  exact hkey

/-- What a packet brings about at the instance is worth less than the packet. -/
theorem isWorth_handle (i : Instance) (s : Session) (p : Packet)
    (hkeys : RequestType.ofCode? p.header.code = some .watch →
      ∀ key, p.body.text? Key.eventKey = some key → key ∈ keys) :
    ∃ bound, IsWorth keys (payloads (i.handle s p).2.2) bound ∧
      bound + 2 * (unwatched keys (i.handle s p).2.1).card <
        kindEffort (RequestType.ofCode? p.header.code) + 2 * (unwatched keys s).card := by
  have hpos := kindEffort_pos (RequestType.ofCode? p.header.code)
  cases hawake : i.isMuted with
  | true =>
      rw [Instance.handle_of_isMuted hawake]
      exact ⟨0, isWorth_nil keys, by dsimp only; omega⟩
  | false =>
      by_cases hwatch : RequestType.ofCode? p.header.code = some .watch
      · rw [Instance.handle_watch hawake hwatch]
        rcases i.watch_cases s p.body with ⟨hsame, -⟩ | ⟨key, hkey, habsent, hbegun⟩
        · rw [hsame]
          exact ⟨0, isWorth_nil keys, by dsimp only; omega⟩
        · have hmem := hkeys hwatch key hkey
          have hcard := card_unwatched_insert hmem habsent
            (((i.values.get? key).map Prod.snd).getD 0)
          rw [hbegun]
          exact ⟨2, isWorth_notification hmem _, by dsimp only; omega⟩
      · by_cases hunwatch : RequestType.ofCode? p.header.code = some .unwatch
        · have hcard := card_unwatched_unwatch_le keys s p.body
          rw [Instance.handle_unwatch hawake hunwatch, hunwatch]
          exact ⟨0, isWorth_nil keys, by rw [kindEffort]; dsimp only; omega⟩
        · obtain ⟨hwatched, hsent⟩ := (i.handle_handled s p).of_other hwatch hunwatch
          have hworth : IsWorth keys (payloads (i.handle s p).2.2) 1 := by
            rcases hsent with hnone | ⟨a, delay, hanswer⟩
            · rw [hnone]
              exact ⟨Nat.zero_le 1, (isWorth_nil keys).notified⟩
            · rw [hanswer]
              exact isWorth_answer keys _ _ _ _
          have hkind : kindEffort (RequestType.ofCode? p.header.code) = 2 := by
            unfold kindEffort
            split
            · rename_i h
              exact absurd h hwatch
            · rename_i h
              exact absurd h hunwatch
            · rfl
          rw [unwatched_congr hwatched, hkind]
          exact ⟨1, hworth, by omega⟩

/-- What a payload brings about at the client: acknowledgements of the keys that it is about, worth
less than the payload. -/
theorem queued_receive (c : Connection) (now : Nat) (hread : read? payload = some p) :
    (((c.receive now ⟨payload, p⟩).2.filterMap Effect.queuedPayload?).map requestEffort).sum <
        responseEffort payload ∧
      ∀ queued ∈ (c.receive now ⟨payload, p⟩).2.filterMap Effect.queuedPayload?,
        ∀ key, requestedKey? queued = some key → notifiedKey? payload = some key := by
  have hpos := responseEffort_pos payload
  obtain ⟨fate, hreceived⟩ := c.receive_received now ⟨payload, p⟩
  generalize c.receive now ⟨payload, p⟩ = outcome at hreceived
  have hobserved : (Connection.observation ⟨payload, p⟩).filterMap Effect.queuedPayload? = [] := by
    rw [Connection.observation]
    cases p.header.schemaVersion with
    | none => rfl
    | some version => rfl
  cases hreceived with
  | answered hnoEvent hnoChunk hw =>
      rw [List.filterMap_append, hobserved]
      exact ⟨hpos, fun _ h => by cases h⟩
  | ignored hunwatched hunawaited =>
      rw [List.filterMap_append, hobserved]
      exact ⟨hpos, fun _ h => by cases h⟩
  | @notified key callback hevent hkey hwatched hasked =>
      have heffort : responseEffort payload = 2 := by
        rw [responseEffort, hread]
        exact if_pos hevent
      have hnotified : notifiedKey? payload = some key :=
        notifiedKey?_eq_some_iff.2 ⟨p, hread, hevent, hkey⟩
      rw [List.filterMap_append, hobserved, heffort, hnotified, Connection.asking]
      split
      · rename_i hfits
        have hacknowledged := requestEffort_acknowledgement hfits
        constructor
        · show requestEffort (c.acknowledgement key).payload + 0 < 2
          omega
        · intro queued hqueued other hother
          rw [List.mem_singleton.1 hqueued] at hother
          rw [eq_of_requestedKey_acknowledgement hfits hother]
      · exact ⟨Nat.zero_lt_two, fun _ h => by cases h⟩

theorem toInstance_serve (d : Dialogue) (payload : Bytes) :
    (d.serve payload).toInstance = d.toInstance := by
  rw [serve]
  split
  · rfl
  · rfl

theorem toClient_listen (d : Dialogue) (now : Nat) (payload : Bytes) :
    (d.listen now payload).toClient = d.toClient ∧
      (d.listen now payload).session = d.session := by
  rw [listen]
  split
  · exact ⟨rfl, rfl⟩
  · exact ⟨rfl, rfl⟩

theorem read?_eq_some {payload : Bytes} (h : Packet.ofPayload payload = .ok p) :
    read? payload = some p := by
  rw [read?, h]
  rfl

/-- What the instance makes of a payload is worth less than the payload. -/
theorem isWorth_serve (d : Dialogue) (payload : Bytes)
    (hkeys : ∀ key, requestedKey? payload = some key → key ∈ keys) :
    ∃ more bound, (d.serve payload).toClient = d.toClient ++ more ∧ IsWorth keys more bound ∧
      bound + 2 * (unwatched keys (d.serve payload).session).card <
        requestEffort payload + 2 * (unwatched keys d.session).card := by
  rw [serve]
  cases hread : Packet.ofPayload payload with
  | error fault =>
      have heffort : requestEffort payload = 1 := by
        rw [requestEffort, read?, hread]
        rfl
      exact ⟨[], 0, (List.append_nil _).symm, isWorth_nil keys, by dsimp only; omega⟩
  | ok p =>
      have hrequested (hwatch : RequestType.ofCode? p.header.code = some .watch) (key : String)
          (hkey : p.body.text? Key.eventKey = some key) : key ∈ keys :=
        hkeys key (requestedKey?_eq_some_iff.2 ⟨p, read?_eq_some hread, hwatch, hkey⟩)
      obtain ⟨bound, hworth, hless⟩ := isWorth_handle d.inst d.session p hrequested
      rw [requestEffort_of_read (read?_eq_some hread)]
      exact ⟨_, bound, rfl, hworth, hless⟩

/-- What the client makes of a payload is worth less than the payload. -/
theorem listen_worth (d : Dialogue) (now : Nat) (payload : Bytes) :
    ∃ more, (d.listen now payload).toInstance = d.toInstance ++ more ∧
      (more.map requestEffort).sum < responseEffort payload ∧
      ∀ queued ∈ more, ∀ key, requestedKey? queued = some key → notifiedKey? payload = some key := by
  rw [listen]
  cases hread : Packet.ofPayload payload with
  | error fault =>
      exact ⟨[], (List.append_nil _).symm, responseEffort_pos payload, fun _ h => by cases h⟩
  | ok p =>
      obtain ⟨hless, hkeys⟩ := queued_receive d.conn now (read?_eq_some hread)
      exact ⟨_, rfl, hless, hkeys⟩

/-- What else waits when one payload is taken has waited before. -/
theorem mem_of_mem_append {before after : List Bytes} {other : Bytes}
    (h : other ∈ before ++ after) : other ∈ before ++ payload :: after :=
  ((List.sublist_cons_self payload after).append_left before).subset h

/-- A delivery lowers the effort, and brings no other keys into the dialogue. -/
theorem Delivers.effort_lt (h : Delivers d e) (habout : IsAbout keys d) :
    effort keys e < effort keys d ∧ IsAbout keys e := by
  cases h with
  | @toInstance before after payload hwaiting =>
      have hrest := toInstance_serve { d with toInstance := before ++ after } payload
      have htaken : payload ∈ d.toInstance := by
        rw [hwaiting]
        exact List.mem_append_right _ List.mem_cons_self
      obtain ⟨more, bound, hmore, hworth, hless⟩ := isWorth_serve
        { d with toInstance := before ++ after } payload (habout.requested payload htaken)
      refine ⟨?_, fun other hother => habout.requested other ?_, fun other hother => ?_⟩
      · have heffort := hworth.effort
        simp only [effort, hrest, hmore, hwaiting, List.map_append, List.map_cons,
          List.sum_append, List.sum_cons]
        dsimp only at hless
        omega
      · rw [hrest] at hother
        rw [hwaiting]
        exact mem_of_mem_append hother
      · rw [hmore] at hother
        rcases List.mem_append.1 hother with hold | hnew
        · exact habout.notified other hold
        · exact hworth.notified other hnew
  | @toClient before after payload now hwaiting =>
      obtain ⟨hrest, hsession⟩ := toClient_listen { d with toClient := before ++ after } now payload
      have htaken : payload ∈ d.toClient := by
        rw [hwaiting]
        exact List.mem_append_right _ List.mem_cons_self
      obtain ⟨more, hmore, hless, hkeys⟩ :=
        listen_worth { d with toClient := before ++ after } now payload
      refine ⟨?_, fun other hother key hkey => ?_, fun other hother => habout.notified other ?_⟩
      · simp only [effort, hrest, hsession, hmore, hwaiting, List.map_append, List.map_cons,
          List.sum_append, List.sum_cons]
        omega
      · rw [hmore] at hother
        rcases List.mem_append.1 hother with hold | hnew
        · exact habout.requested other hold key hkey
        · exact habout.notified payload htaken key (hkeys other hnew key hkey)
      · rw [hrest] at hother
        rw [hwaiting]
        exact mem_of_mem_append hother

/-! ## Coming to rest -/

/-- There are no more deliveries than the effort allows. -/
theorem Goes.le_effort {n : Nat} (h : Goes n d e) (habout : IsAbout keys d) :
    n ≤ effort keys d := by
  induction h with
  | nowhere d => exact Nat.zero_le _
  | on first rest ih =>
      obtain ⟨hless, hstill⟩ := first.effort_lt habout
      have hrest := ih hstill
      omega

/-- The keys that a dialogue is about. -/
def keysOf (d : Dialogue) : Finset String :=
  (d.toInstance.filterMap requestedKey? ++ d.toClient.filterMap notifiedKey?).toFinset

theorem isAbout_keysOf (d : Dialogue) : IsAbout d.keysOf d where
  requested payload hpayload _ hkey :=
    List.mem_toFinset.2 (List.mem_append_left _ (List.mem_filterMap.2 ⟨payload, hpayload, hkey⟩))
  notified payload hpayload _ hkey :=
    List.mem_toFinset.2 (List.mem_append_right _ (List.mem_filterMap.2 ⟨payload, hpayload, hkey⟩))

/-- The most deliveries that can come of what is on its way. -/
def bound (d : Dialogue) : Nat := 5 * d.toInstance.length + 4 * d.toClient.length

/-- Payloads of which none is worth more than a bound. -/
theorem sum_map_le {worth : Bytes → Nat} {bound : Nat} (h : ∀ payload, worth payload ≤ bound)
    (payloads : List Bytes) : (payloads.map worth).sum ≤ payloads.length * bound := by
  have hsum := List.sum_le_card_nsmul (payloads.map worth) bound fun n hn => by
    obtain ⟨payload, -, rfl⟩ := List.mem_map.1 hn
    exact h payload
  rw [List.length_map] at hsum
  exact hsum

theorem effort_keysOf_le (d : Dialogue) : effort d.keysOf d ≤ d.bound := by
  have hrequests : (d.toInstance.map requestEffort).sum ≤ d.toInstance.length * 3 :=
    sum_map_le requestEffort_le _
  have hresponses : (d.toClient.map responseEffort).sum ≤ d.toClient.length * 2 :=
    sum_map_le responseEffort_le _
  have hkeys : (unwatched d.keysOf d.session).card ≤ d.toInstance.length + d.toClient.length := by
    refine Nat.le_trans (Finset.card_filter_le _ _) (Nat.le_trans (List.toFinset_card_le _) ?_)
    rw [List.length_append]
    exact Nat.add_le_add (List.length_filterMap_le _ _) (List.length_filterMap_le _ _)
  rw [effort, bound]
  omega

/-- As long as anything is on its way, something can be delivered. -/
theorem isAtRest_or_delivers (d : Dialogue) : d.IsAtRest ∨ ∃ e, Delivers d e := by
  cases hrequests : d.toInstance with
  | cons payload rest =>
      have hwaiting : d.toInstance = [] ++ payload :: rest := hrequests
      exact .inr ⟨_, .toInstance hwaiting⟩
  | nil =>
      cases hresponses : d.toClient with
      | cons payload rest =>
          have hwaiting : d.toClient = [] ++ payload :: rest := hresponses
          exact .inr ⟨_, .toClient 0 hwaiting⟩
      | nil => exact .inl ⟨hrequests, hresponses⟩

/-- A dialogue can be brought to rest. -/
theorem exists_goes_isAtRest (habout : IsAbout keys d) : ∃ n e, Goes n d e ∧ e.IsAtRest := by
  induction heffort : effort keys d using Nat.strong_induction_on generalizing d with
  | h effort ih =>
      rcases d.isAtRest_or_delivers with hrest | ⟨e, hdelivers⟩
      · exact ⟨0, d, .nowhere d, hrest⟩
      · obtain ⟨hless, hstill⟩ := hdelivers.effort_lt habout
        rw [heffort] at hless
        obtain ⟨n, f, hgoes, hrest⟩ := ih _ hless hstill rfl
        exact ⟨n + 1, f, .on hdelivers hgoes, hrest⟩

end Dialogue

/-- What holds of an instance and a session, whatever packets they get. -/
structure Instance.RunSettled (i : Instance) (s : Session) (ps : List Packet) : Prop where
  /-- every packet is settled -/
  settled : ∀ t ∈ i.turns s ps, t.Settled
  /-- what is sent is what the packets cause to be sent -/
  sent : (i.handleAll s ps).2.2 = (i.turns s ps).flatMap Instance.Turn.sent
  /-- there are no more answers under a number than packets -/
  once : ∀ sync, (i.handleAll s ps).2.2.countP (Instance.answersUnder sync) ≤
    ps.countP fun p => p.header.sync == sync
  /-- the spaces are as they were, unless one of the packets may change them -/
  stored : (i.handleAll s ps).1.spaces ≠ i.spaces →
    ∃ t ∈ i.turns s ps, t.inst.MayStore t.packet
  /-- the user is as before, unless one of the packets lets it in -/
  admitted : (i.handleAll s ps).2.1.user ≠ s.user →
    ∃ t ∈ i.turns s ps, t.inst.LetsIn t.session t.packet (i.handleAll s ps).2.1.user

/-- Whatever packets an instance gets, in whatever states it and the session are: each is answered
once at the most, and just once, with the version of the schema, if it is answered at all and
nothing else is scripted; a muted instance sends nothing; the spaces and the user change only by the
packets that are meant to change them.  And as a session that watches a key already sends nothing
for it, whatever is on its way between a client and an instance, their dialogue ends, after a number
of deliveries that has a bound. -/
theorem packets_are_settled :
    (∀ (i : Instance) (s : Session) (ps : List Packet), i.RunSettled s ps) ∧
      ∀ d : Dialogue, (∀ n e, Dialogue.Goes n d e → n ≤ d.bound) ∧
        ∃ n e, Dialogue.Goes n d e ∧ e.IsAtRest := by
  constructor
  · intro i s ps
    exact {
      settled := fun t _ => t.settled
      sent := i.sent_handleAll s ps
      once := fun sync => i.countP_answersUnder_handleAll_le sync s ps
      stored := Instance.spaces_handleAll
      admitted := Instance.user_handleAll }
  · intro d
    have habout := d.isAbout_keysOf
    constructor
    · intro n e hgoes
      exact Nat.le_trans (hgoes.le_effort habout) d.effort_keysOf_le
    · exact Dialogue.exists_goes_isAtRest habout

end TupleWire

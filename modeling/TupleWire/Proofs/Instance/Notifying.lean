/-
  What the sessions of an instance are told of watched keys.

  A run is any sequence of values set, packets taken and rounds of pushing, on
  any sessions.  For one session and one key it is a story (`Service.story`):
  when the value was set, when the session asked to watch the key and when no
  longer, and what it was told.  `Reading` is what a story comes to.

  In every act the session, the value of the key and the newest version make one
  of few moves (`Moves`, `act_moves`), and what a story comes to agrees with them
  all along (`Agrees.step`, `agrees_run`).  The version that a session has seen
  is never newer than that of the value, and it is the same right after the
  session was told.  So the session is told again only after the value was set
  (`Due.set_between`), and a round of pushing leaves nothing untold
  (`lastTold_push`).
-/
import Mathlib.Logic.Function.Basic
import TupleWire.Proofs.Instance.Answering
import TupleWire.Proofs.Map.Dict

set_option autoImplicit false

namespace TupleWire

open Instance (notification notify post)

/-- An instance and its sessions, which are told apart by their numbers. -/
structure Service where
  inst : Instance
  sessions : Nat → Session

namespace Service

/-! ## Runs -/

/-- Something that happens to an instance or one of its sessions. -/
inductive Act where
  /-- the value of a watched key is set -/
  | broadcast (key : String) (value : Value)
  /-- a packet of a session comes in -/
  | packet (session : Nat) (p : Packet)
  /-- a session is sent what has changed -/
  | push (session : Nat)

/-- What an act leads to, and what is sent to the session that it is about. -/
def act (v : Service) : Act → Service × List Outgoing
  | .broadcast key value => ({ v with inst := v.inst.broadcast key value }, [])
  | .packet n p =>
      let (inst, session, sent) := v.inst.handle (v.sessions n) p
      (⟨inst, Function.update v.sessions n session⟩, sent)
  | .push n =>
      let (session, sent) := v.inst.pushEvents (v.sessions n)
      ({ v with sessions := Function.update v.sessions n session }, sent)

/-- One act after the other. -/
def run (v : Service) (acts : List Act) : Service := acts.foldl (fun v a => (v.act a).1) v

/-! ## Stories -/

/-- Something that happens between a session and a key. -/
inductive Mark where
  /-- the value of the key is set -/
  | set (value : Value)
  /-- the session asks to watch the key -/
  | watch
  /-- the session asks to watch it no longer -/
  | unwatch
  /-- the session is sent a notification, with data or without -/
  | told (data : Option Value)
  deriving DecidableEq

/-- What a packet asks about a key. -/
def asked (key : String) (p : Packet) : List Mark :=
  if p.body.text? Key.eventKey = some key then
    match RequestType.ofCode? p.header.code with
    | some .watch => [.watch]
    | some .unwatch => [.unwatch]
    | _ => []
  else []

/-- What a packet that is sent tells of a key. -/
def told? (key : String) (o : Outgoing) : Option Mark :=
  if o.packet.header.isEvent = true ∧ o.packet.body.text? Key.eventKey = some key then
    some (.told (o.packet.body.get? Key.eventData))
  else none

/-- What the packets that are sent tell of a key. -/
def tellings (key : String) (sent : List Outgoing) : List Mark := sent.filterMap (told? key)

/-- What an act is between a session and a key. -/
def marks (v : Service) (n : Nat) (key : String) : Act → List Mark
  | .broadcast k value => if k = key then [.set value] else []
  | .packet m p => if m = n then asked key p ++ tellings key (v.act (.packet m p)).2 else []
  | .push m => if m = n then tellings key (v.act (.push m)).2 else []

/-- What a run is between a session and a key. -/
def story (v : Service) (n : Nat) (key : String) : List Act → List Mark
  | [] => []
  | a :: acts => v.marks n key a ++ (v.act a).1.story n key acts

/-- What a story comes to. -/
structure Reading where
  /-- whether the session watches the key -/
  isWatched : Bool
  /-- the value of the key -/
  value : Option Value
  /-- what the session was told last -/
  lastTold : Option (Option Value)
  /-- whether the session was told, and neither was the value set nor did the session stop watching
  since -/
  isSettled : Bool
  deriving DecidableEq

/-- What a story comes to with one more mark. -/
def Reading.after (r : Reading) : Mark → Reading
  | .set value => { r with value := some value, isSettled := false }
  | .watch => { r with isWatched := true }
  | .unwatch => { r with isWatched := false, isSettled := false }
  | .told data => { r with lastTold := some data, isSettled := true }

/-- What a story comes to that begins with a value of the key. -/
def reading (value : Option Value) (story : List Mark) : Reading :=
  story.foldl Reading.after ⟨false, value, none, false⟩

/-- A notification with the value of a key fits a frame. -/
def Fits (key : String) (value : Option Value) : Prop :=
  (notification key value).payload.length ≤ Packet.payloadLimit

instance (key : String) (value : Option Value) : Decidable (Fits key value) :=
  inferInstanceAs (Decidable (_ ≤ _))

variable {v : Service} {n : Nat} {key : String}

theorem reading_append (value : Option Value) (story more : List Mark) :
    reading value (story ++ more) = more.foldl Reading.after (reading value story) :=
  List.foldl_append

/-! ## What is sent -/

theorem tellings_append (key : String) (sent more : List Outgoing) :
    tellings key (sent ++ more) = tellings key sent ++ tellings key more :=
  List.filterMap_append

/-- An answer tells nothing of any key. -/
theorem tellings_answer (key : String) (version sync : UInt64) (a : Answer) (delay : Duration) :
    tellings key (post (Instance.answerPacket version sync a) delay) = [] := by
  rw [tellings, List.filterMap_eq_nil_iff]
  intro o ho
  have hevent := Instance.isEvent_answerPacket version sync a
  rw [Instance.eq_of_mem_post ho, told?, if_neg]
  rintro ⟨h, -⟩
  rw [hevent] at h
  cases h

theorem told?_notification (key : String) (value : Option Value) (delay : Duration) :
    told? key ⟨notification key value, delay⟩ = some (.told value) := by
  have hkey := Instance.eventKey_notification key value
  rw [told?, if_pos ⟨Instance.isEvent_notification key value, hkey⟩,
    Instance.eventData_notification]

theorem told?_notification_of_ne {other : String} (h : other ≠ key) (value : Option Value)
    (delay : Duration) : told? key ⟨notification other value, delay⟩ = none := by
  rw [told?, if_neg]
  rintro ⟨-, hkey⟩
  rw [Instance.eventKey_notification] at hkey
  exact h (Option.some.inj hkey)

/-- A notification tells of its own key, if it fits a frame. -/
theorem tellings_notify (key : String) (value : Option Value) :
    tellings key (notify key value) = if Fits key value then [.told value] else [] := by
  rw [Instance.notify_eq, post]
  by_cases hfits : Fits key value
  · rw [Packet.frame_eq_ok_iff.2 ⟨hfits, rfl⟩, if_pos hfits, tellings, List.filterMap_cons,
      told?_notification, List.filterMap_nil]
  · have hframe : ∃ fault, (notification key value).frame = .error fault :=
      ⟨_, if_neg hfits⟩
    obtain ⟨fault, hframe⟩ := hframe
    rw [hframe, if_neg hfits]
    rfl

/-- A notification tells nothing of another key. -/
theorem tellings_notify_of_ne {other : String} (h : other ≠ key) (value : Option Value) :
    tellings key (notify other value) = [] := by
  rw [tellings, List.filterMap_eq_nil_iff]
  intro o ho
  rw [Instance.notify_eq] at ho
  rw [Instance.eq_of_mem_post ho, told?_notification_of_ne h]

/-! ## Moves -/

/-- What a session, a key and the instance are to one another. -/
structure View where
  /-- the version of the value that the session was sent last, if it watches the key -/
  seen : Option Nat
  /-- the value of the key and its version -/
  entry : Option (Value × Nat)
  /-- the newest version of any value -/
  newest : Nat

namespace View

def value (w : View) : Option Value := w.entry.map Prod.fst

/-- The version of the value; nothing was ever set is version zero. -/
def version (w : View) : Nat := (w.entry.map Prod.snd).getD 0

end View

def view (v : Service) (n : Nat) (key : String) : View :=
  ⟨(v.sessions n).watched.get? key, v.inst.values.get? key, v.inst.valueVersion⟩

/-- What an act can be between a session and a key. -/
inductive Moves (key : String) : View → List Mark → View → Prop
  /-- it is about something else -/
  | aside (w : View) : Moves key w [] w
  /-- the value of another key is set -/
  | setOther (w : View) : Moves key w [] { w with newest := w.newest + 1 }
  | set (w : View) (value : Value) :
      Moves key w [.set value] ⟨w.seen, some (value, w.newest + 1), w.newest + 1⟩
  /-- the session begins to watch the key, and is told its value if that fits -/
  | begun {w : View} (unwatched : w.seen = none) :
      Moves key w (.watch :: if Fits key w.value then [.told w.value] else [])
        { w with seen := some w.version }
  /-- the session watches the key already -/
  | again {w : View} (watched : w.seen.isSome = true) : Moves key w [.watch] w
  | ended (w : View) : Moves key w [.unwatch] { w with seen := none }
  /-- the session has not seen the value yet, and is told if it fits -/
  | pushed {w : View} {seen : Nat} (watched : w.seen = some seen) (newer : seen < w.version) :
      Moves key w (if Fits key w.value then [.told w.value] else [])
        { w with seen := some w.version }

theorem view_update (inst : Instance) (sessions : Nat → Session) (n : Nat) (session : Session)
    (key : String) : view ⟨inst, Function.update sessions n session⟩ n key =
      ⟨session.watched.get? key, inst.values.get? key, inst.valueVersion⟩ := by
  simp only [view, Function.update_self]

theorem view_update_of_ne {m : Nat} (h : m ≠ n) (inst : Instance) (sessions : Nat → Session)
    (session : Session) (key : String) :
    view ⟨inst, Function.update sessions m session⟩ n key =
      ⟨(sessions n).watched.get? key, inst.values.get? key, inst.valueVersion⟩ := by
  simp only [view, Function.update_of_ne (Ne.symm h)]

/-- A value that is set is the newest of all. -/
theorem broadcast_moves (v : Service) (n : Nat) (key other : String) (value : Value) :
    Moves key (v.view n key) (v.marks n key (.broadcast other value))
      ((v.act (.broadcast other value)).1.view n key) := by
  have hview : (v.act (.broadcast other value)).1.view n key =
      ⟨(v.sessions n).watched.get? key,
        if other = key then some (value, v.inst.valueVersion + 1) else v.inst.values.get? key,
        v.inst.valueVersion + 1⟩ := by
    rw [← Dict.get?_insert]
    rfl
  rw [hview, marks]
  by_cases hsame : other = key
  · rw [if_pos hsame, if_pos hsame]
    exact .set (v.view n key) value
  · rw [if_neg hsame, if_neg hsame]
    exact .setOther (v.view n key)

/-! ## Packets -/

theorem asked_of_kind {p : Packet} {kind : RequestType}
    (hkind : RequestType.ofCode? p.header.code = some kind) (key : String) :
    asked key p = if p.body.text? Key.eventKey = some key then
      match kind with
      | .watch => [.watch]
      | .unwatch => [.unwatch]
      | _ => []
    else [] := by
  rw [asked, hkind]
  cases kind <;> rfl

/-- Asking to watch a key begins it, unless the session watches the key already. -/
theorem watch_moves (i : Instance) (s : Session) (p : Packet) (key : String)
    (hkind : RequestType.ofCode? p.header.code = some .watch) :
    Moves key ⟨s.watched.get? key, i.values.get? key, i.valueVersion⟩
      (asked key p ++ tellings key (i.watch s p.body).2)
      ⟨(i.watch s p.body).1.watched.get? key, i.values.get? key, i.valueVersion⟩ := by
  rw [asked_of_kind hkind]
  rcases i.watch_cases s p.body with ⟨hsame, hwatched⟩ | ⟨other, hother, habsent, hbegun⟩
  · rw [hsame]
    by_cases hkey : p.body.text? Key.eventKey = some key
    · rw [if_pos hkey]
      exact .again (hwatched key hkey)
    · rw [if_neg hkey]
      exact .aside _
  · rw [hbegun, hother]
    dsimp only
    rw [Dict.get?_insert]
    by_cases hsame : other = key
    · subst hsame
      have hvalue : (⟨none, i.values.get? other, i.valueVersion⟩ : View).value =
          (i.values.get? other).map Prod.fst := rfl
      rw [if_pos rfl, if_pos rfl, tellings_notify, habsent, ← hvalue]
      exact .begun rfl
    · have hnamed : some other ≠ some key := fun h => hsame (Option.some.inj h)
      rw [if_neg hnamed, if_neg hsame, tellings_notify_of_ne hsame]
      exact .aside _

theorem unwatch_moves (i : Instance) (s : Session) (p : Packet) (key : String)
    (hkind : RequestType.ofCode? p.header.code = some .unwatch) :
    Moves key ⟨s.watched.get? key, i.values.get? key, i.valueVersion⟩ (asked key p)
      ⟨(Instance.unwatch s p.body).watched.get? key, i.values.get? key, i.valueVersion⟩ := by
  rw [asked_of_kind hkind, Instance.unwatch]
  cases hother : p.body.text? Key.eventKey with
  | none => exact .aside _
  | some other =>
      dsimp only
      rw [Dict.get?_erase]
      by_cases hsame : other = key
      · subst hsame
        rw [if_pos rfl, if_pos rfl]
        exact .ended ⟨s.watched.get? other, i.values.get? other, i.valueVersion⟩
      · have hnamed : some other ≠ some key := fun h => hsame (Option.some.inj h)
        rw [if_neg hnamed, if_neg hsame]
        exact .aside _

/-- What a packet is to the key and the session: it begins or ends the watching of the key that it
names, or it is about something else. -/
theorem handle_moves (i : Instance) (s : Session) (p : Packet) (key : String)
    (hawake : i.isMuted = false) :
    Moves key ⟨s.watched.get? key, i.values.get? key, i.valueVersion⟩
      (asked key p ++ tellings key (i.handle s p).2.2)
      ⟨(i.handle s p).2.1.watched.get? key, (i.handle s p).1.values.get? key,
        (i.handle s p).1.valueVersion⟩ := by
  have hhandled := i.handle_handled s p
  obtain ⟨hvalues, hnewest, -⟩ := hhandled.shared
  rw [hvalues, hnewest]
  by_cases hwatch : RequestType.ofCode? p.header.code = some .watch
  · rw [Instance.handle_watch hawake hwatch]
    exact watch_moves i s p key hwatch
  · by_cases hunwatch : RequestType.ofCode? p.header.code = some .unwatch
    · rw [Instance.handle_unwatch hawake hunwatch]
      have hnothing : tellings key [] = [] := rfl
      rw [hnothing, List.append_nil]
      exact unwatch_moves i s p key hunwatch
    · obtain ⟨hwatched, hsent⟩ := hhandled.of_other hwatch hunwatch
      have hasked : asked key p = [] := by
        rw [asked]
        split
        · split
          · rename_i h
            exact absurd h hwatch
          · rename_i h
            exact absurd h hunwatch
          · rfl
        · rfl
      have htold : tellings key (i.handle s p).2.2 = [] := by
        rcases hsent with hnone | ⟨a, delay, hanswer⟩
        · rw [hnone]
          rfl
        · rw [hanswer]
          exact tellings_answer key _ _ _ _
      rw [hwatched, hasked, htold]
      exact .aside _

theorem packet_moves (hawake : v.inst.isMuted = false) (n : Nat) (key : String) (m : Nat)
    (p : Packet) : Moves key (v.view n key) (v.marks n key (.packet m p))
      ((v.act (.packet m p)).1.view n key) := by
  by_cases hm : m = n
  · subst hm
    rw [marks, if_pos rfl, act, view_update]
    exact handle_moves v.inst (v.sessions m) p key hawake
  · obtain ⟨hvalues, hnewest, -⟩ := (v.inst.handle_handled (v.sessions m) p).shared
    rw [marks, if_neg hm, act, view_update_of_ne hm, hvalues, hnewest]
    exact .aside _

/-! ## Rounds of pushing -/

/-- A round of pushing takes the keys of which there is a newer value, and tells each. -/
theorem pushEvents_eq (i : Instance) (s : Session) :
    i.pushEvents s =
      let changed := Dict.gather i.newerValue? s.watched.entries
      ({ s with watched := changed.foldl (fun w c => w.insert c.1 c.2.2) s.watched },
        changed.flatMap fun c => notify c.1 (some c.2.1)) := rfl

/-- Of the notifications of many keys, those of one key are told of it. -/
theorem tellings_flatMap {changed : List (String × (Value × Nat))}
    (hchanged : (changed.map Prod.fst).Nodup) (key : String) :
    tellings key (changed.flatMap fun c => notify c.1 (some c.2.1)) =
      match Dict.find? key changed with
      | some v => tellings key (notify key (some v.1))
      | none => [] := by
  induction changed with
  | nil => rfl
  | cons c rest ih =>
      obtain ⟨other, v⟩ := c
      obtain ⟨hother, hrest⟩ := List.nodup_cons.1 hchanged
      rw [List.flatMap_cons, tellings_append, ih hrest, Dict.find?]
      by_cases hsame : other = key
      · subst hsame
        rw [if_pos rfl, Dict.find?_eq_none_of_not_mem hother, List.append_nil]
      · rw [if_neg hsame, tellings_notify_of_ne hsame, List.nil_append]

/-- What a round of pushing is to a key: the session is told if there is a newer value. -/
theorem pushEvents_told (i : Instance) (s : Session) (key : String) :
    tellings key (i.pushEvents s).2 =
        (match (s.watched.get? key).bind (i.newerValue? key) with
        | some v => if Fits key (some v.1) then [.told (some v.1)] else []
        | none => []) ∧
      (i.pushEvents s).1.watched.get? key =
        (((s.watched.get? key).bind (i.newerValue? key)).map Prod.snd).or
          (s.watched.get? key) := by
  have hnodup := Dict.nodup_gather (f := i.newerValue?) s.watched.nodup
  have hfind : Dict.find? key (Dict.gather i.newerValue? s.watched.entries) =
      (s.watched.get? key).bind (i.newerValue? key) := Dict.find?_gather s.watched.nodup key
  rw [pushEvents_eq]
  constructor
  · rw [tellings_flatMap hnodup, hfind]
    cases (s.watched.get? key).bind (i.newerValue? key) with
    | none => rfl
    | some v => exact tellings_notify key (some v.1)
  · have hversions : ((Dict.gather i.newerValue? s.watched.entries).map
        fun c => (c.1, c.2.2)).map Prod.fst =
          (Dict.gather i.newerValue? s.watched.entries).map Prod.fst := by
      rw [List.map_map]
      rfl
    have hget := Dict.get?_foldl_insert (hversions ▸ hnodup) s.watched key
    rw [List.foldl_map, Dict.find?_map, hfind] at hget
    exact hget

/-- A session has seen what there is of a key, or there is a value of a newer version. -/
theorem newerValue?_cases (i : Instance) (key : String) (seen : Nat) :
    (i.newerValue? key seen = none ∧ ((i.values.get? key).map Prod.snd).getD 0 ≤ seen) ∨
      ∃ v, i.newerValue? key seen = some v ∧ i.values.get? key = some v ∧ seen < v.2 := by
  rw [Instance.newerValue?]
  cases i.values.get? key with
  | none => exact .inl ⟨rfl, Nat.zero_le seen⟩
  | some v =>
      by_cases hnewer : seen < v.2
      · exact .inr ⟨v, by rw [Option.filter_some, if_pos (decide_eq_true hnewer)], rfl, hnewer⟩
      · have hold : decide (seen < v.2) = false := decide_eq_false hnewer
        refine .inl ⟨?_, Nat.not_lt.1 hnewer⟩
        rw [Option.filter_some, hold, if_neg Bool.false_ne_true]

/-- After a round of pushing a session has seen the newer values. -/
theorem view_push (v : Service) (n : Nat) (key : String) :
    (v.act (.push n)).1.view n key =
      { v.view n key with
        seen := ((((v.sessions n).watched.get? key).bind (v.inst.newerValue? key)).map
          Prod.snd).or ((v.sessions n).watched.get? key) } := by
  have hseen := (pushEvents_told v.inst (v.sessions n) key).2
  have hview : (v.act (.push n)).1.view n key =
      ⟨(v.inst.pushEvents (v.sessions n)).1.watched.get? key, v.inst.values.get? key,
        v.inst.valueVersion⟩ := view_update _ _ _ _ _
  rw [hview, hseen]
  rfl

theorem push_moves (v : Service) (n : Nat) (key : String) (m : Nat) :
    Moves key (v.view n key) (v.marks n key (.push m)) ((v.act (.push m)).1.view n key) := by
  by_cases hm : m = n
  · subst hm
    have hmarks : v.marks m key (.push m) =
        tellings key (v.inst.pushEvents (v.sessions m)).2 := if_pos rfl
    rw [hmarks, (pushEvents_told v.inst (v.sessions m) key).1, view_push, view]
    cases hwatched : (v.sessions m).watched.get? key with
    | none => exact .aside _
    | some seen =>
        rw [Option.bind_some]
        rcases newerValue?_cases v.inst key seen with ⟨hnone, -⟩ | ⟨w, hsome, hvalue, hnewer⟩
        · rw [hnone]
          exact .aside _
        · rw [hsome, hvalue]
          exact .pushed (w := ⟨some seen, some w, v.inst.valueVersion⟩) rfl hnewer
  · rw [marks, if_neg hm, act, view_update_of_ne hm]
    exact .aside _

/-- What an act is between a session and a key. -/
theorem act_moves (hawake : v.inst.isMuted = false) (n : Nat) (key : String) (a : Act) :
    Moves key (v.view n key) (v.marks n key a) ((v.act a).1.view n key) := by
  cases a with
  | broadcast other value => exact broadcast_moves v n key other value
  | packet m p => exact packet_moves hawake n key m p
  | push m => exact push_moves v n key m

/-- After a round of pushing a session has seen what there is of the keys that it watches. -/
theorem seen_push {seen : Nat} (h : ((v.act (.push n)).1.view n key).seen = some seen) :
    (v.view n key).version ≤ seen := by
  rw [view_push] at h
  dsimp only at h
  cases hwatched : (v.sessions n).watched.get? key with
  | none =>
      rw [hwatched] at h
      cases h
  | some before =>
      rw [hwatched, Option.bind_some] at h
      rcases newerValue?_cases v.inst key before with ⟨hnone, hold⟩ | ⟨w, hsome, hvalue, -⟩
      · rw [hnone] at h
        cases h
        exact hold
      · rw [hsome] at h
        cases h
        rw [View.version, view, hvalue]
        exact Nat.le_refl w.2

/-! ## What a story comes to -/

/-- What a story comes to is how the session stands to the key. -/
structure Agrees (key : String) (r : Reading) (w : View) : Prop where
  /-- no value is newer than the newest -/
  newest : w.version ≤ w.newest
  /-- no session has seen more than there is -/
  seen : ∀ seen, w.seen = some seen → seen ≤ w.version
  watched : r.isWatched = w.seen.isSome
  value : r.value = w.value
  /-- a session that was told, and since then neither the value was set nor the session stopped
  watching, has seen what there is -/
  settled : r.isSettled = true → w.seen = some w.version
  /-- a session that has seen what there is was told it last, if that fits -/
  told : w.seen = some w.version → Fits key w.value → r.lastTold = some w.value

variable {r : Reading} {w w' : View} {more : List Mark}

/-- A session that is sent the value of a key that it watches has seen it, whether or not it fits. -/
theorem agrees_of_sent (hnewest : w.version ≤ w.newest) (hwatched : r.isWatched = true)
    (hvalue : r.value = w.value) :
    Agrees key ((if Fits key w.value then [Mark.told w.value] else []).foldl Reading.after r)
      { w with seen := some w.version } where
  newest := hnewest
  seen seen hseen := Nat.le_of_eq (Option.some.inj hseen).symm
  watched := by
    split
    · exact hwatched
    · exact hwatched
  value := by
    split
    · exact hvalue
    · exact hvalue
  settled _ := rfl
  told _ hfits := by
    have hfits : Fits key w.value := hfits
    rw [if_pos hfits]
    rfl

/-- A value that is set is one that nobody has seen. -/
theorem Agrees.set (h : Agrees key r w) (value : Value) :
    Agrees key (r.after (.set value)) ⟨w.seen, some (value, w.newest + 1), w.newest + 1⟩ where
  newest := Nat.le_refl _
  seen seen hseen := Nat.le_succ_of_le (Nat.le_trans (h.seen seen hseen) h.newest)
  watched := h.watched
  value := rfl
  settled hsettled := by cases hsettled
  told hseen _ := by
    have hle := Nat.le_trans (h.seen _ hseen) h.newest
    exact absurd hle (Nat.not_succ_le_self w.newest)

/-- A session that stops watching has seen nothing. -/
theorem Agrees.ended (h : Agrees key r w) :
    Agrees key (r.after .unwatch) { w with seen := none } where
  newest := h.newest
  seen seen hseen := by cases hseen
  watched := rfl
  value := h.value
  settled hsettled := by cases hsettled
  told hseen _ := by cases hseen

theorem Agrees.step (h : Agrees key r w) (hmoves : Moves key w more w') :
    Agrees key (more.foldl Reading.after r) w' := by
  cases hmoves with
  | aside => exact h
  | setOther => exact { h with newest := Nat.le_succ_of_le h.newest }
  | set value => exact h.set value
  | begun =>
      rw [List.foldl_cons]
      exact agrees_of_sent h.newest rfl h.value
  | again hwatched =>
      have hsame : r.after .watch = r := by
        have hreading : r.isWatched = true := h.watched.trans hwatched
        rw [Reading.after, ← hreading]
      rw [List.foldl_cons, hsame]
      exact h
  | ended => exact h.ended
  | pushed hwatched =>
      have hreading : r.isWatched = true := by rw [h.watched, hwatched, Option.isSome_some]
      exact agrees_of_sent h.newest hreading h.value

/-! ## What a session is told -/

/-- In a story that begins with a value of the key, every notification is due: the session watches
the key, is told its value, and has not been told of it before. -/
def Due (value : Option Value) (story : List Mark) : Prop :=
  ∀ before data after, story = before ++ .told data :: after →
    (reading value before).isWatched = true ∧ data = (reading value before).value ∧
      (reading value before).isSettled = false

variable {value : Option Value} {story : List Mark}

/-- A story with one more mark splits before that mark or at it. -/
theorem due_concat {m : Mark} (h : Due value story)
    (hm : ∀ data, m = .told data → (reading value story).isWatched = true ∧
      data = (reading value story).value ∧ (reading value story).isSettled = false) :
    Due value (story ++ [m]) := by
  intro before data after hsplit
  rcases List.eq_nil_or_concat after with rfl | ⟨rest, last, rfl⟩
  · obtain ⟨hstory, hlast⟩ := List.append_inj' hsplit rfl
    rw [← hstory]
    exact hm data (List.cons.inj hlast).1
  · have hassoc : story ++ [m] = (before ++ .told data :: rest) ++ [last] := by
      rw [hsplit, List.concat_eq_append, List.append_assoc, List.cons_append]
    obtain ⟨hstory, -⟩ := List.append_inj' hassoc rfl
    exact h before data rest hstory

/-- A session that has not seen what there is of a key has not been told of it. -/
theorem Agrees.not_isSettled (h : Agrees key r w) (hunseen : w.seen ≠ some w.version) :
    r.isSettled = false := by
  cases hsettled : r.isSettled with
  | false => rfl
  | true => exact absurd (h.settled hsettled) hunseen

theorem due_of_moves (h : Due value story) (hagrees : Agrees key (reading value story) w)
    (hmoves : Moves key w more w') : Due value (story ++ more) := by
  have hother {m : Mark} (hm : ∀ data, m ≠ .told data) : Due value (story ++ [m]) :=
    due_concat h fun data hdata => absurd hdata (hm data)
  cases hmoves with
  | aside | setOther =>
      rw [List.append_nil]
      exact h
  | set x => exact hother fun data hdata => by cases hdata
  | again => exact hother fun data hdata => by cases hdata
  | ended => exact hother fun data hdata => by cases hdata
  | begun hunwatched =>
      have hbegun := hother (m := .watch) fun data hdata => by cases hdata
      split
      · have hunseen : w.seen ≠ some w.version := by
          rw [hunwatched]
          exact (Option.some_ne_none w.version).symm
        have hreading : reading value (story ++ [.watch]) = (reading value story).after .watch :=
          reading_append value story [.watch]
        rw [List.append_cons]
        refine due_concat hbegun fun data hdata => ?_
        cases hdata
        rw [hreading]
        exact ⟨rfl, hagrees.value.symm, hagrees.not_isSettled hunseen⟩
      · exact hbegun
  | @pushed seen hwatched hnewer =>
      split
      · have hunseen : w.seen ≠ some w.version := by
          rw [hwatched]
          intro hsame
          cases hsame
          exact absurd hnewer (Nat.lt_irrefl _)
        refine due_concat h fun data hdata => ?_
        cases hdata
        have hreading : (reading value story).isWatched = true := by
          rw [hagrees.watched, hwatched, Option.isSome_some]
        exact ⟨hreading, hagrees.value.symm, hagrees.not_isSettled hunseen⟩
      · rw [List.append_nil]
        exact h

/-! ## Whole runs -/

/-- An instance that is not muted and whose values are no newer than the newest, with sessions that
watch nothing yet. -/
structure IsFresh (v : Service) : Prop where
  awake : v.inst.isMuted = false
  newest : ∀ key value version, v.inst.values.get? key = some (value, version) →
    version ≤ v.inst.valueVersion
  unwatched : ∀ n, (v.sessions n).watched = Dict.empty

theorem isMuted_act (v : Service) (a : Act) : (v.act a).1.inst.isMuted = v.inst.isMuted := by
  cases a with
  | broadcast key value => rfl
  | packet n p => exact (v.inst.handle_handled (v.sessions n) p).shared.2.2
  | push n => rfl

theorem IsFresh.agrees (h : v.IsFresh) (n : Nat) (key : String) :
    Agrees key (reading (v.view n key).value []) (v.view n key) := by
  have hunseen : (v.view n key).seen = none := by
    rw [view, h.unwatched]
    rfl
  constructor
  · rw [View.version, view]
    dsimp only
    cases hentry : v.inst.values.get? key with
    | none => exact Nat.zero_le _
    | some entry => exact h.newest key entry.1 entry.2 hentry
  · intro seen hseen
    rw [hunseen] at hseen
    cases hseen
  · rw [hunseen]
    rfl
  · rfl
  · intro hsettled
    cases hsettled
  · intro hseen
    rw [hunseen] at hseen
    cases hseen

/-- What holds of a story and a session goes on to hold in a run. -/
theorem agrees_run (hawake : v.inst.isMuted = false) (n : Nat) (key : String)
    (hagrees : Agrees key (reading value story) (v.view n key)) (hdue : Due value story)
    (acts : List Act) :
    Agrees key (reading value (story ++ v.story n key acts)) ((v.run acts).view n key) ∧
      Due value (story ++ v.story n key acts) := by
  induction acts generalizing v story with
  | nil =>
      rw [Service.story, List.append_nil]
      exact ⟨hagrees, hdue⟩
  | cons a acts ih =>
      have hmoves := act_moves hawake n key a
      have hstep := hagrees.step hmoves
      rw [← reading_append] at hstep
      have hstill : (v.act a).1.inst.isMuted = false := by rw [isMuted_act, hawake]
      rw [Service.story, ← List.append_assoc]
      exact ih hstill hstep (due_of_moves hdue hagrees hmoves)

theorem story_concat (v : Service) (n : Nat) (key : String) (acts : List Act) (a : Act) :
    v.story n key (acts ++ [a]) = v.story n key acts ++ (v.run acts).marks n key a := by
  induction acts generalizing v with
  | nil => exact List.append_nil _
  | cons first acts ih =>
      rw [List.cons_append, Service.story, ih, Service.story, List.append_assoc]
      rfl

theorem isMuted_run (v : Service) (acts : List Act) :
    (v.run acts).inst.isMuted = v.inst.isMuted := by
  induction acts generalizing v with
  | nil => rfl
  | cons a acts ih => exact (ih (v.act a).1).trans (isMuted_act v a)

/-- A session that was told is told no more as long as the value is not set and the session does not
stop watching. -/
theorem isSettled_of_quiet {between : List Mark} (hsettled : r.isSettled = true)
    (hset : ∀ x, Mark.set x ∉ between) (hunwatch : Mark.unwatch ∉ between) :
    (between.foldl Reading.after r).isSettled = true := by
  induction between generalizing r with
  | nil => exact hsettled
  | cons m rest ih =>
      refine ih ?_ (fun x hx => hset x (List.mem_cons_of_mem _ hx))
        (fun hmem => hunwatch (List.mem_cons_of_mem _ hmem))
      cases m with
      | set x => exact absurd List.mem_cons_self (hset x)
      | unwatch => exact absurd List.mem_cons_self hunwatch
      | watch => exact hsettled
      | told data => rfl

/-- Between two notifications of a session that did not stop watching the value was set. -/
theorem Due.set_between (h : Due value story) {before between after : List Mark}
    {first second : Option Value}
    (hsplit : story = before ++ .told first :: between ++ .told second :: after)
    (hunwatch : Mark.unwatch ∉ between) : ∃ x, Mark.set x ∈ between := by
  by_contra hnone
  have hset (x : Value) : Mark.set x ∉ between := fun hx => hnone ⟨x, hx⟩
  obtain ⟨-, -, hunsettled⟩ := h _ second after hsplit
  rw [reading_append, List.foldl_cons,
    isSettled_of_quiet (r := (reading value before).after (.told first)) rfl hset hunwatch]
    at hunsettled
  cases hunsettled

/-- The value of a key. -/
def valueOf (v : Service) (key : String) : Option Value := (v.inst.values.get? key).map Prod.fst

/-- A session that asks to watch a key that it does not watch is told its value at once. -/
theorem marks_of_watch {p : Packet} (hawake : v.inst.isMuted = false)
    (hkind : RequestType.ofCode? p.header.code = some .watch)
    (hkey : p.body.text? Key.eventKey = some key) (hunwatched : (v.view n key).seen = none) :
    v.marks n key (.packet n p) =
      .watch :: if Fits key (v.valueOf key) then [.told (v.valueOf key)] else [] := by
  have habsent : (v.sessions n).watched.get? key = none := hunwatched
  have hmarks : v.marks n key (.packet n p) =
      asked key p ++ tellings key (v.inst.handle (v.sessions n) p).2.2 := if_pos rfl
  have hasked : asked key p = [.watch] := by rw [asked_of_kind hkind, if_pos hkey]
  rw [hmarks, hasked, Instance.handle_watch hawake hkind]
  rcases v.inst.watch_cases (v.sessions n) p.body with ⟨-, hwatched⟩ | ⟨other, hother, -, hbegun⟩
  · have hcontains := hwatched key hkey
    rw [Dict.contains, habsent] at hcontains
    cases hcontains
  · rw [hkey] at hother
    cases hother
    have hvalue : (v.inst.values.get? key).map Prod.fst = v.valueOf key := rfl
    rw [hbegun, hvalue]
    dsimp only
    rw [tellings_notify, List.singleton_append]

/-- After a round of pushing a session was told last what there is of a key that it watches. -/
theorem lastTold_push (hawake : v.inst.isMuted = false)
    (hagrees : Agrees key (reading value story) (v.view n key))
    (hwatched : (reading value (story ++ v.marks n key (.push n))).isWatched = true)
    (hfits : Fits key (v.valueOf key)) :
    (reading value (story ++ v.marks n key (.push n))).lastTold = some (v.valueOf key) := by
  have hafter := hagrees.step (act_moves hawake n key (.push n))
  have hentry : ((v.act (.push n)).1.view n key).entry = (v.view n key).entry := by rw [view_push]
  have hversion : ((v.act (.push n)).1.view n key).version = (v.view n key).version := by
    rw [View.version, hentry, View.version]
  have hvalue : ((v.act (.push n)).1.view n key).value = v.valueOf key := by
    rw [View.value, hentry]
    rfl
  rw [← reading_append] at hafter
  rw [hafter.watched] at hwatched
  obtain ⟨seen, hseen⟩ := Option.isSome_iff_exists.1 hwatched
  have hle := hafter.seen seen hseen
  have hge := seen_push hseen
  have hsame : seen = ((v.act (.push n)).1.view n key).version := by omega
  have htold := hafter.told (hsame ▸ hseen)
  rw [hvalue] at htold
  exact htold hfits

/-- In every run of values set, packets and rounds of pushing, for every session and every key: what
a session is told of a key comes while it watches the key, and is the value that the key has then.
As it begins to watch, it is told the value at once; nothing comes of a value that fits no frame.
Between two notifications, unless it stopped watching, the value was set again.  And after a round
of pushing, what it was told last is the value that the key has, if that fits a frame, however often
the value was set. -/
theorem watched_keys_are_told (v : Service) (hfresh : v.IsFresh) (n : Nat) (key : String)
    (acts : List Act) :
    let start := v.valueOf key
    let story := v.story n key acts
    let current := (v.run acts).valueOf key
    let pushed := reading start (v.story n key (acts ++ [.push n]))
    ((reading start story).value = current ∧
      (reading start story).isWatched = ((v.run acts).sessions n).watched.contains key) ∧
    (∀ before data after, story = before ++ .told data :: after →
      (reading start before).isWatched = true ∧ data = (reading start before).value) ∧
    (∀ p, RequestType.ofCode? p.header.code = some .watch →
      p.body.text? Key.eventKey = some key → (reading start story).isWatched = false →
      v.story n key (acts ++ [.packet n p]) =
        story ++ .watch :: if Fits key current then [.told current] else []) ∧
    (∀ before first between second after,
      story = before ++ .told first :: between ++ .told second :: after →
      Mark.unwatch ∉ between → ∃ x, Mark.set x ∈ between) ∧
    (pushed.isWatched = true → Fits key current → pushed.lastTold = some current) := by
  intro start story current pushed
  have hawake : (v.run acts).inst.isMuted = false := by rw [isMuted_run, hfresh.awake]
  have hnone : Due start [] := fun before data after hsplit => by
    cases List.append_eq_nil_iff.1 hsplit.symm |>.2
  obtain ⟨hagrees, hdue⟩ : Agrees key (reading start story) ((v.run acts).view n key) ∧
      Due start story := agrees_run hfresh.awake n key (hfresh.agrees n key) hnone acts
  refine ⟨⟨hagrees.value, hagrees.watched⟩, fun before data after hsplit => ?_,
    fun p hkind hkey hunwatched => ?_, fun before first between second after hsplit hunwatch =>
    hdue.set_between hsplit hunwatch, fun hwatched hfits => ?_⟩
  · obtain ⟨hwatched, hvalue, -⟩ := hdue before data after hsplit
    exact ⟨hwatched, hvalue⟩
  · have hseen : ((v.run acts).view n key).seen = none := by
      have hnotSome := hagrees.watched
      rw [hunwatched] at hnotSome
      exact Option.isNone_iff_eq_none.1 (Option.isSome_eq_false_iff.1 hnotSome.symm)
    rw [story_concat, marks_of_watch hawake hkind hkey hseen]
  · have hpushed : pushed = reading start (story ++ (v.run acts).marks n key (.push n)) :=
      congrArg (reading start) (story_concat v n key acts (.push n))
    rw [hpushed] at hwatched ⊢
    exact lastTold_push hawake hagrees hwatched hfits

/-! ## Two changes that are sent as one -/

/-- An instance as it is set up, and sessions that have only been opened. -/
def opened : Service := ⟨{}, fun _ => ⟨[], "guest", .empty⟩⟩

/-- A value is watched, and then set twice. -/
def twoChanges : List Act :=
  [.broadcast "config" (.uint 1), .packet 0 ⟨Header.request .watch 1, Body.watch "config"⟩,
    .broadcast "config" (.uint 2), .broadcast "config" (.uint 3)]

theorem watched_keys_are_told_of_twoChanges :
    let story := opened.story 0 "config" (twoChanges ++ [.push 0])
    story = [.set (.uint 1), .watch, .told (some (.uint 1)), .set (.uint 2), .set (.uint 3),
        .told (some (.uint 3))] ∧
      (reading none story).lastTold = some (some (.uint 3)) := by
  intro story
  have hfresh : opened.IsFresh :=
    ⟨rfl, fun _ _ _ h => (by cases h), fun _ => rfl⟩
  have hstory : story = [.set (.uint 1), .watch, .told (some (.uint 1)), .set (.uint 2),
      .set (.uint 3), .told (some (.uint 3))] := by decide +kernel
  obtain ⟨-, -, -, -, htold⟩ := watched_keys_are_told opened hfresh 0 "config" twoChanges
  refine ⟨hstory, htold ?_ ?_⟩
  · decide +kernel
  · decide +kernel

end Service

end TupleWire

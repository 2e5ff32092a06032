/-
  The stories of the slots of a client.

  A slot of a client has a story from the moment the pool is started.
  `storyAt_eq_story` says that it is the story of that slot by itself, and
  `slots_tell_regular_stories` that it is regular, whatever happens to the
  client.
-/
import TupleWire.Proofs.Client.Closing
import TupleWire.Proofs.Config.Soundness
import TupleWire.Proofs.Pool.Regularity

set_option autoImplicit false

namespace TupleWire

/-! ## Names -/

namespace Pool

variable {groups : List Group}

theorem map_name_slotsOf (groups : List Group) : (slotsOf groups).map Slot.name =
    groups.flatMap fun group => (List.range group.size.toNat).map (group.tag, ·) := by
  rw [slotsOf, List.map_flatMap]
  simp [Slot.name, Function.comp_def]

/-- Groups of different tags make slots of different names. -/
theorem nodup_names_slotsOf (htags : (groups.map Group.tag).Nodup) :
    ((slotsOf groups).map Slot.name).Nodup := by
  rw [map_name_slotsOf, List.Nodup, List.pairwise_flatMap]
  refine ⟨fun group _ => ?_, ?_⟩
  · rw [List.pairwise_map]
    refine List.nodup_range.imp fun hne heq => hne ?_
    exact (Prod.mk.inj heq).2
  · refine (List.pairwise_map.1 htags).imp fun hne x hx y hy heq => hne ?_
    obtain ⟨_, _, rfl⟩ := List.mem_map.1 hx
    obtain ⟨_, _, rfl⟩ := List.mem_map.1 hy
    exact (Prod.mk.inj heq).1

end Pool

theorem ClientConfig.nodup_tags_of_validate {config : ClientConfig}
    (h : config.validate = .ok ()) : (config.groups.map Group.tag).Nodup :=
  (validate_eq_ok_iff.1 h).tags

/-! ## Stories in a pool -/

namespace Pool

/-- What is done to keep the slot in a position connected. -/
def dutyAt (p : Pool) (position : Nat) : Duty :=
  (p.slots[position]?).elim .stopped fun s => s.supervisor.duty

/-- What is noted of the slot in a position in the course of events. -/
def marksAt (position : Nat) (s : Slot) : Pool → List (Nat × Event) → List Mark
  | _, [] => []
  | p, (now, event) :: rest =>
      Mark.noted (p.dutyAt position) ((p.step now event).1.dutyAt position)
          (s.toldIn (p.step now event).2) ++
        marksAt position s (p.step now event).1 rest

/-- The story of the slot in a position, given what was told when the pool was started. -/
def storyAt (p : Pool) (position : Nat) (s : Slot) (first : List PoolEvent)
    (steps : List (Nat × Event)) : List Mark :=
  .dialed :: (s.toldIn first).map .told ++
    (if (p.dutyAt position).isAttempting then [.attempt] else []) ++
    p.marksAt position s steps

variable {p : Pool} {i now : Nat} {s t : Slot}

theorem dutyAt_of_slot (hs : p.slots[i]? = some s) (isClosed : Bool) :
    p.dutyAt i = (s.alone isClosed).duty := by
  rw [dutyAt, hs]
  rfl

theorem marksAt_congr (h : t.name = s.name) (p : Pool) (i : Nat) (steps : List (Nat × Event)) :
    p.marksAt i t steps = p.marksAt i s steps := by
  induction steps generalizing p with
  | nil => rfl
  | cons step rest ih => rw [marksAt, marksAt, Slot.toldIn_congr h, ih]

end Pool

/-- What is noted first, if anything happens first, and then the rest. -/
theorem LoneSlot.marks_toList_append (config : PoolConfig) (l : LoneSlot)
    (first : Option Occurrence) (rest : List Occurrence) :
    l.marks config (first.toList ++ rest) =
      Mark.noted l.duty (l.stepIf config first).1.duty (l.stepIf config first).2 ++
        (l.stepIf config first).1.marks config rest := by
  cases first with
  | none => simp [stepIf, Mark.noted]
  | some occurrence => rfl

namespace Pool

variable {p : Pool} {i now : Nat} {s : Slot}

/-- What is noted of a slot of a pool is what is noted of it by itself. -/
theorem marksAt_eq_marks (hnames : p.HasNames) (hs : p.slots[i]? = some s)
    (steps : List (Nat × Event)) :
    p.marksAt i s steps = (s.alone p.isClosed).marks p.config (p.occurrences i steps) := by
  induction steps generalizing p s with
  | nil => rfl
  | cons step rest ih =>
      obtain ⟨now, event⟩ := step
      have hstep := step_alone hnames now event
      obtain ⟨t, ht, hname, halone⟩ := hstep.alone hs
      have hlater := ih (hasNames_of_alone hnames hstep) ht
      rw [hstep.config] at hlater
      rw [marksAt, occurrences, LoneSlot.marks_toList_append, halone, ← marksAt_congr hname,
        hlater, dutyAt_of_slot hs p.isClosed, dutyAt_of_slot ht (p.step now event).1.isClosed]

theorem filterMap_marksAt (p : Pool) (i : Nat) (s : Slot) (steps : List (Nat × Event)) :
    (p.marksAt i s steps).filterMap Mark.told? = s.toldIn (p.run steps).2 := by
  induction steps generalizing p with
  | nil => rfl
  | cons step rest ih =>
      rw [marksAt, List.filterMap_append, LoneSlot.filterMap_noted, ih]
      exact (s.toldIn_append _ _).symm

/-- A story holds all that is told of its slot, in the order in which it is told. -/
theorem filterMap_storyAt (p : Pool) (i : Nat) (s : Slot) (first : List PoolEvent)
    (steps : List (Nat × Event)) :
    (p.storyAt i s first steps).filterMap Mark.told? = s.toldIn (first ++ (p.run steps).2) := by
  have htold : ((s.toldIn first).map Mark.told).filterMap Mark.told? = s.toldIn first := by
    rw [List.filterMap_map]
    simp [Function.comp_def, Mark.told?]
  have hattempt : (if (p.dutyAt i).isAttempting then [Mark.attempt] else []).filterMap Mark.told? =
      [] := by
    split
    · rfl
    · rfl
  rw [storyAt, List.cons_append, List.cons_append, List.filterMap_cons, List.filterMap_append,
    List.filterMap_append, htold, hattempt, filterMap_marksAt, List.append_nil, s.toldIn_append]
  rfl

end Pool

/-! ## The first attempts -/

/-- What becomes of a slot by its first attempt, and what is told of it. -/
def LoneSlot.settle (l : LoneSlot) : Except ClientError Connection → LoneSlot × List SlotEvent
  | .ok _ => (l.turnTo .watching, [.connected])
  | .error cause => (l, [.connectFailed cause])

/-- What becomes of a slot if its first attempt is among those that are looked at. -/
def LoneSlot.settleIf (l : LoneSlot) :
    Option (Except ClientError Connection) → LoneSlot × List SlotEvent
  | some result => l.settle result
  | none => (l, [])

theorem LoneSlot.group_settleIf (l : LoneSlot)
    (result : Option (Except ClientError Connection)) : (l.settleIf result).1.group = l.group := by
  rcases result with _ | _ | _ <;> rfl

theorem LoneSlot.index_settleIf (l : LoneSlot)
    (result : Option (Except ClientError Connection)) : (l.settleIf result).1.index = l.index := by
  rcases result with _ | _ | _ <;> rfl

namespace Pool

variable {p : Pool} {i now : Nat} {s : Slot}

theorem settle_sets (hs : p.slots[i]? = some s) (now : Nat)
    (result : Except ClientError Connection) :
    Sets p i s (p.settle now i s result) ((s.alone p.isClosed).settle result) := by
  cases result with
  | ok c => exact p.install_sets now i s c
  | error cause =>
      obtain ⟨hconfig, hclosed, hslot, _⟩ := still_sets hs
      exact ⟨hconfig, hclosed, hslot, rfl⟩

theorem names_settleFrom (p : Pool) (now position : Nat)
    (results : List (Except ClientError Connection)) :
    (p.settleFrom now position results).1.slots.map Slot.name = p.slots.map Slot.name := by
  induction results generalizing p position with
  | nil => rfl
  | cons result rest ih =>
      unfold settleFrom
      split
      · rfl
      · rename_i s hs
        exact (ih _ _).trans ((settle_sets hs now result).names hs)

/-- Every slot gets the result of its own attempt and nothing else. -/
theorem settleFrom_alone (hnames : p.HasNames) (hs : p.slots[i]? = some s) (now position : Nat)
    (results : List (Except ClientError Connection)) :
    ∃ t, (p.settleFrom now position results).1.slots[i]? = some t ∧ t.name = s.name ∧
      (t.alone (p.settleFrom now position results).1.isClosed,
          s.toldIn (p.settleFrom now position results).2) =
        (s.alone p.isClosed).settleIf
          (if position ≤ i then results[i - position]? else none) := by
  induction results generalizing p s position with
  | nil => exact ⟨s, hs, rfl, by simp [settleFrom, LoneSlot.settleIf, Slot.toldIn]⟩
  | cons result rest ih =>
      unfold settleFrom
      cases hat : p.slots[position]? with
      | none =>
          have hbelow : ¬ position ≤ i := by
            have hlt := (List.getElem?_eq_some_iff.1 hs).1
            have hge := List.getElem?_eq_none_iff.1 hat
            omega
          rw [if_neg hbelow]
          exact ⟨s, hs, rfl, rfl⟩
      | some s' =>
          have hsets := settle_sets hat now result
          have hlater : (p.settle now position s' result).1.HasNames := by
            rw [HasNames, hsets.names hat]
            exact hnames
          dsimp only
          by_cases hi : i = position
          · subst hi
            rw [hs] at hat
            cases hat
            obtain ⟨t, ht, hname, halone⟩ := hsets.there hs
            obtain ⟨u, hu, huname, hrest⟩ := ih hlater ht (i + 1)
            rw [if_neg (by omega), LoneSlot.settleIf] at hrest
            obtain ⟨huntouched, hsilent⟩ := Prod.mk.inj hrest
            rw [Slot.toldIn_congr hname] at hsilent
            refine ⟨u, hu, huname.trans hname, ?_⟩
            rw [s.toldIn_append, hsilent, List.append_nil, huntouched, if_pos (Nat.le_refl i),
              Nat.sub_self]
            exact halone
          · obtain ⟨hsame, hsilent⟩ := hsets.elsewhere hnames hat hs hi
            obtain ⟨u, hu, huname, hrest⟩ := ih hlater hsame (position + 1)
            refine ⟨u, hu, huname, ?_⟩
            rw [s.toldIn_append, hsilent, List.nil_append, hrest, hsets.isClosed]
            congr 1
            by_cases hle : position ≤ i
            · have hsucc : i - position = i - (position + 1) + 1 := by omega
              rw [if_pos hle, if_pos (by omega), hsucc, List.getElem?_cons_succ]
            · rw [if_neg hle, if_neg (by omega)]

variable {config : PoolConfig} {groups : List Group} {shared : Shared}
  {results : List (Except ClientError Connection)} {events : List PoolEvent}

/-- A slot as groups ask for it. -/
theorem alone_of_slotsOf (hs : (slotsOf groups)[i]? = some s) :
    s.alone false = .fresh s.group s.index (.attempting none) := by
  obtain ⟨group, _, hmem⟩ := List.mem_flatMap.1 (List.mem_of_getElem? hs)
  obtain ⟨index, _, rfl⟩ := List.mem_map.1 hmem
  rfl

theorem hasNames_of_start (htags : (groups.map Group.tag).Nodup)
    (hstart : start config groups shared now results = (.ok p, events)) : p.HasNames := by
  have hnames := names_settleFrom { config, slots := slotsOf groups, shared } now 0 results
  rw [settleFrom_of_start hstart] at hnames
  rw [HasNames, hnames]
  exact nodup_names_slotsOf htags

/-- A slot of a pool that was started is what its own first attempt made of it. -/
theorem start_alone (htags : (groups.map Group.tag).Nodup)
    (hstart : start config groups shared now results = (.ok p, events))
    (hs : p.slots[i]? = some s) :
    (∃ asked, (slotsOf groups)[i]? = some asked ∧ asked.group = s.group ∧ asked.index = s.index) ∧
      (s.alone p.isClosed, s.toldIn events) =
        (LoneSlot.fresh s.group s.index (.attempting none)).settleIf results[i]? := by
  have hsettled := settleFrom_of_start hstart
  have hnames := names_settleFrom { config, slots := slotsOf groups, shared } now 0 results
  rw [hsettled] at hnames
  have hlt : i < (slotsOf groups).length := by
    have hlength := congrArg List.length hnames
    rw [List.length_map, List.length_map] at hlength
    rw [← hlength]
    exact (List.getElem?_eq_some_iff.1 hs).1
  have hasked := List.getElem?_eq_getElem hlt
  generalize (slotsOf groups)[i] = asked at hasked
  obtain ⟨t, ht, hname, halone⟩ := settleFrom_alone
    (p := { config, slots := slotsOf groups, shared }) (nodup_names_slotsOf htags) hasked now 0
    results
  rw [hsettled] at ht halone
  rw [hs] at ht
  cases ht
  have hfresh : asked.alone false = .fresh asked.group asked.index (.attempting none) :=
    alone_of_slotsOf hasked
  have hfirst : (s.alone p.isClosed, s.toldIn events) =
      (LoneSlot.fresh asked.group asked.index (.attempting none)).settleIf results[i]? := by
    rw [Slot.toldIn_congr hname, halone, if_pos (Nat.zero_le i), Nat.sub_zero]
    exact congrArg (LoneSlot.settleIf · results[i]?) hfresh
  have hgroup := congrArg (fun lone => lone.1.group) hfirst
  have hindex := congrArg (fun lone => lone.1.index) hfirst
  dsimp only at hgroup hindex
  rw [LoneSlot.group_settleIf] at hgroup
  rw [LoneSlot.index_settleIf] at hindex
  refine ⟨⟨asked, hasked, hgroup.symm, hindex.symm⟩, ?_⟩
  rw [hfirst]
  show _ = (LoneSlot.fresh (s.alone p.isClosed).group (s.alone p.isClosed).index _).settleIf _
  rw [hgroup, hindex]
  rfl

/-- The story of a slot of a pool that was started is that of the slot by itself. -/
theorem storyAt_eq_story {result : Except ClientError Connection} (hnames : p.HasNames)
    (hs : p.slots[i]? = some s)
    (hfirst : (s.alone p.isClosed, s.toldIn events) =
      (LoneSlot.fresh s.group s.index (.attempting none)).settle result)
    (steps : List (Nat × Event)) : p.storyAt i s events steps =
      LoneSlot.story p.config s.group s.index result (p.occurrences i steps) := by
  obtain ⟨halone, htold⟩ := Prod.mk.inj hfirst
  rw [storyAt, marksAt_eq_marks hnames hs, dutyAt_of_slot hs p.isClosed, halone, htold]
  cases result with
  | ok c => rfl
  | error cause => rfl

end Pool

/-! ## Clients -/

namespace Client

section Regularity

variable {dial : Dialer} {host : Host} {config : ClientConfig} {hooks : ClientHooks}
  {client : Client}

/-- The result of a first attempt is what the network has for that slot. -/
theorem getElem?_dialAll (dial : Dialer) {slots : List Slot} {i : Nat} {s : Slot}
    (hs : slots[i]? = some s) (shared : Shared) : ∃ before,
      (dialAll dial slots shared).1[i]? = some (dial s.group s.index before).1 := by
  induction slots generalizing i shared with
  | nil => cases hs
  | cons first rest ih =>
      cases i with
      | zero =>
          cases hs
          exact ⟨shared, rfl⟩
      | succ i => exact ih hs _

/-- Every slot of every client tells a regular story, whatever happens to the client: operations of
its users, losses, attempts that succeed or fail, probes, and its end.  The story holds all that is
told of the slot, in order, and it is a function of what happens to that slot, and to the pool as a
whole, and of nothing that happens to another slot. -/
theorem slots_tell_regular_stories
    (hconnect : (connect dial host config hooks).result = .ok client)
    (steps : List (Nat × Pool.Event)) {i : Nat} {s : Slot} (hs : client.pool.slots[i]? = some s) :
    let events := (connect dial host config hooks).events
    let story := client.pool.storyAt i s events steps
    story.filterMap Mark.told? = s.toldIn (events ++ (client.pool.run steps).2) ∧
      Regular config.reconnectDelay story ∧
      ∃ shared, story = LoneSlot.story config.pool s.group s.index
        (dial s.group s.index shared).1 (client.pool.occurrences i steps) := by
  intro events story
  obtain ⟨hvalid, policy, metrics, _, hstarts⟩ := LiveClient.startPool_of_connect hconnect
  have hconfig := (LiveClient.opened_of_connect hconnect).config_eq
  rw [hstarts] at hconnect
  have hstart := LiveClient.start_of_startPool hconnect
  rw [← hstarts] at hstart
  have htags := ClientConfig.nodup_tags_of_validate hvalid
  obtain ⟨⟨asked, hasked, hgroup, hindex⟩, hfirst⟩ := Pool.start_alone htags hstart hs
  obtain ⟨shared, hresult⟩ := getElem?_dialAll dial hasked (sharedOf config metrics)
  rw [hresult, LoneSlot.settleIf, hgroup, hindex] at hfirst
  have hstory : story = LoneSlot.story config.pool s.group s.index
      (dial s.group s.index shared).1 (client.pool.occurrences i steps) := by
    rw [← hconfig]
    exact Pool.storyAt_eq_story (Pool.hasNames_of_start htags hstart) hs hfirst steps
  refine ⟨Pool.filterMap_storyAt _ i s events steps, ?_, shared, hstory⟩
  obtain ⟨l, hkeeps⟩ := LoneSlot.story_keeps config.pool s.group s.index
    (dial s.group s.index shared).1 (client.pool.occurrences i steps)
  rw [hstory]
  exact hkeeps.regular

end Regularity

/-! ## A client with losses, failures and probes -/

namespace Unrest

/-- Two connections to one instance; two probes make a window, one that fails makes it bad, and two
bad windows are the end. -/
def config : ClientConfig :=
  { groups := [{ tag := "default", host := "localhost", port := 3301, size := 2 }]
    heartbeat := some { windowSize := 2, invalidationThreshold := 1, deathThreshold := 2 } }

/-- A server that takes the first connection and refuses the second. -/
def dial : Dialer := fun group index shared =>
  if index = 0 then
    (.ok { tag := group.tag, index, salt := [], requestTimeout := .ofMillis 2000,
           lifecycle := .ready }, shared)
  else (.error (.network "refused"), shared)

/-- The client once it is connected. -/
def client : Client where
  config
  pool := (Pool.start config.pool config.groups (sharedOf config none) 0
    (dialAll dial (Pool.slotsOf config.groups) (sharedOf config none)).1).1.toOption.getD
      { config := config.pool, slots := [], shared := {} }
  policy := .roundRobin 0
  fetcher := some { policy := config.schema.versionPolicy }
  runtime := .owned 2

def slot : Slot :=
  (client.pool.slots[0]?).getD { group := { tag := "", host := "", port := 0 }, index := 0 }

/-- An answer to a request of a handshake. -/
def answered (sync : UInt64) (body : Body) : Pool.Event :=
  let packet : Packet := ⟨Header.response Status.ok sync 1, body⟩
  .handshake 0 (.conn (.receive ⟨packet.payload, packet⟩))

def greeting : Bytes := Greeting.encode ⟨"Tarantool 3.1.0", List.replicate 20 7⟩

/-- The first slot loses its connection, cannot be connected at once and is connected again; its
probes fail, and succeed, and fail until the end; then the client is closed.  Meanwhile the second
slot tries on. -/
def steps : List (Nat × Pool.Event) :=
  [(1, .unreachable 1 (.network "refused")), (2, .conn 0 .shutdown), (3, .lost 0), (4, .rested 1),
    (503, .rested 0), (504, .unreachable 0 (.network "refused")), (1004, .rested 0),
    (1005, .greeted 0 (.ofMillis 2000) greeting), (1006, answered 1 (Body.identify 3 .all)),
    (1007, answered 2 Body.empty), (2000, .probed 0 false), (2001, .probed 1 false),
    (3000, .probed 0 true), (4000, .probed 0 true), (5000, .probed 0 true),
    (6000, .probed 0 false), (7000, .probed 0 false), (8000, .probed 0 false),
    (9000, .probed 0 false), (10000, .probed 0 true), (10001, .lost 0), (10002, .close),
    (10003, .tearDown)]

/-- The story of the first slot. -/
def story : List Mark :=
  [.dialed, .told .connected, .told .disconnected, .told (.reconnecting (.ofMillis 500)), .attempt,
    .told (.connectFailed (.network "refused")), .told (.reconnecting (.ofMillis 500)), .attempt,
    .told .connected, .told .invalidated, .told .recovered, .told .invalidated, .told .evicted,
    .told .reinstated, .told .disconnected, .told (.reconnecting (.ofMillis 500))]

theorem slots_tell_regular_stories_of_unrest :
    client.pool.storyAt 0 slot (connect dial .bare config {}).events steps = story ∧
      story.filterMap Mark.told? = slot.toldIn
        ((connect dial .bare config {}).events ++ (client.pool.run steps).2) ∧
      Regular (.ofMillis 500) story := by
  have hconnect : (connect dial .bare config {}).result = .ok client := by
    rfl
  have hslot : client.pool.slots[0]? = some slot := by
    rfl
  have hstory : client.pool.storyAt 0 slot (connect dial .bare config {}).events steps = story := by
    decide +kernel
  obtain ⟨htold, hregular, _⟩ := slots_tell_regular_stories hconnect steps hslot
  rw [hstory] at htold hregular
  exact ⟨hstory, htold, hregular⟩

end Unrest

end Client

end TupleWire

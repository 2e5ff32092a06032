/-
  What watching through a pool leaves behind.

  A pool watches a key on all live connections or takes it back where it got to;
  what it takes back is the key, not what the key stood for before.  So a watch
  that fails leaves everything as it was if and only if nothing stood under the
  key where it was changed.  To stop watching a key is given up at the first
  connection that refuses, and the callbacks behind it stay.

  Here no two slots share a connection, which is so in every pool that was
  started (`Attended.apart`).
-/
import TupleWire.Proofs.Map.Dict
import TupleWire.Proofs.Pool.Broadcast

set_option autoImplicit false

namespace TupleWire.Pool

/-- The table of callbacks of a connection. -/
def callbacks? (p : Pool) (n : Nat) : Option (Dict String WatchCallback) :=
  p.conns[n]?.map Connection.watchers

/-- The callback that a connection holds for a key. -/
def callbackOf? (p : Pool) (n : Nat) (key : String) : Option WatchCallback :=
  p.conns[n]?.bind fun c => c.watchers.get? key

variable {p q : Pool} {now n : Nat} {key : String} {callback : WatchCallback}

/-! ## Live connections -/

theorem mem_live_iff : n ∈ p.live ↔ n ∈ p.installed ∧ p.isConnClosed n = false := by
  rw [live, unclosed, List.mem_filter, Bool.not_eq_true']

theorem nodup_live (h : p.installed.Nodup) : p.live.Nodup := h.filter _

/-- A live connection is there, and open. -/
theorem conn_of_mem_live (h : n ∈ p.live) : ∃ c, p.conns[n]? = some c ∧ c.isClosed = false := by
  obtain ⟨_, hopen⟩ := mem_live_iff.1 h
  unfold isConnClosed at hopen
  cases hc : p.conns[n]? with
  | none =>
      rw [hc] at hopen
      cases hopen
  | some c =>
      rw [hc] at hopen
      exact ⟨c, rfl, hopen⟩

/-- A connection that is live was live before. -/
theorem Ages.live {quiet : Prop} (h : Ages quiet p q) (hn : n ∈ q.live) : n ∈ p.live := by
  obtain ⟨hmem, hopen⟩ := mem_live_iff.1 hn
  rw [h.installed] at hmem
  refine mem_live_iff.2 ⟨hmem, ?_⟩
  exact Bool.eq_false_iff.2 (mt h.isConnClosed (Bool.eq_false_iff.1 hopen))

theorem accepts_watch_iff (h : n ∈ p.live) : p.accepts now (.watch key callback) n = true ↔
    ∀ c, p.conns[n]? = some c → c.CanAsk .watch key := by
  obtain ⟨c, hc, hopen⟩ := conn_of_mem_live h
  rw [accepts_of_conn hc, Connection.isOk_watch_iff hopen, hc]
  constructor
  · rintro hask _ ⟨⟩
    exact hask
  · intro hask
    exact hask c rfl

theorem accepts_unwatch_iff (h : n ∈ p.live) : p.accepts now (.unwatch key) n = true ↔
    ∀ c, p.conns[n]? = some c → c.CanAsk .unwatch key := by
  obtain ⟨c, hc, hopen⟩ := conn_of_mem_live h
  rw [accepts_of_conn hc, Connection.isOk_unwatch_iff hopen, hc]
  constructor
  · rintro hask _ ⟨⟩
    exact hask
  · intro hask
    exact hask c rfl

/-! ## A watch that fails -/

/-- Where a watch was begun and taken back, and where it was not reached. -/
structure TakenBack (p q : Pool) (now : Nat) (key : String) (callback : WatchCallback)
    (reached : List Nat) (refusing : Nat) (beyond : List Nat) : Prop where
  split : p.live = reached ++ refusing :: beyond
  accepted {n : Nat} : n ∈ reached → p.accepts now (.watch key callback) n = true
  refused : p.accepts now (.watch key callback) refusing = false
  watches : q.watches = (p.watches.insert key callback).erase key
  reached {n : Nat} {c : Connection} : n ∈ reached → p.conns[n]? = some c →
    q.callbacks? n = some ((c.watchers.insert key callback).erase key)
  refusing {c : Connection} : p.conns[refusing]? = some c → q.callbacks? refusing =
    some (if c.canWatch then c.watchers.insert key callback else c.watchers)
  beyond {n : Nat} : n ∈ beyond → q.callbacks? n = p.callbacks? n

theorem watchers_watch (c : Connection) : (c.act now (.watch key callback)).2.1.watchers =
    if c.canWatch then c.watchers.insert key callback else c.watchers := by
  obtain ⟨issued, hwatched⟩ := c.conn_watch now key callback
  rw [hwatched]

theorem watchers_unwatch (c : Connection) : (c.act now (.unwatch key)).2.1.watchers =
    if c.canWatch then c.watchers.erase key else c.watchers := by
  obtain ⟨issued, hunwatched⟩ := c.conn_unwatch now key
  rw [hunwatched]

theorem canWatch_watch (c : Connection) :
    (c.act now (.watch key callback)).2.1.canWatch = c.canWatch := by
  obtain ⟨issued, hwatched⟩ := c.conn_watch now key callback
  rw [hwatched]
  rfl

/-- The pool once it remembers a key. -/
def noted (p : Pool) (key : String) (callback : WatchCallback) : Pool :=
  { p with watches := p.watches.insert key callback }

/-- What becomes of a watch: one that was not accepted everywhere is taken back. -/
def takeBack (now : Nat) (key : String) : Delivery → Except ClientError Unit × Pool
  | (.ok (), _, q) => (.ok (), q)
  | (.error e, reached, q) =>
      (.error e, { q with
        watches := q.watches.erase key }.performAll now (.unwatch key) reached)

theorem watch_of_closed (hclosed : p.isClosed = true) :
    p.watch now key callback = (.error .poolClosed, p) := by
  have hcheck : p.checkOpen = .error .poolClosed := if_pos hclosed
  rw [watch, hcheck]

theorem watch_of_open (hopen : p.isClosed = false) :
    p.watch now key callback = takeBack now key
      (performEach now (.watch key callback) (p.noted key callback) p.installed) := by
  have hcheck : p.checkOpen = .ok () := by
    rw [checkOpen, hopen]
    rfl
  rcases heach : performEach now (.watch key callback) (p.noted key callback) p.installed with
    ⟨result, reached, q⟩
  have heach' : performEach now (.watch key callback)
      { p with watches := p.watches.insert key callback }
      { p with watches := p.watches.insert key callback }.installed = (result, reached, q) := heach
  unfold watch
  rw [hcheck]
  dsimp only
  rw [heach']
  cases result with
  | ok _ => rfl
  | error e => rfl

section Undone

variable {reached beyond : List Nat} {refusing : Nat} {c : Connection}

/-- The pool after a watch that got to some connections and was refused by the next one. -/
def undone (p : Pool) (now : Nat) (key : String) (callback : WatchCallback) (reached : List Nat)
    (refusing : Nat) : Pool :=
  let q := (p.noted key callback).performAll now (.watch key callback) (reached ++ [refusing])
  { q with watches := q.watches.erase key }.performAll now (.unwatch key) reached

theorem watches_undone : (p.undone now key callback reached refusing).watches =
    (p.watches.insert key callback).erase key := by
  rw [undone, watches_performAll]
  show Dict.erase (performAll _ now _ _).watches key = _
  rw [watches_performAll]
  rfl

theorem conns_undone (hdistinct : (reached ++ [refusing]).Nodup) (n : Nat) :
    (p.undone now key callback reached refusing).conns[n]? =
      if n ∈ reached then p.conns[n]?.map fun c =>
        ((c.act now (.watch key callback)).2.1.act now (.unwatch key)).2.1
      else if n = refusing then p.conns[n]?.map fun c => (c.act now (.watch key callback)).2.1
      else p.conns[n]? := by
  have hreached : reached.Nodup := (List.nodup_append.1 hdistinct).1
  rw [undone, conns_performAll hreached]
  show (if n ∈ reached then Option.map _ (performAll _ now _ _).conns[n]? else
    (performAll _ now _ _).conns[n]?) = _
  rw [conns_performAll hdistinct]
  by_cases hn : n ∈ reached
  · rw [if_pos hn, if_pos hn, if_pos (List.mem_append_left _ hn), Option.map_map]
    rfl
  · have hmem : n ∈ reached ++ [refusing] ↔ n = refusing := by
      rw [List.mem_append, or_iff_right hn, List.mem_singleton]
    rw [if_neg hn, if_neg hn]
    simp only [hmem]
    rfl

end Undone

/-- A watch on an open pool succeeds on every live connection or is taken back. -/
theorem watch_cases (hopen : p.isClosed = false) (hdistinct : p.installed.Nodup) (now : Nat)
    (key : String) (callback : WatchCallback) :
    ((∀ n ∈ p.live, p.accepts now (.watch key callback) n = true) ∧
      p.watch now key callback =
        (.ok (), (p.noted key callback).performAll now (.watch key callback) p.live)) ∨
    ∃ e reached refusing beyond,
      p.watch now key callback = (.error e, p.undone now key callback reached refusing) ∧
      p.live = reached ++ refusing :: beyond ∧
      (∀ n ∈ reached, p.accepts now (.watch key callback) n = true) ∧
      p.accepts now (.watch key callback) refusing = false := by
  have hspreads := performEach_spreads hdistinct (p.noted key callback) now (.watch key callback)
  have hsame (n : Nat) : (p.noted key callback).accepts now (.watch key callback) n =
      p.accepts now (.watch key callback) n := accepts_congr rfl
  rw [watch_of_open hopen]
  generalize performEach now (.watch key callback) (p.noted key callback) p.installed = outcome
    at hspreads ⊢
  cases hspreads with
  | whole haccepted =>
      left
      refine ⟨?_, rfl⟩
      intro n hn
      rw [← hsame]
      exact haccepted n hn
  | @cut reached beyond refusing e hsplit haccepted hrefused =>
      right
      refine ⟨e, reached, refusing, beyond, rfl, hsplit, ?_, ?_⟩
      · intro n hn
        rw [← hsame]
        exact haccepted n hn
      · rw [← hsame, accepts, hrefused]
        rfl

/-- What a failed watch leaves of the callbacks. -/
theorem takenBack_of_error (hopen : p.isClosed = false) (hdistinct : p.installed.Nodup)
    {e : ClientError} (hfailed : (p.watch now key callback).1 = .error e) :
    ∃ reached refusing beyond,
      TakenBack p (p.watch now key callback).2 now key callback reached refusing beyond := by
  rcases watch_cases hopen hdistinct now key callback with
    ⟨_, hok⟩ | ⟨_, reached, refusing, beyond, herror, hlive, haccepted, hrefused⟩
  · rw [hok] at hfailed
    cases hfailed
  · -- The parts of the broadcast share no connection, so each is changed in one way only.
    have hnodup := nodup_live hdistinct
    rw [hlive] at hnodup
    obtain ⟨_, hlater, happart⟩ := List.nodup_append.1 hnodup
    have hfirst : (reached ++ [refusing]).Nodup := by
      refine hnodup.sublist ?_
      exact (List.append_sublist_append_left reached).2 (by simp)
    have hout {n : Nat} (hn : n ∈ refusing :: beyond) : n ∉ reached := fun hmem =>
      happart n hmem n hn rfl
    rw [herror]
    refine ⟨reached, refusing, beyond, hlive, fun {n} hn => haccepted n hn, hrefused,
      watches_undone, ?_, ?_, ?_⟩
    · intro n c hn hc
      have hmem : n ∈ p.live := by
        rw [hlive]
        exact List.mem_append_left _ hn
      have hcan := ((accepts_watch_iff hmem).1 (haccepted n hn) c hc).1
      rw [callbacks?, conns_undone hfirst, if_pos hn, hc]
      simp only [Option.map_some, watchers_unwatch, canWatch_watch, watchers_watch, hcan, if_true]
    · intro c hc
      rw [callbacks?, conns_undone hfirst, if_neg (hout List.mem_cons_self), if_pos rfl, hc]
      simp only [Option.map_some, watchers_watch]
    · intro n hn
      have hother : n ≠ refusing := by
        rintro rfl
        exact (List.nodup_cons.1 hlater).1 hn
      rw [callbacks?, conns_undone hfirst, if_neg (hout (List.mem_cons_of_mem _ hn)),
        if_neg hother]
      rfl

/-- A watch that fails leaves the pool and its live connections exactly as they were if and only
if nothing was under its key where it was taken back, neither in what the pool remembers nor on a
connection that had accepted it, and the connection that refused it could not watch at all or had
that callback already. -/
theorem watch_undone_iff (hopen : p.isClosed = false) (hdistinct : p.installed.Nodup)
    {e : ClientError} (hfailed : (p.watch now key callback).1 = .error e) :
    ∃ reached refusing beyond, p.live = reached ++ refusing :: beyond ∧
      (∀ n ∈ reached, p.accepts now (.watch key callback) n = true) ∧
      p.accepts now (.watch key callback) refusing = false ∧
      (((p.watch now key callback).2.watches = p.watches ∧
          ∀ n ∈ p.live, (p.watch now key callback).2.callbacks? n = p.callbacks? n) ↔
        p.watches.get? key = none ∧ (∀ n ∈ reached, p.callbackOf? n key = none) ∧
          ∀ c, p.conns[refusing]? = some c → c.canWatch = true →
            c.watchers.get? key = some callback) := by
  obtain ⟨reached, refusing, beyond, h⟩ := takenBack_of_error hopen hdistinct hfailed
  have hthere {n : Nat} (hn : n ∈ reached ++ refusing :: beyond) :
      ∃ c, p.conns[n]? = some c := by
    rw [← h.split] at hn
    obtain ⟨c, hc, _⟩ := conn_of_mem_live hn
    exact ⟨c, hc⟩
  have hreached {n : Nat} (hn : n ∈ reached) :
      (p.watch now key callback).2.callbacks? n = p.callbacks? n ↔
        p.callbackOf? n key = none := by
    obtain ⟨c, hc⟩ := hthere (List.mem_append_left _ hn)
    rw [h.reached hn hc, callbacks?, callbackOf?, hc]
    exact Option.some_inj.trans Dict.erase_insert_eq_self_iff
  have hrefusing : (p.watch now key callback).2.callbacks? refusing = p.callbacks? refusing ↔
      ∀ c, p.conns[refusing]? = some c → c.canWatch = true →
        c.watchers.get? key = some callback := by
    obtain ⟨c, hc⟩ := hthere (n := refusing) (by simp)
    rw [h.refusing hc, callbacks?, hc, Option.map_some, Option.some_inj]
    cases hcan : c.canWatch with
    | true =>
        rw [if_pos rfl, Dict.insert_eq_self_iff]
        constructor
        · rintro hsame _ ⟨⟩ _
          exact hsame
        · intro hsame
          exact hsame c rfl hcan
    | false =>
        rw [if_neg (by simp)]
        constructor
        · rintro _ _ ⟨⟩ htrue
          rw [hcan] at htrue
          cases htrue
        · intro _
          rfl
  refine ⟨reached, refusing, beyond, h.split, fun n hn => h.accepted hn, h.refused, ?_⟩
  rw [h.watches, Dict.erase_insert_eq_self_iff, h.split]
  constructor
  · rintro ⟨hforgotten, hsame⟩
    refine ⟨hforgotten, ?_, ?_⟩
    · intro n hn
      exact (hreached hn).1 (hsame n (List.mem_append_left _ hn))
    · exact hrefusing.1 (hsame refusing (by simp))
  · rintro ⟨hforgotten, hnone, hown⟩
    refine ⟨hforgotten, ?_⟩
    intro n hn
    rcases List.mem_append.1 hn with hn | hn
    · exact (hreached hn).2 (hnone n hn)
    · rcases List.mem_cons.1 hn with rfl | hn
      · exact hrefusing.2 hown
      · exact h.beyond hn

/-! ## Watching no longer -/

theorem unwatch_of_closed (hclosed : p.isClosed = true) :
    p.unwatch now key = (.error .poolClosed, p) := by
  have hcheck : p.checkOpen = .error .poolClosed := if_pos hclosed
  rw [unwatch, hcheck]

theorem unwatch_of_open (hopen : p.isClosed = false) :
    p.unwatch now key =
      let outcome := performEach now (.unwatch key)
        { p with watches := p.watches.erase key } p.installed
      (outcome.1, outcome.2.2) := by
  have hcheck : p.checkOpen = .ok () := by
    rw [checkOpen, hopen]
    rfl
  unfold unwatch
  rw [hcheck]
  rfl

/-- To stop watching on an open pool acts on every live connection, or on those up to the first
that refuses. -/
theorem unwatch_cases (hopen : p.isClosed = false) (hdistinct : p.installed.Nodup) (now : Nat)
    (key : String) :
    ∃ touched, (p.unwatch now key).2 =
        { p with watches := p.watches.erase key }.performAll now (.unwatch key) touched ∧
      ((touched = p.live ∧ ∀ n ∈ p.live, p.accepts now (.unwatch key) n = true) ∨
        ∃ reached refusing beyond, touched = reached ++ [refusing] ∧
          p.live = reached ++ refusing :: beyond ∧
          (∀ n ∈ reached, p.accepts now (.unwatch key) n = true) ∧
          p.accepts now (.unwatch key) refusing = false) := by
  have hspreads := performEach_spreads hdistinct { p with watches := p.watches.erase key } now
    (.unwatch key)
  have hsame (n : Nat) : { p with watches := p.watches.erase key }.accepts now (.unwatch key) n =
      p.accepts now (.unwatch key) n := accepts_congr rfl
  rw [unwatch_of_open hopen]
  generalize performEach now (.unwatch key) { p with watches := p.watches.erase key }
    p.installed = outcome at hspreads ⊢
  cases hspreads with
  | whole haccepted =>
      refine ⟨p.live, rfl, .inl ⟨rfl, ?_⟩⟩
      intro n hn
      rw [← hsame]
      exact haccepted n hn
  | @cut reached beyond refusing e hsplit haccepted hrefused =>
      refine ⟨reached ++ [refusing], rfl, .inr ⟨reached, refusing, beyond, rfl, hsplit, ?_, ?_⟩⟩
      · intro n hn
        rw [← hsame]
        exact haccepted n hn
      · rw [← hsame, accepts, hrefused]
        rfl

/-- Whether a live connection stands before another one. -/
def Precedes (p : Pool) (m n : Nat) : Prop := List.Sublist [m, n] p.live

section Order

variable {reached beyond : List Nat} {refusing m : Nat}

/-- What stands before one of the first connections is one of those as well. -/
theorem mem_reached_of_sublist (hdistinct : (reached ++ refusing :: beyond).Nodup)
    (hn : n ∈ reached ++ [refusing])
    (h : List.Sublist [m, n] (reached ++ refusing :: beyond)) : m ∈ reached := by
  have hbehind : n ∉ beyond := by
    intro hmem
    rw [List.append_cons] at hdistinct
    exact (List.nodup_append.1 hdistinct).2.2 n hn n hmem rfl
  obtain ⟨first, second, heq, hfirst, hsecond⟩ := List.sublist_append_iff.1 h
  cases first with
  | cons k rest =>
      obtain ⟨rfl, _⟩ := List.cons.inj heq
      exact hfirst.subset List.mem_cons_self
  | nil =>
      -- Both would be found from the refusing one on, and the later of them behind it.
      cases heq
      have hlater : List.Sublist [n] beyond := by
        cases hsecond with
        | cons _ hsub => exact (List.sublist_cons_self m [n]).trans hsub
        | cons_cons _ hsub => exact hsub
      exact absurd (List.singleton_sublist.1 hlater) hbehind

/-- The one that refuses stands before all that were not reached. -/
theorem refusing_precedes (hsplit : p.live = reached ++ refusing :: beyond) (hn : n ∈ beyond) :
    p.Precedes refusing n := by
  have hpair : List.Sublist [refusing, n] (refusing :: beyond) :=
    (List.singleton_sublist.2 hn).cons_cons refusing
  rw [Precedes, hsplit]
  exact hpair.trans (List.sublist_append_right _ _)

end Order

/-- A broadcast that asks to watch a key no longer gets to a live connection if and only if no
connection before it refuses. -/
theorem unwatch_reaches (hopen : p.isClosed = false) (hdistinct : p.installed.Nodup) (now : Nat)
    (key : String) :
    ∃ touched, (p.unwatch now key).2 =
        { p with watches := p.watches.erase key }.performAll now (.unwatch key) touched ∧
      touched.Nodup ∧ ∀ n ∈ p.live, n ∈ touched ↔
        ∀ m, p.Precedes m n → p.accepts now (.unwatch key) m = true := by
  have hnodup := nodup_live hdistinct
  obtain ⟨touched, heq, ⟨rfl, haccepted⟩ |
    ⟨reached, refusing, beyond, rfl, hsplit, haccepted, hrefused⟩⟩ :=
    unwatch_cases hopen hdistinct now key
  · refine ⟨p.live, heq, hnodup, ?_⟩
    intro n hn
    constructor
    · intro _ m hm
      exact haccepted m (hm.subset List.mem_cons_self)
    · intro _
      exact hn
  · refine ⟨reached ++ [refusing], heq, ?_, ?_⟩
    · rw [hsplit, List.append_cons] at hnodup
      exact (List.nodup_append.1 hnodup).1
    · intro n hn
      constructor
      · intro htouched m hm
        rw [Precedes, hsplit] at hm
        rw [hsplit] at hnodup
        exact haccepted m (mem_reached_of_sublist hnodup htouched hm)
      · intro hbefore
        rw [hsplit, List.append_cons] at hn
        rcases List.mem_append.1 hn with hn | hn
        · exact hn
        · have hrefusing := hbefore refusing (refusing_precedes hsplit hn)
          rw [hrefused] at hrefusing
          cases hrefusing

/-- A connection once it was asked to stop watching a key, if it was. -/
theorem callbackOf?_unwatched {touched : List Nat} (htouched : touched.Nodup) {c : Connection}
    (hc : p.conns[n]? = some c) :
    ({ p with watches := p.watches.erase key }.performAll now (.unwatch key) touched).callbackOf? n
        key = none ↔
      p.callbackOf? n key = none ∨ n ∈ touched ∧ c.canWatch = true := by
  rw [callbackOf?, callbackOf?, conns_performAll htouched, hc]
  by_cases hn : n ∈ touched
  · simp only [hn, if_true, Option.map_some, Option.bind_some, watchers_unwatch, true_and]
    cases hcan : c.canWatch with
    | true => simp [Dict.get?_erase]
    | false => simp
  · simp only [hn, if_false, Option.bind_some, false_and, or_false]

theorem isClosed_unwatch (c : Connection) :
    (c.act now (.unwatch key)).2.1.isClosed = c.isClosed := by
  obtain ⟨issued, hunwatched⟩ := c.conn_unwatch now key
  rw [hunwatched]
  rfl

/-- To stop watching leaves the same connections live. -/
theorem live_unwatch (hopen : p.isClosed = false) (hdistinct : p.installed.Nodup) :
    (p.unwatch now key).2.live = p.live := by
  obtain ⟨touched, heq, htouched, _⟩ := unwatch_reaches hopen hdistinct now key
  have hages : Ages False { p with watches := p.watches.erase key }
      ({ p with watches := p.watches.erase key }.performAll now (.unwatch key) touched) :=
    performAll_ages False.elim _ now touched
  rw [heq, live, unclosed, hages.installed]
  apply List.filter_congr
  intro n _
  rw [isConnClosed, conns_performAll htouched, isConnClosed]
  split
  · cases p.conns[n]? with
    | none => rfl
    | some c => exact congrArg not (isClosed_unwatch c)
  · rfl

/-- Once a key is given up the pool no longer remembers it.  No live connection holds a callback
for it any more if and only if each that held one has agreed on watching and none that stands
before it refuses. -/
theorem unwatch_clears_iff (hopen : p.isClosed = false) (hdistinct : p.installed.Nodup) (now : Nat)
    (key : String) :
    (p.unwatch now key).2.watches.get? key = none ∧
      ((∀ n ∈ (p.unwatch now key).2.live, (p.unwatch now key).2.callbackOf? n key = none) ↔
        ∀ n ∈ p.live, p.callbackOf? n key ≠ none →
          (∀ c, p.conns[n]? = some c → c.canWatch = true) ∧
            ∀ m, p.Precedes m n → ∀ c, p.conns[m]? = some c → c.CanAsk .unwatch key) := by
  obtain ⟨touched, heq, htouched, hreached⟩ :=
    unwatch_reaches hopen hdistinct now key
  rw [live_unwatch hopen hdistinct]
  refine ⟨?_, ?_⟩
  · rw [heq, watches_performAll]
    exact (Dict.get?_erase _ _ _).trans (if_pos rfl)
  · refine forall₂_congr ?_
    intro n hn
    obtain ⟨c, hc, _⟩ := conn_of_mem_live hn
    have hbefore : n ∈ touched ↔
        ∀ m, p.Precedes m n → ∀ d, p.conns[m]? = some d → d.CanAsk .unwatch key := by
      rw [hreached n hn]
      refine forall₂_congr ?_
      intro m hm
      exact accepts_unwatch_iff (hm.subset List.mem_cons_self)
    have hcan : (∀ d, p.conns[n]? = some d → d.canWatch = true) ↔ c.canWatch = true := by
      simp [hc]
    rw [heq, callbackOf?_unwatched htouched hc, hbefore, hcan, and_comm, ne_eq]
    exact Decidable.or_iff_not_imp_left

/-! ## A server without watching that was away -/

namespace Straggler

/-- Three instances; the one in the middle knows of no watching. -/
def groups : List Group :=
  [{ tag := "first", host := "localhost", port := 3301, size := 1 },
    { tag := "old", host := "localhost", port := 3302, size := 1 },
    { tag := "last", host := "localhost", port := 3303, size := 1 }]

/-- What is watched is watched on new connections as well. -/
def config : PoolConfig := ⟨.ofMillis 10, false, .ofMillis 0, true, ⟨2, 1, 2⟩⟩

/-- A connection that is ready. -/
def conn (tag : String) (negotiated : Negotiated) : Connection :=
  { tag, index := 0, salt := [], requestTimeout := .ofMillis 1000, lifecycle := .ready, negotiated }

/-- An answer without data, or with an error. -/
def answer (code : UInt32) (sync : UInt64) : ReceivedPacket :=
  ⟨[], ⟨⟨code, sync, some 1, none⟩, Body.empty⟩⟩

/-- While the old instance is away a key is watched on the other two; then it is back, and does not
know the request that asks for its features. -/
def steps : List (Nat × Event) :=
  [(1, .conn 1 .shutdown), (2, .watch "config" ⟨1⟩), (3, .lost 1), (4, .rested 1),
    (5, .greeted 1 (.ofMillis 1000) (Greeting.encode ⟨"Tarantool", List.replicate 20 0⟩)),
    (6, .handshake 1 (.conn (.receive (answer 0x8030 1)))),
    (7, .handshake 1 (.conn (.receive (answer 0 2))))]

/-- The pool after that. -/
def pool : Pool :=
  let started := start config groups {} 0
    [.ok (conn "first" ⟨6, .all⟩), .ok (conn "old" .nothing), .ok (conn "last" ⟨6, .all⟩)]
  ((started.1.toOption.getD { config, slots := [], shared := {} }).run steps).1

theorem isOpen_pool : pool.isClosed = false ∧ pool.installed = [0, 3, 2] := by
  decide +kernel

/-- A second watch of the same key fails, and the first one is forgotten: by the pool, and on the
connection before the old one. -/
theorem watch_of_watched_key : (pool.watch 8 "config" ⟨2⟩).1.isOk = false ∧
    pool.watches.get? "config" = some ⟨1⟩ ∧
    (pool.watch 8 "config" ⟨2⟩).2.watches.get? "config" = none ∧
    pool.callbackOf? 0 "config" = some ⟨1⟩ ∧
    (pool.watch 8 "config" ⟨2⟩).2.callbackOf? 0 "config" = none := by
  decide +kernel

/-- The failed watch is not undone, for its key was watched already. -/
theorem watch_undone_iff_of_watched_key : ∃ e, (pool.watch 8 "config" ⟨2⟩).1 = .error e ∧
    ¬ ((pool.watch 8 "config" ⟨2⟩).2.watches = pool.watches ∧
      ∀ n ∈ pool.live, (pool.watch 8 "config" ⟨2⟩).2.callbacks? n = pool.callbacks? n) := by
  obtain ⟨hopen, hinstalled⟩ := isOpen_pool
  have hdistinct : pool.installed.Nodup := by
    rw [hinstalled]
    decide
  have hrefused : (pool.watch 8 "config" ⟨2⟩).1.isOk = false := by decide +kernel
  have hwatched : pool.watches.get? "config" = some ⟨1⟩ := by decide +kernel
  cases hfailed : (pool.watch 8 "config" ⟨2⟩).1 with
  | ok result =>
      rw [hfailed] at hrefused
      cases hrefused
  | error e =>
      refine ⟨e, rfl, ?_⟩
      intro hsame
      obtain ⟨reached, refusing, beyond, _, _, _, hiff⟩ := watch_undone_iff hopen hdistinct hfailed
      have hforgotten := (hiff.1 hsame).1
      rw [hwatched] at hforgotten
      cases hforgotten

/-- The key is given up, and the connection behind the old one goes on watching it. -/
theorem unwatch_of_watched_key : (pool.unwatch 8 "config").1.isOk = false ∧
    2 ∈ (pool.unwatch 8 "config").2.live ∧
    (pool.unwatch 8 "config").2.callbackOf? 2 "config" = some ⟨1⟩ := by
  decide +kernel

/-- Not every callback is gone, for one is on a connection behind the old one. -/
theorem unwatch_clears_iff_of_watched_key :
    (pool.unwatch 8 "config").2.watches.get? "config" = none ∧
      ¬ ∀ n ∈ (pool.unwatch 8 "config").2.live,
        (pool.unwatch 8 "config").2.callbackOf? n "config" = none := by
  obtain ⟨hopen, hinstalled⟩ := isOpen_pool
  have hdistinct : pool.installed.Nodup := by
    rw [hinstalled]
    decide
  have hlive : pool.live = [0, 3, 2] := by decide +kernel
  have hheld : pool.callbackOf? 2 "config" ≠ none := by decide +kernel
  have hold : (pool.conns[3]?.map Connection.canWatch) = some false := by decide +kernel
  obtain ⟨hforgotten, hiff⟩ :=
    unwatch_clears_iff hopen hdistinct 8 "config"
  refine ⟨hforgotten, ?_⟩
  intro hclear
  have hbefore : pool.Precedes 3 2 := by
    rw [Precedes, hlive]
    exact List.sublist_cons_self 0 [3, 2]
  have htwo : 2 ∈ pool.live := by
    rw [hlive]
    simp
  obtain ⟨c, hc, hcan⟩ := Option.map_eq_some_iff.1 hold
  obtain ⟨hable, _⟩ := (hiff.1 hclear 2 htwo hheld).2 3 hbefore c hc
  rw [hcan] at hable
  cases hable

end Straggler

end TupleWire.Pool

/-
  Lookups side by side.

  Any number of lookups share one fetcher.  One of them fetches at a time, and
  the others wait for their turn.  `Lookups.step` takes one step of one lookup,
  or a change from outside; a step that is not possible now changes nothing.
-/
import TupleWire.Schema.Fetcher

set_option autoImplicit false

namespace TupleWire

/-- Where a lookup is. -/
inductive LookupPhase where
  | idle
  /-- it waits for its turn, having seen a generation -/
  | waiting (reason : FetchReason) (seen : Nat)
  /-- it fetches -/
  | fetching (reason : FetchReason)
  | done (result : Except ClientError Resolution)

/-- One lookup among others. -/
structure Lookup where
  query : Query
  phase : LookupPhase := .idle

/-- Lookups that share a fetcher. -/
structure Lookups where
  fetcher : Fetcher
  tracker : SchemaTracker
  lookups : List Lookup
  /-- fetches that were begun -/
  begun : Nat := 0

namespace Lookups

/-- Something that happens; lookups are told apart by their positions. -/
inductive Event where
  /-- a lookup goes on as far as it can without a response -/
  | advance (position : Nat)
  /-- the rows that a lookup fetches are there, or could not be fetched -/
  | fetched (position : Nat) (rows : Except ClientError FetchedRows)
  | invalidate
  | observe (version : UInt64)

/-- Puts a lookup into a phase. -/
def setPhase (ls : Lookups) (position : Nat) (phase : LookupPhase) : Lookups :=
  { ls with lookups := ls.lookups.modify position fun l => { l with phase } }

/-- A lookup goes on: it begins, or takes its turn if nobody is fetching. -/
def advance (ls : Lookups) (position : Nat) (l : Lookup) : Lookups :=
  match l.phase with
  | .idle =>
      match ls.fetcher.begin ls.tracker l.query with
      | .ok resolution => ls.setPhase position (.done (.ok resolution))
      | .error reason =>
          ls.setPhase position (.waiting reason ls.fetcher.snapshot.generation)
  | .waiting reason seen =>
      if ls.fetcher.isBusy then ls
      else match ls.fetcher.enter ls.tracker l.query reason seen with
        | (fetcher, some result) => { ls with fetcher }.setPhase position (.done result)
        | (fetcher, none) =>
            { ls with fetcher, begun := ls.begun + 1 }.setPhase position (.fetching reason)
  | .fetching _ | .done _ => ls

/-- The rows of a lookup that fetches are there. -/
def complete (ls : Lookups) (position : Nat) (l : Lookup)
    (rows : Except ClientError FetchedRows) : Lookups :=
  match l.phase with
  | .fetching reason =>
      let (fetcher, tracker, result) := ls.fetcher.finish ls.tracker l.query reason rows
      { ls with fetcher, tracker }.setPhase position (.done result)
  | _ => ls

/-- Takes an event into account. -/
def step (ls : Lookups) : Event → Lookups
  | .advance position =>
      match ls.lookups[position]? with
      | some l => ls.advance position l
      | none => ls
  | .fetched position rows =>
      match ls.lookups[position]? with
      | some l => ls.complete position l rows
      | none => ls
  | .invalidate => { ls with fetcher := ls.fetcher.invalidate }
  | .observe version => { ls with tracker := ls.tracker.observe version }

/-- Takes events into account, one after the other. -/
def run (ls : Lookups) (events : List Event) : Lookups := events.foldl step ls

end Lookups

end TupleWire

/-
  Request types and select iterators, with their codes.

  `RequestType.ofCode?_code` says that a code determines its request type.
-/

set_option autoImplicit false

namespace TupleWire

/-- What a request asks for. -/
inductive RequestType where
  | select
  | insert
  | replace
  | update
  | delete
  | auth
  | eval
  | upsert
  | call
  | begin
  | commit
  | rollback
  | ping
  | id
  | watch
  | unwatch
  | event
  | watchOnce
  deriving DecidableEq, Repr, Inhabited

namespace RequestType

/-- The code of a request type. -/
def code : RequestType → UInt32
  | select => 1
  | insert => 2
  | replace => 3
  | update => 4
  | delete => 5
  | auth => 7
  | eval => 8
  | upsert => 9
  | call => 10
  | begin => 14
  | commit => 15
  | rollback => 16
  | ping => 64
  | id => 73
  | watch => 74
  | unwatch => 75
  | event => 76
  | watchOnce => 77

/-- The name of a request type in diagnostics. -/
def name : RequestType → String
  | select => "Select"
  | insert => "Insert"
  | replace => "Replace"
  | update => "Update"
  | delete => "Delete"
  | auth => "Auth"
  | eval => "Eval"
  | upsert => "Upsert"
  | call => "Call"
  | begin => "Begin"
  | commit => "Commit"
  | rollback => "Rollback"
  | ping => "Ping"
  | id => "Id"
  | watch => "Watch"
  | unwatch => "Unwatch"
  | event => "Event"
  | watchOnce => "WatchOnce"

/-- Every request type, in ascending order of its code. -/
def all : List RequestType :=
  [select, insert, replace, update, delete, auth, eval, upsert, call, begin, commit, rollback,
    ping, id, watch, unwatch, event, watchOnce]

/-- The request type with a code, if there is one. -/
def ofCode? (c : UInt32) : Option RequestType :=
  all.find? fun kind => kind.code == c

/-- Whether the server answers; it never answers the two subscription requests. -/
def expectsResponse : RequestType → Bool
  | watch | unwatch => false
  | _ => true

theorem ofCode?_code (kind : RequestType) : ofCode? kind.code = some kind := by
  cases kind <;> decide

theorem code_injective {kind other : RequestType} (h : kind.code = other.code) : kind = other := by
  have hcodes := congrArg ofCode? h
  rw [ofCode?_code, ofCode?_code] at hcodes
  exact Option.some.inj hcodes

end RequestType

/-- How a select walks its index. -/
inductive IteratorType where
  | eq
  | req
  | all
  | lt
  | le
  | ge
  | gt
  deriving DecidableEq, Repr, Inhabited

/-- The code of an iterator. -/
def IteratorType.code : IteratorType → UInt32
  | eq => 0
  | req => 1
  | all => 2
  | lt => 3
  | le => 4
  | ge => 5
  | gt => 6

end TupleWire

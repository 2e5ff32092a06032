/-
  Instance groups: an instance and the connections that are kept to it.

  A group can be made from an address `host:port`.  The last colon divides the
  two, and the port is a decimal number of sixteen bits, with a plus sign
  allowed before it.
-/

set_option autoImplicit false

namespace TupleWire

/-- One instance and the connections kept to it. -/
structure Group where
  /-- the name by which selections and messages refer to the group -/
  tag : String
  host : String
  port : UInt16
  /-- the number of connections -/
  size : UInt64 := 1
  user : String := "guest"
  password : String := ""
  deriving DecidableEq, Repr

namespace Group

/-- The user of a session that never authenticates. -/
def guest : String := "guest"

/-- The address of the instance. -/
def addr (g : Group) : String := s!"{g.host}:{g.port.toNat}"

/-- Whether a session has to authenticate: the guest with an empty password does not. -/
def needsAuth (g : Group) : Bool := !(g.user == guest && g.password == "")

/-! ## Addresses -/

/-- The value of a decimal digit. -/
def digit? (c : Char) : Option Nat :=
  if '0' ≤ c ∧ c ≤ '9' then some (c.toNat - '0'.toNat) else none

/-- The number that decimal digits denote; at least one is needed. -/
def decimal? (digits : List Char) : Option Nat :=
  if digits.isEmpty then none
  else digits.foldlM (fun acc c => (digit? c).map (acc * 10 + ·)) 0

/-- The port that a text denotes. -/
def port? (text : List Char) : Option UInt16 :=
  let digits := match text with
    | '+' :: digits => digits
    | digits => digits
  match decimal? digits with
  | some n => if n < 65536 then some (UInt16.ofNat n) else none
  | none => none

/-- What is before and after the last colon. -/
def splitLastColon? (text : List Char) : Option (List Char × List Char) :=
  let back := text.reverse
  match back.dropWhile (· != ':') with
  | _ :: front => some (front.reverse, (back.takeWhile (· != ':')).reverse)
  | [] => none

/-- The group of one guest connection to an address. -/
def ofAddr? (tag addr : String) : Option Group :=
  match splitLastColon? addr.toList with
  | some (host, port) => (port? port).map fun port => { tag, host := String.ofList host, port }
  | none => none

end Group

end TupleWire

/-
  Packet bodies.

  A body maps keys of one byte to values.  On the wire it is a map, or nil, or
  nothing at all; entries under keys that do not fit a byte are dropped, and of
  two entries under one key the later counts.
-/
import TupleWire.Map.Sorted
import TupleWire.Packet.Key
import TupleWire.Packet.Fault

set_option autoImplicit false

namespace TupleWire

/-- The body of a packet. -/
abbrev Body : Type := SortedMap UInt8 Value

namespace Body

/-- The body without entries. -/
def empty : Body := SortedMap.empty

/-! ## Reading entries -/

/-- A string entry. -/
def text? (body : Body) (key : UInt8) : Option String := (body.get? key).bind Value.asText?

/-- An integer entry. -/
def uint? (body : Body) (key : UInt8) : Option UInt64 := (body.get? key).bind Value.asUInt?

/-- An array entry; empty if there is none. -/
def items (body : Body) (key : UInt8) : List Value :=
  ((body.get? key).bind Value.asArray?).getD []

/-- The data of a response, if it is an array. -/
def data? (body : Body) : Option (List Value) := (body.get? Key.data).bind Value.asArray?

/-- The data of a response as a list: the elements of an array, or the one value that is there. -/
def dataItems (body : Body) : List Value :=
  match body.get? Key.data with
  | some (.array items) => items
  | some other => [other]
  | none => []

/-- The message on top of the extended error's stack. -/
def stackMessage? (body : Body) : Option String := do
  let error ← body.get? Key.error
  let stack ← error.lookup? Key.errorStack
  let top ← (← stack.asArray?).head?
  (← top.lookup? Key.errorMessage).asText?

/-- The message of an error response: of the extended error if it has one, else the plain one. -/
def errorMessage? (body : Body) : Option String :=
  body.stackMessage? <|> body.text? Key.errorText

/-! ## Wire form -/

/-- The map that stands for a body. -/
def toValue (body : Body) : Value :=
  .map (body.entries.map fun e => (.byte e.1, e.2))

/-- Takes one more wire entry into account. -/
def add (body : Body) (entry : Value × Value) : Except BodyFault Body :=
  match entry.1.asUInt? with
  | none => .error .keyNotInteger
  | some key => .ok (if key ≤ 255 then body.insert key.toUInt8 entry.2 else body)

/-- The body that a value stands for. -/
def ofValue : Value → Except BodyFault Body
  | .map entries => entries.foldlM add empty
  | .nil => .ok empty
  | _ => .error .notAMap

end Body

end TupleWire

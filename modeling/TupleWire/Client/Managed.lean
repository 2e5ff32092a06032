/-
  Resources and who owns them.

  A client releases what it made itself and leaves alone what it was given.
-/

set_option autoImplicit false

namespace TupleWire

/-- A resource and its owner. -/
inductive Managed (α : Type) where
  /-- made by the client, which has to release it -/
  | owned (value : α)
  /-- given to the client -/
  | borrowed (value : α)
  deriving DecidableEq, Repr

namespace Managed

variable {α : Type}

def get : Managed α → α
  | owned value | borrowed value => value

def isOwned : Managed α → Bool
  | owned _ => true
  | borrowed _ => false

/-- What has to be released when the client is done with the resource. -/
def toRelease? : Managed α → Option α
  | owned value => some value
  | borrowed _ => none

/-- The owner, without the resource. -/
def describe : Managed α → String
  | owned _ => "Owned(..)"
  | borrowed _ => "Borrowed(..)"

end Managed

end TupleWire

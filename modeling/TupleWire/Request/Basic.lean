/-
  Requests.

  A `Request` is what a caller asks of a connection, a `StreamRequest` what is
  asked inside a stream.  Each has a type and a body; a request can also be
  refused, because it makes no sense or because the server lacks what it needs.
-/
import TupleWire.Client.Error
import TupleWire.Packet.Greeting
import TupleWire.Request.Body
import TupleWire.Request.Options

set_option autoImplicit false

namespace TupleWire

/-- A request outside any stream. -/
inductive Request where
  | ping
  | call (function : String) (args : List Value)
  | eval (expression : String) (args : List Value)
  | select (space index : Target) (key : List Value) (params : SelectParams)
  | insert (space : Target) (tuple : List Value)
  | replace (space : Target) (tuple : List Value)
  | update (space index : Target) (key operations : List Value)
  | upsert (space : Target) (tuple operations : List Value)
  | delete (space index : Target) (key : List Value)
  | authorize (user password : String)
  | watchOnce (key : String)
  /-- laid out by the caller -/
  | custom (kind : RequestType) (body : Body)
  deriving DecidableEq

namespace Request

/-- The type under which a request goes out. -/
def kind : Request → RequestType
  | ping => .ping
  | call _ _ => .call
  | eval _ _ => .eval
  | select _ _ _ _ => .select
  | insert _ _ => .insert
  | replace _ _ => .replace
  | update _ _ _ _ => .update
  | upsert _ _ _ => .upsert
  | delete _ _ _ => .delete
  | authorize _ _ => .auth
  | watchOnce _ => .watchOnce
  | custom kind _ => kind

/-- The body of a request on a connection whose server greeted with a salt. -/
def body (salt : Bytes) : Request → Body
  | ping => Body.empty
  | call function args => Body.call function args
  | eval expression args => Body.eval expression args
  | select space index key params => Body.select space index key params
  | insert space tuple | replace space tuple => Body.store space tuple
  | update space index key operations => Body.update space index key operations
  | upsert space tuple operations => Body.upsert space tuple operations
  | delete space index key => Body.delete space index key
  | authorize user password => Body.auth user (scramble salt password)
  | watchOnce key => Body.watch key
  | custom _ body => body

/-- A missing capability as a refusal. -/
def refuse : Except Capability Unit → Except Refusal Unit
  | .ok () => .ok ()
  | .error capability => .error (.unsupported capability)

/-- Demands that a request makes sense and that the server supports what it needs. -/
def check (negotiated : Negotiated) : Request → Except Refusal Unit
  | call function _ => if function.isEmpty then .error .emptyFunctionName else .ok ()
  | eval expression _ => if expression.isEmpty then .error .emptyExpression else .ok ()
  | authorize user _ => if user.isEmpty then .error .emptyUserName else .ok ()
  | select space index _ _ | update space index _ _ | delete space index _ =>
      refuse (negotiated.checkTargets space (some index))
  | insert space _ | replace space _ | upsert space _ _ =>
      refuse (negotiated.checkTargets space none)
  | watchOnce _ => refuse (negotiated.check .watchOnce)
  | ping | custom _ _ => .ok ()

end Request

/-- A request inside a stream. -/
inductive StreamRequest where
  /-- starts a transaction, which the server may end after some time -/
  | begin (timeout : Option Duration)
  | commit
  | rollback
  | call (function : String) (args : List Value)
  | eval (expression : String) (args : List Value)
  | insert (space : UInt32) (tuple : List Value)
  deriving DecidableEq

namespace StreamRequest

/-- The type under which a request goes out. -/
def kind : StreamRequest → RequestType
  | begin _ => .begin
  | commit => .commit
  | rollback => .rollback
  | call _ _ => .call
  | eval _ _ => .eval
  | insert _ _ => .insert

/-- The body of a request. -/
def body : StreamRequest → Body
  | begin timeout => Body.begin ((timeout.map Duration.secondsBits).getD 0)
  | commit | rollback => Body.empty
  | call function args => Body.call function args
  | eval expression args => Body.eval expression args
  | insert space tuple => Body.store (.byId space) tuple

/-- The options that count for a request: those around a transaction take none. -/
def options (given : RequestOptions) : StreamRequest → RequestOptions
  | begin _ | commit | rollback => {}
  | call _ _ | eval _ _ | insert _ _ => given

end StreamRequest

end TupleWire

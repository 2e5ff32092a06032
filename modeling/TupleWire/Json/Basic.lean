/-
  JSON values, and writing them.

  A value keeps what the readers of configurations look at.  The members of an
  object stay in order with repeated keys.  A number is kept if it is written as
  a natural number of 64 bits; of any other number only its size matters, and
  only whether a float can hold it.  A text may hold escapes that spell no character string
  (half of a surrogate pair); such a text is kept as `none`.
-/

set_option autoImplicit false

namespace TupleWire

/-- A JSON value. -/
inductive JsonValue where
  | null
  | bool (b : Bool)
  /-- a number of 64 bits written without sign, fraction and exponent -/
  | natural (n : UInt64)
  /-- any other number, and whether it is in the range of a double-precision float -/
  | otherNumber (inRange : Bool)
  | string (s : Option String)
  | array (items : List JsonValue)
  | object (members : List (Option String × JsonValue))
  deriving Inhabited

namespace JsonValue

/-- A text that spells a character string. -/
def text (s : String) : JsonValue := .string (some s)

/-- An object with distinct well-formed keys. -/
def record (fields : List (String × JsonValue)) : JsonValue :=
  .object (fields.map fun f => (some f.1, f.2))

/-- An optional value, null if absent. -/
def optional {α : Type} (f : α → JsonValue) : Option α → JsonValue
  | some a => f a
  | none => .null

/-! ## Writing -/

/-- The two-letter escapes of characters. -/
def shortEscape? (c : Char) : Option Char :=
  match c with
  | '"' => some '"'
  | '\\' => some '\\'
  | '\x08' => some 'b'
  | '\x0c' => some 'f'
  | '\n' => some 'n'
  | '\r' => some 'r'
  | '\t' => some 't'
  | _ => none

/-- A character inside a quoted text. -/
def escape (c : Char) : List Char :=
  match shortEscape? c with
  | some e => ['\\', e]
  | none =>
      if c.toNat < 0x20 then
        ['\\', 'u', '0', '0', Nat.digitChar (c.toNat / 16), Nat.digitChar (c.toNat % 16)]
      else [c]

/-- A quoted text. -/
def quote (s : String) : List Char := '"' :: s.toList.flatMap escape ++ ['"']

mutual

/-- The characters of a value, without blanks.  A number that is not natural is written as a
float in or out of range, a text that spells nothing as half of a surrogate pair. -/
def render : JsonValue → List Char
  | .null => "null".toList
  | .bool b => (if b then "true" else "false").toList
  | .natural n => Nat.toDigits 10 n.toNat
  | .otherNumber inRange => (if inRange then "-1" else "1e999").toList
  | .string (some s) => quote s
  | .string none => ['"', '\\', 'u', 'd', '8', '0', '0', '"']
  | .array items => '[' :: renderItems items ++ [']']
  | .object members => '\x7b' :: renderMembers members ++ ['\x7d']

/-- Elements with commas between them. -/
def renderItems : List JsonValue → List Char
  | [] => []
  | [v] => render v
  | v :: vs => render v ++ ',' :: renderItems vs

/-- Members with commas between them. -/
def renderMembers : List (Option String × JsonValue) → List Char
  | [] => []
  | [(k, v)] => renderKey k ++ ':' :: render v
  | (k, v) :: ms => renderKey k ++ ':' :: render v ++ ',' :: renderMembers ms

/-- The key of a member. -/
def renderKey : Option String → List Char
  | some s => quote s
  | none => ['"', '\\', 'u', 'd', '8', '0', '0', '"']

end

/-- The text of a value. -/
def toText (v : JsonValue) : String := String.ofList v.render

/-! ## Well-formed texts -/

mutual

/-- Every text in a value spells a character string, every number is in range, and nothing is
nested deeper than allowed. -/
def isPlain : Nat → JsonValue → Bool
  | _, .otherNumber inRange => inRange
  | _, .string s => s.isSome
  | 0, .array _ => false
  | depth + 1, .array items => arePlain depth items
  | 0, .object _ => false
  | depth + 1, .object members => arePlainMembers depth members
  | _, _ => true

def arePlain : Nat → List JsonValue → Bool
  | _, [] => true
  | depth, v :: vs => isPlain depth v && arePlain depth vs

def arePlainMembers : Nat → List (Option String × JsonValue) → Bool
  | _, [] => true
  | depth, (k, v) :: ms => k.isSome && isPlain depth v && arePlainMembers depth ms

end

end JsonValue

end TupleWire

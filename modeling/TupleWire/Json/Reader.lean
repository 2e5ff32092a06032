/-
  Reading JSON.

  `JsonValue.parse?` reads a whole text as one value.  It follows the grammar of
  JSON to the letter: four blanks, no leading zeros, no control characters in
  texts, nothing after the value.  It is total: every nested call consumes a
  character or a unit of fuel, and the fuel is counted from the text.
-/
import TupleWire.Json.Basic
import TupleWire.Json.Magnitude

set_option autoImplicit false

namespace TupleWire.JsonValue

/-- A reader of one thing: it consumes a prefix of the characters and returns the rest. -/
abbrev TextReader (α : Type) : Type := List Char → Option (α × List Char)

/-! ## Blanks and digits -/

/-- The four blanks of JSON. -/
def isBlank (c : Char) : Bool := c == ' ' || c == '\t' || c == '\n' || c == '\r'

def skipBlanks (cs : List Char) : List Char := cs.dropWhile isBlank

def isDigit (c : Char) : Bool := '0' ≤ c && c ≤ '9'

/-- The number that a row of decimal digits denotes. -/
def decimal (digits : List Char) : Nat :=
  digits.foldl (fun acc c => acc * 10 + Magnitude.digit c) 0

/-- The value of a hexadecimal digit. -/
def hexDigit? (c : Char) : Option Nat :=
  if isDigit c then some (Magnitude.digit c)
  else if 'a' ≤ c ∧ c ≤ 'f' then some (c.toNat - 'a'.toNat + 10)
  else if 'A' ≤ c ∧ c ≤ 'F' then some (c.toNat - 'A'.toNat + 10)
  else none

/-! ## Numbers -/

/-- At least one digit. -/
def readDigits : TextReader (List Char) := fun cs =>
  let digits := cs.takeWhile isDigit
  if digits.isEmpty then none else some (digits, cs.dropWhile isDigit)

/-- The digits of an integer: no zero in front of others. -/
def readInteger : TextReader (List Char)
  | '0' :: rest => some (['0'], rest)
  | cs => readDigits cs

/-- The digits after a point, if there is one. -/
def readFraction : TextReader (Option (List Char))
  | '.' :: rest => (readDigits rest).map fun (digits, rest) => (some digits, rest)
  | cs => some (none, cs)

/-- The signed number after an exponent mark, if there is one. -/
def readExponent : TextReader (Option Int)
  | c :: rest =>
      if c == 'e' || c == 'E' then
        match rest with
        | '-' :: rest => (readDigits rest).map fun (ds, rest) => (some (-(decimal ds : Int)), rest)
        | '+' :: rest => (readDigits rest).map fun (ds, rest) => (some (decimal ds : Int), rest)
        | rest => (readDigits rest).map fun (ds, rest) => (some (decimal ds : Int), rest)
      else some (none, c :: rest)
  | [] => some (none, [])

/-- A number without its sign. -/
def readUnsigned (negative : Bool) : TextReader JsonValue := fun cs => do
  let (whole, cs) ← readInteger cs
  let (part, cs) ← readFraction cs
  let (exponent, cs) ← readExponent cs
  if !negative && part.isNone && exponent.isNone && decimal whole < UInt64.size then
    return (.natural (UInt64.ofNat (decimal whole)), cs)
  else
    let magnitude := Magnitude.ofDigits whole (part.getD []) (exponent.getD 0)
    return (.otherNumber magnitude.inRange, cs)

/-- A number. -/
def readNumber : TextReader JsonValue
  | '-' :: rest => readUnsigned true rest
  | cs => readUnsigned false cs

/-! ## Texts -/

/-- What has been read of a text: its characters in reverse, unless they spell nothing, and the
first half of a surrogate pair if that came last. -/
structure TextDraft where
  chars : Option (List Char) := some []
  high : Option Nat := none

/-- Adds a character; a half pair before it spells nothing. -/
def TextDraft.push (d : TextDraft) (c : Char) : TextDraft :=
  ⟨if d.high.isSome then none else d.chars.map (c :: ·), none⟩

/-- Adds a sixteen-bit unit. -/
def TextDraft.pushUnit (d : TextDraft) (u : Nat) : TextDraft :=
  match d.high with
  | some h =>
      if 0xdc00 ≤ u ∧ u < 0xe000 then
        ⟨d.chars.map (Char.ofNat (0x10000 + (h - 0xd800) * 0x400 + (u - 0xdc00)) :: ·), none⟩
      else ⟨none, none⟩
  | none =>
      if 0xd800 ≤ u ∧ u < 0xdc00 then ⟨d.chars, some u⟩
      else if 0xdc00 ≤ u ∧ u < 0xe000 then ⟨none, none⟩
      else ⟨d.chars.map (Char.ofNat u :: ·), none⟩

/-- The finished text. -/
def TextDraft.finish (d : TextDraft) : Option String :=
  if d.high.isSome then none else d.chars.map fun cs => String.ofList cs.reverse

/-- The character of a two-letter escape. -/
def unescape? (c : Char) : Option Char :=
  match c with
  | '"' => some '"'
  | '\\' => some '\\'
  | '/' => some '/'
  | 'b' => some '\x08'
  | 'f' => some '\x0c'
  | 'n' => some '\n'
  | 'r' => some '\r'
  | 't' => some '\t'
  | _ => none

/-- The rest of a text after its opening quote. -/
def readTextFrom (d : TextDraft) : TextReader (Option String)
  | '"' :: rest => some (d.finish, rest)
  | '\\' :: 'u' :: w :: x :: y :: z :: rest => do
      let w ← hexDigit? w
      let x ← hexDigit? x
      let y ← hexDigit? y
      let z ← hexDigit? z
      readTextFrom (d.pushUnit (w * 4096 + x * 256 + y * 16 + z)) rest
  | '\\' :: c :: rest => do
      let e ← unescape? c
      readTextFrom (d.push e) rest
  | c :: rest => if c.toNat < 0x20 || c == '\\' then none else readTextFrom (d.push c) rest
  | [] => none

/-! ## Values -/

/-- The characters of a fixed word. -/
def readWord (word : String) (v : JsonValue) : TextReader JsonValue := fun cs =>
  if word.toList.isPrefixOf cs then some (v, cs.drop word.length) else none

mutual

/-- One value, with blanks before it. -/
def readValue : Nat → TextReader JsonValue
  | 0, _ => none
  | fuel + 1, cs =>
      match skipBlanks cs with
      | 'n' :: rest => readWord "ull" .null rest
      | 't' :: rest => readWord "rue" (.bool true) rest
      | 'f' :: rest => readWord "alse" (.bool false) rest
      | '"' :: rest => (readTextFrom {} rest).map fun (s, rest) => (.string s, rest)
      | '[' :: rest =>
          match skipBlanks rest with
          | ']' :: rest => some (.array [], rest)
          | rest => (readItems fuel rest).map fun (items, rest) => (.array items, rest)
      | '\x7b' :: rest =>
          match skipBlanks rest with
          | '\x7d' :: rest => some (.object [], rest)
          | rest => (readMembers fuel rest).map fun (members, rest) => (.object members, rest)
      | cs => readNumber cs

/-- Elements up to the closing bracket. -/
def readItems : Nat → TextReader (List JsonValue)
  | 0, _ => none
  | fuel + 1, cs =>
      match readValue fuel cs with
      | none => none
      | some (v, rest) =>
          match skipBlanks rest with
          | ']' :: rest => some ([v], rest)
          | ',' :: rest => (readItems fuel rest).map fun (vs, rest) => (v :: vs, rest)
          | _ => none

/-- Members up to the closing brace. -/
def readMembers : Nat → TextReader (List (Option String × JsonValue))
  | 0, _ => none
  | fuel + 1, cs =>
      match skipBlanks cs with
      | '"' :: rest =>
          match readTextFrom {} rest with
          | none => none
          | some (key, rest) =>
              match skipBlanks rest with
              | ':' :: rest =>
                  match readValue fuel rest with
                  | none => none
                  | some (v, rest) =>
                      match skipBlanks rest with
                      | '\x7d' :: rest => some ([(key, v)], rest)
                      | ',' :: rest =>
                          (readMembers fuel rest).map fun (ms, rest) => ((key, v) :: ms, rest)
                      | _ => none
              | _ => none
      | _ => none

end

/-- The value that a text spells, with nothing but blanks around it. -/
def parse? (s : String) : Option JsonValue :=
  let cs := s.toList
  match readValue (2 * cs.length + 2) cs with
  | some (v, rest) => if (skipBlanks rest).isEmpty then some v else none
  | none => none

end TupleWire.JsonValue

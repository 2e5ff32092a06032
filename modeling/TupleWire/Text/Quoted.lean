/-
  Texts between quotes, as diagnostics show them.

  Quotes, backslashes and characters that are not seen when they stand alone are
  escaped; every other character stands for itself.
-/
import TupleWire.Text.Printable

set_option autoImplicit false

namespace TupleWire.Quoted

/-- A character inside quotes. -/
def escape (c : Char) : List Char :=
  match c with
  | '\t' => ['\\', 't']
  | '\r' => ['\\', 'r']
  | '\n' => ['\\', 'n']
  | '\x00' => ['\\', '0']
  | '"' => ['\\', '"']
  | '\\' => ['\\', '\\']
  | c =>
      if Printable.standsAlone c then [c]
      else ['\\', 'u', '\x7b'] ++ Nat.toDigits 16 c.toNat ++ ['\x7d']

/-- A text between quotes. -/
def quote (s : String) : String := String.ofList ('"' :: s.toList.flatMap escape ++ ['"'])

end TupleWire.Quoted

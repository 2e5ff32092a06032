/-
  Certificates in armour.

  A text holds sections between a line that begins one and a line that ends it,
  with base64 in between.  `Armor.certificates` gives what the sections of
  certificates hold.  Lines outside sections are skipped; so is a section that
  does not end, that is not base64, or that holds something else, and a line
  that begins a section badly.
-/
import TupleWire.Text.Base64
import TupleWire.Text.Utf8

set_option autoImplicit false

namespace TupleWire.Armor

/-! ## Lines -/

/-- The bytes that end a line: a line feed, or a carriage return. -/
def isLineEnd (b : UInt8) : Bool := b == 0x0a || b == 0x0d

/-- Breaks bytes behind every line end. -/
def lines : Bytes → List Bytes
  | [] => []
  | b :: rest =>
      if isLineEnd b then [b] :: lines rest
      else
        match lines rest with
        | line :: others => (b :: line) :: others
        | [] => [[b]]

def hyphen : UInt8 := 0x2d

/-- Five hyphens. -/
def dashes : Bytes := List.replicate 5 hyphen

/-- What begins the first line of a section. -/
def opening : Bytes := dashes ++ Utf8.encode "BEGIN "

/-- What begins the last line of a section of a kind. -/
def closing (kind : Bytes) : Bytes := dashes ++ Utf8.encode "END " ++ kind ++ dashes

/-- The kind of section that a line begins: what stands before the hyphens that end the line.  There
have to be five of them, with nothing but spaces between and behind them. -/
def kindOf? (line : Bytes) : Option Bytes :=
  let back := line.reverse.takeWhile fun b => b == hyphen || b == 0x20 || isLineEnd b
  let trail := back.reverse.dropWhile (· != hyphen)
  if trail.count hyphen = 5 then some ((line.take (line.length - trail.length)).drop opening.length)
  else none

/-! ## Sections -/

/-- An open section: its kind, and the base64 read so far. -/
structure Section where
  kind : Bytes
  text : Bytes

/-- The certificates from a line on, inside a section or not.  A section that begins inside another
goes on with its base64. -/
def certificatesFrom : Option Section → List Bytes → List Bytes
  | _, [] => []
  | current, line :: rest =>
      if opening.isPrefixOf line then
        let before := (current.map Section.text).getD []
        certificatesFrom ((kindOf? line).map fun kind => ⟨kind, before⟩) rest
      else
        match current with
        | none => certificatesFrom none rest
        | some s =>
            if (closing s.kind).isPrefixOf line then
              if s.kind = Utf8.encode "CERTIFICATE" then
                (Base64.decodeLoose? s.text).toList ++ certificatesFrom none rest
              else certificatesFrom none rest
            else certificatesFrom (some { s with text := s.text ++ line }) rest

/-- The certificates that a text holds. -/
def certificates (bytes : Bytes) : List Bytes := certificatesFrom none (lines bytes)

end TupleWire.Armor

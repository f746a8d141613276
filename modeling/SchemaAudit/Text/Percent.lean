import SchemaAudit.Text.Quoted
import SchemaAudit.Text.Utf8

/-!
Percent codes: a byte that a text cannot hold as it is, written as a percent sign and two digits in base
sixteen.
-/

namespace SchemaAudit.Text.Percent

/-- A byte as a percent code. -/
def code (b : UInt8) : List Char := '%' :: (hex 2 b.toNat).map Char.toUpper

/-- A character as the percent codes of its bytes. -/
def codes (c : Char) : List Char := (encodeUtf8 [c]).flatMap code

/-- Whether a character stands for itself everywhere. -/
def isUnreserved (c : Char) : Bool := c.isAlphanum || c = '-' || c = '.' || c = '_' || c = '~'

/-- A text with the characters outside a class as percent codes; codes already there stay. -/
def quoteOutside (safe : Char → Bool) : List Char → List Char
  | '%' :: a :: b :: rest =>
    if isHexDigit a && isHexDigit b then '%' :: a :: b :: quoteOutside safe rest
    else (if safe '%' then ['%'] else codes '%') ++ quoteOutside safe (a :: b :: rest)
  | c :: rest => (if isUnreserved c || safe c then [c] else codes c) ++ quoteOutside safe rest
  | [] => []

/-- The value of a digit in base sixteen. -/
def hexValue (c : Char) : Nat :=
  if c ≤ '9' then c.toNat - 0x30 else (c.toNat ||| 0x20) - 0x61 + 10

/-- The bytes of a text in UTF-8, those behind percent signs taken as they are. -/
def bytes : List Char → List UInt8
  | '%' :: a :: b :: rest =>
    if isHexDigit a && isHexDigit b then UInt8.ofNat (16 * hexValue a + hexValue b) :: bytes rest
    else encodeUtf8 ['%'] ++ bytes (a :: b :: rest)
  | c :: rest => encodeUtf8 [c] ++ bytes rest
  | [] => []

end SchemaAudit.Text.Percent

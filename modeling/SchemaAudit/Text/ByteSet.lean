/-!
Sets of characters with one byte to a character. A set gives the characters from one byte on; the bytes
before it stand for the code points of the same number.
-/

namespace SchemaAudit.Text

/-- A set of characters under its name and its other names. -/
structure ByteSet where
  name : String
  aliases : List String
  first : Nat
  /-- The characters of the bytes from `first` on, U+FFFD where a byte has none. -/
  chars : String
  deriving DecidableEq, Repr

/-- The character of a byte, if it has one. -/
def ByteSet.char? (s : ByteSet) (b : UInt8) : Option Char :=
  if b.toNat < s.first then some (Char.ofNat b.toNat)
  else (s.chars.toList[b.toNat - s.first]?).filter (· ≠ '\uFFFD')

/-- The set of ASCII. -/
def asciiSet : ByteSet where
  name := "ascii"
  aliases := ["646", "ansi_x3.4_1968", "ansi_x3_4_1968", "ansi_x3.4_1986", "cp367", "csascii", "ibm367",
    "iso646_us", "iso_646.irv_1991", "iso_ir_6", "us", "us_ascii"]
  first := 0x80
  chars := ""

/-- The set of the first 256 code points. -/
def latinSet : ByteSet where
  name := "latin_1"
  aliases := ["8859", "cp819", "csisolatin1", "ibm819", "iso8859", "iso8859_1", "iso_8859_1",
    "iso_8859_1_1987", "iso_ir_100", "l1", "latin", "latin1"]
  first := 0x100
  chars := ""

/-- The same set under the name of sets that are given by a table. -/
def plainSet : ByteSet := { latinSet with name := "charmap", aliases := [] }

end SchemaAudit.Text

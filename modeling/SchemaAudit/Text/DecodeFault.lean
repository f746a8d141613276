import SchemaAudit.Text.Quoted

/-!
Why bytes are not read as text. Bytes outside an encoding are no reason by themselves, since U+FFFD can stand
for them.
-/

namespace SchemaAudit.Text

/-- Why bytes are not read. -/
inductive DecodeFault where
  /-- Units of so many bits have no mark that shows their order. -/
  | noMark (bits : Nat)
  | outsideAscii (byte : UInt8) (position : Nat)
  /-- The bytes end within an escape that is long already. -/
  | longEscape
  /-- A set of characters is asked for that no single character can be taken from. -/
  | noSingle
  | notLenient
  | undefined
  | notBytes
  | notText
  deriving DecidableEq, Repr

/-- What is told of bytes that are not read: a kind, and a message. -/
def DecodeFault.kindAndMessage : DecodeFault → String × String
  | noMark bits => ("UnicodeError", s!"UTF-{bits} stream does not start with BOM")
  | outsideAscii byte position =>
    let shown := String.ofList (hex 2 byte.toNat)
    ("UnicodeDecodeError",
      s!"'ascii' codec can't decode byte 0x{shown} in position {position}: ordinal not in range(128)")
  | longEscape => ("UnicodeError", "pending buffer overflow")
  | noSingle => ("RuntimeError", "internal codec error")
  | notLenient => ("UnicodeError", "Unsupported error handling replace")
  | undefined => ("UnicodeError", "undefined encoding")
  | notBytes => ("TypeError", "descriptor 'translate' for 'str' objects doesn't apply to a 'bytes' object")
  | notText => ("AssertionError", "")

end SchemaAudit.Text

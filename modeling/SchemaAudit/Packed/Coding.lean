import SchemaAudit.Packed.Container
import SchemaAudit.Text.Blank

/-!
How the bytes of a message are packed, as it says itself. The codings are named in the order in which they
were applied, so the last one is taken off first; a name that means nothing is passed over.
-/

namespace SchemaAudit.Packed

/-- The ways to pack bytes. -/
inductive Coding where
  | member
  | stream
  deriving DecidableEq, Repr

/-- The coding of a name. -/
def Coding.ofName? (name : List Char) : Option Coding :=
  [("gzip", member), ("deflate", stream)].lookup
    (String.ofList ((Text.trim name).map Char.toLower))

/-- Bytes without a coding. Of no bytes there are none. -/
def Coding.unpack (bytes : List UInt8) (c : Coding) : Except Fault (List UInt8) :=
  if bytes.isEmpty then .ok []
  else match c with
    | member => unpackMember bytes
    | stream => unpackAnyStream bytes

/-- Bytes without the codings that a text names between commas. -/
def unpack (names : List Char) (bytes : List UInt8) : Except Fault (List UInt8) :=
  ((Text.pieces ',' names).filterMap Coding.ofName?).reverse.foldlM Coding.unpack bytes

end SchemaAudit.Packed

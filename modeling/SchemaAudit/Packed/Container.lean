import SchemaAudit.Packed.Checksum
import SchemaAudit.Packed.Deflate

/-!
Packed data with a header before it and checksums behind it. What ends too early is not checked.
-/

namespace SchemaAudit.Packed

/-! ### Members of an archive -/

/-- What follows a text that a zero byte ends. -/
def skipText? : List UInt8 → Option (List UInt8)
  | [] => none
  | b :: rest => if b = 0 then some rest else skipText? rest

/-- What follows so many bytes. -/
def skip? (count : Nat) (bytes : List UInt8) : Option (List UInt8) :=
  if bytes.length < count then none else some (bytes.drop count)

/-- What follows a part of a header that a flag announces. -/
def skipIf (announced : Bool) (skip : List UInt8 → Option (List UInt8)) (bytes : List UInt8) :
    Option (List UInt8) :=
  if announced then skip bytes else some bytes

/-- What follows the extra part of a header, which starts with its length. -/
def skipExtra? : List UInt8 → Option (List UInt8)
  | a :: b :: rest => skip? (a.toNat + 256 * b.toNat) rest
  | _ => none

/-- What follows the parts of a header that its flags announce, up to its checksum. -/
def skipAnnounced? (flags : Nat) (bytes : List UInt8) : Option (List UInt8) := do
  let bytes ← skipIf (flags / 4 % 2 = 1) skipExtra? bytes
  let bytes ← skipIf (flags / 8 % 2 = 1) skipText? bytes
  skipIf (flags / 16 % 2 = 1) skipText? bytes

/-- What follows the checksum of a header, if there is one and it is right. -/
def checkHeader (flags : Nat) (whole rest : List UInt8) : Except Fault (Option (List UInt8)) :=
  if flags / 2 % 2 = 0 then .ok (some rest)
  else match rest with
    | a :: b :: after =>
      let before := whole.take (whole.length - rest.length)
      if crc32 before % 0x10000 = a.toNat + 256 * b.toNat then .ok (some after)
      else .error .headerChecksum
    | _ => .ok none

/-- What follows the header of a member, if all of it is there. -/
def afterHeader (bytes : List UInt8) : Except Fault (Option (List UInt8)) :=
  match bytes with
  | a :: b :: rest =>
    if a ≠ 0x1f || b ≠ 0x8b then .error .header
    else match rest with
      | method :: flags :: rest =>
        if method ≠ 8 then .error .method
        else if 0x20 ≤ flags then .error .headerFlags
        else match (skip? 6 rest).bind (skipAnnounced? flags.toNat) with
          | none => .ok none
          | some after => checkHeader flags.toNat bytes after
      | _ => .ok none
  | _ => .ok none

/-- The number of some bytes, the low ones first. -/
def littleEnd (bytes : List UInt8) : Nat := bytes.foldr (fun b n => 256 * n + b.toNat) 0

/-- The number of some bytes, the high ones first. -/
def bigEnd (bytes : List UInt8) : Nat := littleEnd bytes.reverse

/-- The bytes of a member, checked as far as its checksum and its size are there. -/
def unpackMember (bytes : List UInt8) : Except Fault (List UInt8) := do
  match ← afterHeader bytes with
  | none => pure []
  | some packed =>
    let unpacked ← Deflate.unpack (bitsOf packed)
    let content := unpacked.bytes.toList
    match unpacked.rest?.map fun rest => (readBytes 8 (alignBits rest)).1 with
    | some (a :: b :: c :: d :: size) =>
      if littleEnd [a, b, c, d] ≠ crc32 content then throw .checksum
      else if size.length = 4 && littleEnd size ≠ content.length % 0x100000000 then throw .size
      else pure content
    | _ => pure content

/-! ### Streams -/

/-- The bytes of a stream with a header of two bytes, if nothing is wrong with it. One that needs bytes known
beforehand is of no use. -/
def unpackStream? (bytes : List UInt8) : Option (List UInt8) :=
  match bytes with
  | a :: b :: packed =>
    let header := a.toNat * 256 + b.toNat
    if header % 31 ≠ 0 || a.toNat % 16 ≠ 8 || 0x80 ≤ a then none
    else if b.toNat / 32 % 2 = 1 then if packed.length < 4 then some [] else none
    else match Deflate.unpack (bitsOf packed) with
      | .error _ => none
      | .ok unpacked =>
        let content := unpacked.bytes.toList
        match unpacked.rest?.map fun rest => (readBytes 4 (alignBits rest)).1 with
        | some [a, b, c, d] => if bigEnd [a, b, c, d] = adler32 content then some content else none
        | _ => some content
  | _ => some []

/-- The bytes of a stream with or without a header. -/
def unpackAnyStream (bytes : List UInt8) : Except Fault (List UInt8) :=
  match unpackStream? bytes with
  | some content => .ok content
  | none => (Deflate.unpack (bitsOf bytes)).map (·.bytes.toList)

end SchemaAudit.Packed

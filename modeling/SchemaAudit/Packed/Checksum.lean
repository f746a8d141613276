/-!
Checksums of bytes: the remainder of a division of polynomials over two elements, and a pair of sums.
-/

namespace SchemaAudit.Packed

/-- The divisor, the bits of its coefficients in reverse. -/
def divisor : UInt32 := 0xedb88320

/-- A remainder after so many bits more. -/
def divideBits : Nat → UInt32 → UInt32
  | 0, r => r
  | count + 1, r => divideBits count (if r % 2 = 1 then divisor ^^^ (r >>> 1) else r >>> 1)

/-- The remainder of some bytes, before and after which all bits are turned over. -/
def crc32 (bytes : List UInt8) : Nat :=
  (bytes.foldl (fun r b => divideBits 8 (r ^^^ b.toUInt32)) 0xffffffff ^^^ 0xffffffff).toNat

/-- The sum of some bytes and one, and the sum of the sums, both below the largest prime below 65536; the
second comes first. -/
def adler32 (bytes : List UInt8) : Nat :=
  let (a, b) := bytes.foldl (fun (a, b) byte =>
    let a := (a + byte.toNat) % 65521
    (a, (b + a) % 65521)) (1, 0)
  b * 0x10000 + a

end SchemaAudit.Packed

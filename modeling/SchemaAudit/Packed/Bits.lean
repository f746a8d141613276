/-!
Bytes as bits, the low ones first. What is read from bits is a number of so many of them, or nothing if
there are too few.
-/

namespace SchemaAudit.Packed

/-- So many low bits of a number. -/
def lowBits : Nat → Nat → List Bool
  | 0, _ => []
  | count + 1, n => (n % 2 = 1) :: lowBits count (n / 2)

/-- The bits of some bytes. -/
def bitsOf (bytes : List UInt8) : List Bool := bytes.flatMap fun b => lowBits 8 b.toNat

/-- The number that bits are. -/
def numberOf (bits : List Bool) : Nat := bits.foldr (fun b n => 2 * n + b.toNat) 0

/-- A number of so many bits, and the bits after it. -/
def readNumber? (count : Nat) (bits : List Bool) : Option (Nat × List Bool) :=
  let read := bits.take count
  if read.length = count then some (numberOf read, bits.drop count) else none

/-- The bits from the next whole byte on, when they end with a byte. -/
def alignBits (bits : List Bool) : List Bool := bits.drop (bits.length % 8)

/-- So many bytes at the start of some bits, or as many as there are, and the bits after them. -/
def readBytes : Nat → List Bool → List UInt8 × List Bool
  | 0, bits => ([], bits)
  | count + 1, bits =>
    match readNumber? 8 bits with
    | none => ([], [])
    | some (n, rest) =>
      let (bytes, rest) := readBytes count rest
      (UInt8.ofNat n :: bytes, rest)

end SchemaAudit.Packed

import SchemaAudit.Packed.Bits
import SchemaAudit.Packed.PrefixCode

/-!
Packed data: blocks of bytes as they are, or of symbols, each a byte or a run of bytes that occurred so
far back. What ends too early unpacks to as much as there is. Every symbol takes a bit at least, so a
count of steps as large as that of the bits never runs out.
-/

namespace SchemaAudit.Packed

/-- Why data does not unpack. -/
inductive Fault where
  | blockType
  | storedLength
  | tooManySymbols
  | codeLengthCodes
  | repeatedLength
  | noEndOfBlock
  | literalCodes
  | distanceCodes
  | literal
  | distance
  | tooFarBack
  | header
  | method
  | headerFlags
  | headerChecksum
  | checksum
  | size
  deriving DecidableEq, Repr

/-- What a fault says. -/
def Fault.reason : Fault → String
  | blockType => "invalid block type"
  | storedLength => "invalid stored block lengths"
  | tooManySymbols => "too many length or distance symbols"
  | codeLengthCodes => "invalid code lengths set"
  | repeatedLength => "invalid bit length repeat"
  | noEndOfBlock => "invalid code -- missing end-of-block"
  | literalCodes => "invalid literal/lengths set"
  | distanceCodes => "invalid distances set"
  | literal => "invalid literal/length code"
  | distance => "invalid distance code"
  | tooFarBack => "invalid distance too far back"
  | header => "incorrect header check"
  | method => "unknown compression method"
  | headerFlags => "unknown header flags set"
  | headerChecksum => "header crc mismatch"
  | checksum => "incorrect data check"
  | size => "incorrect length check"

/-- What is told of a fault. -/
def Fault.message (f : Fault) : String := "Error -3 while decompressing data: " ++ f.reason

/-- What unpacking comes to: the bytes so far, and the bits after them unless they have ended. -/
structure Unpacked where
  bytes : Array UInt8
  rest? : Option (List Bool)

namespace Deflate

/-! ### Codes -/

/-- The codes of a block: of bytes and lengths, and of distances. -/
structure Codes where
  literals : PrefixCode
  distances : PrefixCode

/-- The symbol after which a block ends. -/
def endOfBlock : Nat := 256

/-- The codes of blocks that do not give their own. -/
def fixedCodes : Codes where
  literals := .ofLengths (List.replicate 144 8 ++ List.replicate 112 9 ++ List.replicate 24 7 ++
    List.replicate 8 8)
  distances := .ofLengths (List.replicate 32 5)

/-- The least length of each symbol for lengths, and how many bits more it has. -/
def lengthSteps : List (Nat × Nat) := [
  (3, 0), (4, 0), (5, 0), (6, 0), (7, 0), (8, 0), (9, 0), (10, 0), (11, 1), (13, 1), (15, 1), (17, 1),
  (19, 2), (23, 2), (27, 2), (31, 2), (35, 3), (43, 3), (51, 3), (59, 3), (67, 4), (83, 4), (99, 4),
  (115, 4), (131, 5), (163, 5), (195, 5), (227, 5), (258, 0)]

/-- The least distance of each symbol for distances, and how many bits more it has. -/
def distanceSteps : List (Nat × Nat) := [
  (1, 0), (2, 0), (3, 0), (4, 0), (5, 1), (7, 1), (9, 2), (13, 2), (17, 3), (25, 3), (33, 4), (49, 4),
  (65, 5), (97, 5), (129, 6), (193, 6), (257, 7), (385, 7), (513, 8), (769, 8), (1025, 9), (1537, 9),
  (2049, 10), (3073, 10), (4097, 11), (6145, 11), (8193, 12), (12289, 12), (16385, 13), (24577, 13)]

/-! ### Codes of a block of its own -/

/-- The symbols of the code for lengths in the order in which their own lengths are given. -/
def lengthOrder : List Nat := [16, 17, 18, 0, 8, 7, 9, 6, 10, 5, 11, 4, 12, 3, 13, 2, 14, 1, 15]

/-- So many numbers of three bits. -/
def readLengths? : Nat → List Bool → Option (List Nat × List Bool)
  | 0, bits => some ([], bits)
  | count + 1, bits => do
    let (n, bits) ← readNumber? 3 bits
    let (ns, bits) ← readLengths? count bits
    some (n :: ns, bits)

/-- What reading a part comes to: a value and the bits after it, or nothing if the bits end before. -/
abbrev Part (α : Type) := Except Fault (Option (α × List Bool))

/-- So many lengths by their code, behind those read before. -/
def readCoded (code : PrefixCode) (wanted : Nat) : Nat → List Nat → List Bool → Part (List Nat)
  | 0, _, _ => .ok none
  | steps + 1, lengths, bits =>
    if wanted ≤ lengths.length then .ok (some (lengths, bits))
    else match code.read bits with
      | .cut => .ok none
      | .none => readCoded code wanted steps (lengths ++ [0]) (bits.drop 1)
      | .read n bits =>
        if n < 16 then readCoded code wanted steps (lengths ++ [n]) bits
        else
          let (least, more) := if n = 16 then (3, 2) else if n = 17 then (3, 3) else (11, 7)
          match readNumber? more bits with
          | none => .ok none
          | some (extra, bits) =>
            let again? := if n = 16 then lengths.getLast? else some 0
            match again? with
            | none => .error .repeatedLength
            | some length =>
              let lengths := lengths ++ List.replicate (least + extra) length
              if wanted < lengths.length then .error .repeatedLength
              else readCoded code wanted steps lengths bits

/-- The codes of lengths of so many literals and of the distances after them. -/
def codesOf (literalCount : Nat) (lengths : List Nat) : Except Fault Codes :=
  let literals := lengths.take literalCount
  let distances := lengths.drop literalCount
  if (literals[endOfBlock]?).getD 0 = 0 then .error .noEndOfBlock
  else if !PrefixCode.isUsable literals then .error .literalCodes
  else if !PrefixCode.isUsable distances then .error .distanceCodes
  else .ok ⟨.ofLengths literals, .ofLengths distances⟩

/-- The codes at the start of a block that gives its own. -/
def readCodes (bits : List Bool) : Part Codes :=
  let counts? : Option (Nat × Nat × Nat × List Bool) := do
    let (literals, bits) ← readNumber? 5 bits
    let (distances, bits) ← readNumber? 5 bits
    let (lengths, bits) ← readNumber? 4 bits
    some (literals + 257, distances + 1, lengths + 4, bits)
  match counts? with
  | none => .ok none
  | some (literals, distances, lengths, bits) =>
    if 286 < literals || 30 < distances then .error .tooManySymbols
    else match readLengths? lengths bits with
      | none => .ok none
      | some (given, bits) =>
        let own := (List.range 19).map fun n => ((lengthOrder.zip given).lookup n).getD 0
        if !PrefixCode.isComplete own then .error .codeLengthCodes
        else match readCoded (.ofLengths own) (literals + distances) (bits.length + 1) [] bits with
          | .error fault => .error fault
          | .ok none => .ok none
          | .ok (some (lengths, bits)) => (codesOf literals lengths).map fun codes => some (codes, bits)

/-! ### Blocks -/

/-- Bytes with a run of so many behind them, each like the one so far back. -/
def copyBack (distance : Nat) : Nat → Array UInt8 → Array UInt8
  | 0, bytes => bytes
  | count + 1, bytes =>
    copyBack distance count (bytes.push ((bytes[bytes.size - distance]?).getD 0))

/-- A number in steps: its symbol, and the bits it has more. -/
def readStep? (steps : List (Nat × Nat)) (n : Nat) (bits : List Bool) : Option (Option (Nat × List Bool)) :=
  (steps[n]?).map fun (least, more) =>
    (readNumber? more bits).map fun (extra, bits) => (least + extra, bits)

/-- The distance at the start of some bits. -/
def readDistance (codes : Codes) (bits : List Bool) : Part Nat :=
  match codes.distances.read bits with
  | .cut => .ok none
  | .none => .error .distance
  | .read n bits =>
    match readStep? distanceSteps n bits with
    | none => .error .distance
    | some distance? => .ok distance?

/-- The symbols of a block, up to its end. -/
def readSymbols (codes : Codes) : Nat → Array UInt8 → List Bool → Except Fault Unpacked
  | 0, bytes, _ => .ok ⟨bytes, none⟩
  | steps + 1, bytes, bits =>
    match codes.literals.read bits with
    | .cut => .ok ⟨bytes, none⟩
    | .none => .error .literal
    | .read n bits =>
      if n < endOfBlock then readSymbols codes steps (bytes.push (UInt8.ofNat n)) bits
      else if n = endOfBlock then .ok ⟨bytes, some bits⟩
      else match readStep? lengthSteps (n - 257) bits with
        | none => .error .literal
        | some none => .ok ⟨bytes, none⟩
        | some (some (length, bits)) =>
          match readDistance codes bits with
          | .error fault => .error fault
          | .ok none => .ok ⟨bytes, none⟩
          | .ok (some (distance, bits)) =>
            if bytes.size < distance then .error .tooFarBack
            else readSymbols codes steps (copyBack distance length bytes) bits

/-- A block of bytes as they are. -/
def readStored (bytes : Array UInt8) (bits : List Bool) : Except Fault Unpacked :=
  let bits := alignBits bits
  match readNumber? 32 bits with
  | none => .ok ⟨bytes, none⟩
  | some (n, bits) =>
    let length := n % 0x10000
    if length + n / 0x10000 ≠ 0xffff then .error .storedLength
    else
      let (stored, rest) := readBytes length bits
      .ok ⟨bytes ++ stored.toArray, if stored.length = length then some rest else none⟩

/-- A block of a type. -/
def readBlock (type : Nat) (bytes : Array UInt8) (bits : List Bool) : Except Fault Unpacked :=
  match type with
  | 0 => readStored bytes bits
  | 1 => readSymbols fixedCodes (bits.length + 1) bytes bits
  | 2 =>
    match readCodes bits with
    | .error fault => .error fault
    | .ok none => .ok ⟨bytes, none⟩
    | .ok (some (codes, bits)) => readSymbols codes (bits.length + 1) bytes bits
  | _ => .error .blockType

/-- Blocks up to the last one. -/
def readBlocks : Nat → Array UInt8 → List Bool → Except Fault Unpacked
  | 0, bytes, _ => .ok ⟨bytes, none⟩
  | steps + 1, bytes, bits =>
    match readNumber? 3 bits with
    | none => .ok ⟨bytes, none⟩
    | some (n, bits) =>
      match readBlock (n / 2) bytes bits with
      | .error fault => .error fault
      | .ok unpacked =>
        match unpacked.rest? with
        | none => .ok unpacked
        | some bits => if n % 2 = 1 then .ok unpacked else readBlocks steps unpacked.bytes bits

/-- Packed data unpacked. -/
def unpack (bits : List Bool) : Except Fault Unpacked := readBlocks (bits.length + 1) #[] bits

end Deflate

end SchemaAudit.Packed

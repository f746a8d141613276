import SchemaAudit.Text.Half

/-!
Text in units of two or four bytes. Characters above U+FFFF take two units of two bytes, the halves of a
pair.
-/

namespace SchemaAudit.Text

/-- What units stand for: a character, half a pair by itself, or nothing. -/
inductive Piece where
  | char (c : Char)
  | half (n : Nat)
  | nothing
  deriving DecidableEq, Repr

/-- What a number stands for. -/
def Piece.ofNat (n : Nat) : Piece :=
  if isHalf n then .half n else if n < 0x110000 then .char (Char.ofNat n) else .nothing

/-- A piece as a character, if only characters count. -/
def Piece.lossy : Piece → Char
  | char c => c
  | _ => '\uFFFD'

/-- A piece as a character, if halves count. -/
def Piece.passing? [StandIns] : Piece → Option Char
  | char c => some c
  | half n => some (unitChar n)
  | nothing => none

/-- The units of some bytes taken `width` at a time; an incomplete one at the end is absent. -/
def unitsOf (width : Nat) (bigEnd : Bool) : Nat → List UInt8 → List (Option Nat)
  | 0, _ => []
  | _, [] => []
  | fuel + 1, bytes =>
    let unit := bytes.take width
    let ordered := if bigEnd then unit else unit.reverse
    let value := ordered.foldl (fun n b => n * 256 + b.toNat) 0
    (if unit.length = width then some value else none) :: unitsOf width bigEnd fuel (bytes.drop width)

/-- The pieces of two-byte units. An incomplete unit stands for nothing, together with the first half of a
pair before it. -/
def piecesOfPairs : List (Option Nat) → List Piece
  | [some unit, none] => if isHighHalf unit then [.nothing] else [.ofNat unit, .nothing]
  | some high :: some low :: rest =>
    if isHighHalf high && isLowHalf low then .char (pairChar high low) :: piecesOfPairs rest
    else .ofNat high :: piecesOfPairs (some low :: rest)
  | some unit :: rest => .ofNat unit :: piecesOfPairs rest
  | none :: rest => .nothing :: piecesOfPairs rest
  | [] => []

/-- The pieces of bytes in two-byte units. -/
def piecesOfUtf16 (bigEnd : Bool) (bytes : List UInt8) : List Piece :=
  piecesOfPairs (unitsOf 2 bigEnd bytes.length bytes)

/-- The pieces of bytes in four-byte units. -/
def piecesOfUtf32 (bigEnd : Bool) (bytes : List UInt8) : List Piece :=
  (unitsOf 4 bigEnd bytes.length bytes).map fun
    | some n => .ofNat n
    | none => .nothing

end SchemaAudit.Text

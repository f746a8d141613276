import SchemaAudit.Text.Eastern.Basic
import SchemaAudit.Text.Eastern.CodePage932Cells
import SchemaAudit.Text.Eastern.JisCells
import SchemaAudit.Text.Eastern.JisExtendedCells
import SchemaAudit.Text.Eastern.JisSupplementCells

/-!
Encodings for Japanese. The characters stand in the cells of the JIS standards. EUC has a row and a column with
the high bits set; the shifted encodings press two rows into one first byte.
-/

namespace SchemaAudit.Text.Eastern

/-- The editions of JIS X 0213. -/
inductive Edition where
  | of2000
  | of2004
  deriving DecidableEq, Repr

/-! ### Planes -/

/-- The cells of the backslash and of the tilde in the first plane. -/
def backslashCell : Nat := 0x2140

@[inherit_doc backslashCell]
def tildeCell : Nat := 0x2232

/-- Whether a cell of the first plane is empty in an edition. -/
def isLate (edition : Edition) (n : Nat) : Bool := edition = .of2000 && jisLateCells.contains n

/-- The characters in a cell of the first plane. -/
def firstPlane? (n : Nat) : Option (List Char) :=
  (cell? jisCells n <|> cell? jisFirstPlaneCells n).map ([·]) <|> pair? jisPairs n

/-- The reading of two bytes that show a cell of the first plane. An empty one takes both. -/
def readFirstPlane (edition : Edition) (n : Nat) : Reading :=
  if isLate edition n then .fault 2 else .ofChars? 2 (firstPlane? n)

/-- The character in a cell of the second plane. One of them changed. -/
def secondPlane? (edition : Edition) (n : Nat) : Option Char :=
  if edition = .of2000 && n = 0x7d3b then some '\u9b1d' else cell? jisSecondPlaneCells n

/-- The narrow katakana of a byte. -/
def katakana? (b : UInt8) : Option Char :=
  if 0xa1 ≤ b && b ≤ 0xdf then some (Char.ofNat (0xfec0 + b.toNat)) else none

/-! ### EUC -/

/-- The reading of bytes in EUC for Japanese: pairs of bytes are cells of a first plane, three bytes those of a
second one. -/
def readEucJp (readFirst : Nat → Reading) (second? : Nat → Option Char) : List UInt8 → Reading
  | 0x8e :: rest =>
    match rest with
    | [] => .cut
    | b :: _ => .ofChar? 2 (katakana? b)
  | 0x8f :: rest =>
    match rest with
    | b :: c :: _ => .ofChar? 3 (second? ((b.toNat * 0x100 + c.toNat) ^^^ highBits))
    | _ => .cut
  | bytes => readPairs (fun n => readFirst (n ^^^ highBits)) bytes

/-! ### Shifted encodings -/

/-- The place of a pair of bytes: its row, counted from 0 on, and its column. -/
def shifted? (a b : UInt8) : Option (Nat × Nat) :=
  let isLead := (0x81 ≤ a && a ≤ 0x9f) || (0xe0 ≤ a && a ≤ 0xfc)
  let isTrail := (0x40 ≤ b && b ≤ 0x7e) || (0x80 ≤ b && b ≤ 0xfc)
  if isLead && isTrail then
    let row := if a < 0xe0 then a.toNat - 0x81 else a.toNat - 0xc1
    let column := if b < 0x80 then b.toNat - 0x40 else b.toNat - 0x41
    some (2 * row + column / 94, column % 94 + 0x21)
  else none

/-- The reading of bytes in a shifted encoding: one that stands for a character by itself, or a pair. -/
def readShifted (single? : UInt8 → Option Char) (isLead : UInt8 → Bool)
    (read : UInt8 → UInt8 → Reading) : List UInt8 → Reading
  | [] => .cut
  | a :: rest =>
    match single? a with
    | some c => .chars [c] 1
    | none =>
      if isLead a then
        match rest with
        | [] => .cut
        | b :: _ => read a b
      else .fault 1

/-- Whether a byte is the first of a pair. -/
def isShiftedLead (a : UInt8) : Bool := (0x81 ≤ a && a ≤ 0x9f) || (0xe0 ≤ a && a ≤ 0xfc)

/-- The cell of JIS X 0208 for a place. -/
def jisAt? (row column : Nat) : Option Char := cell? jisCells ((row + 0x21) * 0x100 + column)

/-- A byte by itself in the shifted encoding: ASCII, or a katakana. -/
def shiftJisSingle? (a : UInt8) : Option Char :=
  if a < 0x80 then some (Char.ofNat a.toNat) else katakana? a

/-- The reading of bytes in the shifted encoding of JIS X 0208. -/
def readShiftJis : List UInt8 → Reading :=
  readShifted shiftJisSingle? isShiftedLead fun a b =>
    .ofChar? 2 ((shifted? a b).bind fun (row, column) => jisAt? row column)

/-- A letter of JIS X 0201, which has a yen sign and an overline where ASCII has a backslash and a tilde. -/
def jisLetter? (a : UInt8) : Option Char :=
  if a = 0x5c then some '\u00a5'
  else if a = 0x7e then some '\u203e'
  else if a < 0x80 then some (Char.ofNat a.toNat)
  else none

/-- The row of the second plane for a row behind the first plane. -/
def secondPlaneRow (row : Nat) : Nat :=
  if 0x67 ≤ row then row + 0x07
  else if 0x63 ≤ row || row = 0x5f then row - 0x37
  else row - 0x3d

/-- The reading of bytes in the shifted encoding of JIS X 0213, which has the backslash and the tilde of ASCII
among its pairs. -/
def readShiftJisX0213 (edition : Edition) : List UInt8 → Reading :=
  readShifted (fun a => jisLetter? a <|> katakana? a) isShiftedLead fun a b =>
    match shifted? a b with
    | none => .fault 1
    | some (row, column) =>
      let cell := (row + 0x21) * 0x100 + column
      if cell = backslashCell then .chars ['\\'] 2
      else if cell = tildeCell then .chars ['~'] 2
      else if row < 0x5e then readFirstPlane edition cell
      else .ofChar? 2 (secondPlane? edition (secondPlaneRow row * 0x100 + column))

/-- A byte by itself in code page 932. -/
def codePage932Single? (a : UInt8) : Option Char :=
  if a ≤ 0x80 then some (Char.ofNat a.toNat)
  else if a = 0xa0 then some '\uf8f0'
  else if 0xfd ≤ a then some (Char.ofNat (0xf8f1 + (a.toNat - 0xfd)))
  else katakana? a

/-- The character of a pair of bytes in code page 932; cells for private use follow those of JIS X 0208. -/
def codePage932? (a b : UInt8) : Option Char :=
  cell? codePage932Cells (a.toNat * 0x100 + b.toNat) <|>
    (shifted? a b).bind fun (row, column) =>
      if a < 0xf0 then jisAt? row column
      else if a ≤ 0xf9 then some (Char.ofNat (0xe000 + (row - 0x5e) * 94 + (column - 0x21)))
      else none

/-- The reading of bytes in code page 932. -/
def readCodePage932 : List UInt8 → Reading :=
  readShifted codePage932Single? (fun _ => true) fun a b => .ofChar? 2 (codePage932? a b)

end SchemaAudit.Text.Eastern

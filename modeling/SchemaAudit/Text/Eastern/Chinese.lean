import SchemaAudit.Text.Eastern.Basic
import SchemaAudit.Text.Eastern.BigFiveCells
import SchemaAudit.Text.Eastern.GbCells
import SchemaAudit.Text.Eastern.GbkCells
import SchemaAudit.Text.Eastern.HongKongCells

/-!
Encodings for Chinese: GB 2312 and what extends it, and Big5 with its variants. Two bytes outside ASCII are the
row and the column of a cell with the high bits set, or the number of a cell as they stand.
-/

namespace SchemaAudit.Text.Eastern

/-! ### GB -/

/-- The character of a pair of bytes in GB 2312. -/
def gb2312? (n : Nat) : Option Char := cell? gbCells (n ^^^ highBits)

/-- The character of a pair of bytes in GBK. -/
def gbk? (n : Nat) : Option Char := cell? gbkCells n <|> gb2312? n

/-- The character of four bytes in GB 18030. They count up a number: the first and the third byte from 0x81 on,
the others as decimal digits. Low numbers are those of the characters that no pair of bytes has, high ones those
above U+FFFF. -/
def gb18030? (a b c d : Nat) : Option Char :=
  let isLead (n : Nat) : Bool := 0x81 ≤ n && n ≤ 0xfe
  let isDigit (n : Nat) : Bool := 0x30 ≤ n && n ≤ 0x39
  if !(isLead a && isDigit b && isLead c && isDigit d) then none
  else
    let n := (((a - 0x81) * 10 + (b - 0x30)) * 126 + (c - 0x81)) * 10 + (d - 0x30)
    let high := 15 * 12600
    if n < 39420 then
      (gb18030Runs.findRev? fun (first, _) => first ≤ n).map fun (first, char) =>
        Char.ofNat (char + (n - first))
    else if high ≤ n && n - high < 0x100000 then some (Char.ofNat (0x10000 + (n - high)))
    else none

/-- The reading of bytes in GB 18030. A digit behind the first byte shows that there are four. -/
def readGb18030 : List UInt8 → Reading
  | a :: b :: rest =>
    if 0x80 ≤ a && 0x30 ≤ b && b ≤ 0x39 then
      match rest with
      | c :: d :: _ => .ofChar? 4 (gb18030? a.toNat b.toNat c.toNat d.toNat)
      | _ => .cut
    else readPairs (fun n => .ofChar? 2 (gbk? n <|> cell? gb18030Cells n)) (a :: b :: rest)
  | bytes => readPairs (fun _ => .fault 1) bytes

/-- The reading of bytes in HZ, in which escapes behind a tilde say whether pairs of bytes follow. -/
def readHz (paired : Bool) : List UInt8 → Reading × Bool
  | [] => (.cut, paired)
  | [0x7e] => (.cut, paired)
  | 0x7e :: b :: _ =>
    if b = 0x7e && !paired then (.chars ['~'] 2, paired)
    else if b = 0x7b && !paired then (.chars [] 2, true)
    else if b = 0x7d && paired then (.chars [] 2, false)
    else if b = 0x0a && !paired then (.chars [] 2, false)
    else (.fault 1, paired)
  | a :: rest =>
    if 0x80 ≤ a then (.fault 1, paired)
    else if !paired then (.chars [Char.ofNat a.toNat] 1, paired)
    else match rest with
      | [] => (.cut, paired)
      | b :: _ => (.ofChar? 2 (cell? gbCells (a.toNat * 0x100 + b.toNat)), paired)

/-! ### Big5 -/

/-- The character of a pair of bytes in Big5. -/
def bigFive? (n : Nat) : Option Char := cell? bigFiveCells n

/-- The character of a pair of bytes in code page 950. -/
def codePage950? (n : Nat) : Option Char := cell? codePage950Cells n <|> bigFive? n

/-- Whether a cell of Big5 is free for the Hong Kong supplement. -/
def isHongKong (n : Nat) : Bool := 0xc6a1 ≤ n && n < 0xc900

/-- The characters of a pair of bytes in Big5 with the Hong Kong supplement. -/
def hongKong? (n : Nat) : Option (List Char) :=
  let plain := (if isHongKong n then none else bigFive? n) <|> cell? hongKongCells n
  plain.map ([·]) <|> pair? hongKongPairs n

end SchemaAudit.Text.Eastern

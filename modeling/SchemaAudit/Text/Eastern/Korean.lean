import SchemaAudit.Text.Eastern.Basic
import SchemaAudit.Text.Eastern.KsCells
import SchemaAudit.Text.Eastern.UnifiedHangulCells

/-!
Encodings for Korean. A syllable has a cell of its own, or it is put together from its letters: one that leads,
a vowel, and one at its tail, which may be missing.
-/

namespace SchemaAudit.Text.Eastern

/-! ### Syllables -/

/-- The letters that may lead a syllable, counted from the first letter U+3131. -/
def leadingLetters : List Nat := [0, 1, 3, 6, 7, 8, 16, 17, 18, 20, 21, 22, 23, 24, 25, 26, 27, 28, 29]

/-- The letters that may stand at the tail of a syllable. -/
def trailingLetters : List Nat :=
  [0, 1, 2, 3, 4, 5, 6, 8, 9, 10, 11, 12, 13, 14, 15, 16, 17, 19, 20, 21, 22, 23, 25, 26, 27, 28, 29]

/-- The number of the first vowel among the letters. -/
def firstVowel : Nat := 30

/-- There are so many vowels. -/
def vowelCount : Nat := 21

/-- A letter. -/
def letter (n : Nat) : Char := Char.ofNat (0x3131 + n)

/-- The syllable of a leading letter, a vowel and a tail, each by its place among its kind. The first tail is
none. -/
def syllable (lead vowel tail : Nat) : Char :=
  Char.ofNat (0xac00 + (lead * vowelCount + vowel) * (trailingLetters.length + 1) + tail)

/-! ### KS X 1001 -/

/-- The character of a pair of bytes in EUC for Korean. -/
def eucKr? (n : Nat) : Option Char := cell? ksCells (n ^^^ highBits)

/-- The character of a pair of bytes in code page 949. -/
def codePage949? (n : Nat) : Option Char := eucKr? n <|> cell? unifiedHangulCells n

/-- The syllable of three bytes, each the column of a letter. The column of no letter stands for no tail. -/
def spelled? (lead vowel tail : Nat) : Option Char := do
  let place? (letters : List Nat) (n : Nat) : Option Nat :=
    if 0xa1 ≤ n then letters.idxOf? (n - 0xa1) else none
  let lead ← place? leadingLetters lead
  let tail ← if tail = 0xd4 then some 0 else (place? trailingLetters tail).map (· + 1)
  if 0xa1 + firstVowel ≤ vowel && vowel < 0xa1 + firstVowel + vowelCount then
    some (syllable lead (vowel - 0xa1 - firstVowel) tail)
  else none

/-- The reading of bytes in EUC for Korean. The cell of no letter starts a syllable in eight bytes. -/
def readEucKr : List UInt8 → Reading
  | 0xa4 :: 0xd4 :: rest =>
    match rest with
    | a :: lead :: b :: vowel :: c :: tail :: _ =>
      if a = 0xa4 && b = 0xa4 && c = 0xa4 then .ofChar? 8 (spelled? lead.toNat vowel.toNat tail.toNat)
      else .fault 1
    | _ => .cut
  | bytes => readPairs (fun n => .ofChar? 2 (eucKr? n)) bytes

/-! ### Johab -/

/-- The place of a vowel by its five bits; they leave out every eighth pair. -/
def johabVowel? (n : Nat) : Option Nat :=
  if n % 8 < 2 || n < 3 || 29 < n then none else some (n - 3 - 2 * (n / 8))

/-- The place of a tail by its five bits, from 0 on for no tail. -/
def johabTail? (n : Nat) : Option Nat :=
  if n = 0 || n = 18 || 29 < n then none else some (if n < 18 then n - 1 else n - 2)

/-- The character of three letters in five bits each: a syllable, or one letter by itself. -/
def johabLetters? (lead vowel tail : Nat) : Option Char := do
  let tail ← johabTail? tail
  let lead? := if 2 ≤ lead && lead ≤ 20 then some (lead - 2) else none
  if lead? = none && lead ≠ 1 then none
  else if vowel = 2 then
    match lead?, tail with
    | none, 0 => some '\u3000'
    | none, tail => (trailingLetters[tail - 1]?).map letter
    | some lead, 0 => (leadingLetters[lead]?).map letter
    | some _, _ => none
  else do
    let vowel ← johabVowel? vowel
    match lead?, tail with
    | none, 0 => some (letter (firstVowel + vowel))
    | none, _ => none
    | some lead, tail => some (syllable lead vowel tail)

/-- The character of a pair of bytes outside the letters in Johab: a cell of KS X 1001, two rows to a byte. -/
def johabSymbol? (a b : Nat) : Option Char :=
  let isTrail := (0x31 ≤ b && b ≤ 0x7e) || (0x91 ≤ b && b ≤ 0xfe)
  if a = 0xdf || 0xf9 < a || !isTrail || (a = 0xda && 0xa1 ≤ b && b ≤ 0xd3) || a < 0xd9 then none
  else
    let row := if a < 0xe0 then 2 * (a - 0xd9) else 2 * a - 0x197
    let column := if b < 0x91 then b - 0x31 else b - 0x43
    let cell := (row + column / 94 + 0x21) * 0x100 + (column % 94 + 0x21)
    cell? ksCells cell

/-- The character of a pair of bytes in Johab. -/
def johab? (n : Nat) : Option Char :=
  let a := n / 0x100
  if a < 0xd8 then johabLetters? (n / 0x400 % 32) (n / 32 % 32) (n % 32) else johabSymbol? a (n % 0x100)

end SchemaAudit.Text.Eastern

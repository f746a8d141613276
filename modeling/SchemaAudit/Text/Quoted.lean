import SchemaAudit.Text.Blank
import SchemaAudit.Text.Half
import SchemaAudit.Text.PrintTable

/-!
A text in quotes, as messages show paths and keys. Single quotes are the rule; a text with a single
quote and no double one goes into double quotes. Backslashes, the quote in use and every character
that does not print are escaped, so the quoted text is one line.
-/

namespace SchemaAudit.Text

/-- Whether a character may stand in a quoted text as it is. -/
def isShown (c : Char) : Bool := !inRuns hiddenRuns c.toNat

/-- The digit of a number below sixteen, in small letters. -/
def hexDigit (n : Nat) : Char :=
  if n < 10 then Char.ofNat (0x30 + n) else Char.ofNat (0x61 + (n - 10))

/-- Whether a character is a digit in base sixteen. -/
def isHexDigit (c : Char) : Bool :=
  ('0' ≤ c && c ≤ '9') || ('a' ≤ c && c ≤ 'f') || ('A' ≤ c && c ≤ 'F')

/-- A number in base sixteen with `width` digits, the highest ones dropped. -/
def hex (width n : Nat) : List Char :=
  match width with
  | 0 => []
  | w + 1 => hex w (n / 16) ++ [hexDigit (n % 16)]

/-- A character by its number, in as many digits as it needs of two, four and eight. -/
def codeEscape [StandIns] (c : Char) : List Char :=
  let n := codePoint c
  if n < 0x100 then '\\' :: 'x' :: hex 2 n
  else if n < 0x10000 then '\\' :: 'u' :: hex 4 n
  else '\\' :: 'U' :: hex 8 n

/-- A character inside a text quoted with `quote`. -/
def quotedChar [StandIns] (quote c : Char) : List Char :=
  if c = quote || c = '\\' then ['\\', c]
  else if c = '\n' then ['\\', 'n']
  else if c = '\r' then ['\\', 'r']
  else if c = '\t' then ['\\', 't']
  else if isShown c then [c]
  else codeEscape c

/-- The quote that a text is put into. -/
def quoteFor (s : List Char) : Char :=
  if s.contains '\'' && !s.contains '"' then '"' else '\''

/-- A text in quotes. -/
def quoted [StandIns] (s : List Char) : List Char :=
  quoteFor s :: (s.flatMap (quotedChar (quoteFor s)) ++ [quoteFor s])

/-- A string in quotes. -/
def inQuotes [StandIns] (s : String) : String := String.ofList (quoted s.toList)

end SchemaAudit.Text

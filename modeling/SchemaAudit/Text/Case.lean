import SchemaAudit.Text.Blank
import SchemaAudit.Text.CaseTable

/-!
Upper, lower and title case of a text. A character may map to several, and the capital sigma has two
lower forms: the final one stands at the end of a word. "End of a word" is the final-sigma condition
of Unicode: a cased character before it, none after it, looking through ignorable characters.
-/

namespace SchemaAudit.Text

/-- The image of a code point under a list of shifts, if one of them moves it. -/
def shifted (shifts : List Shift) (n : Nat) : Option Nat :=
  (shifts.find? fun s => s.first ≤ n && n ≤ s.last && (n - s.first) % s.step == 0).map
    fun s => (Int.ofNat n + s.offset).toNat

/-- The image of a character: an expansion, else a shift, else the character itself. -/
def mapped (expansions : List (Nat × List Nat)) (shifts : List Shift) (c : Char) : List Char :=
  match expansions.lookup c.toNat with
  | some ns => ns.map Char.ofNat
  | none =>
    match shifted shifts c.toNat with
    | some n => [Char.ofNat n]
    | none => [c]

/-- The upper case of one character. -/
def upperChar (c : Char) : List Char := mapped upperExpansions upperShifts c

/-- The upper case of a text. -/
def upper (s : List Char) : List Char := s.flatMap upperChar

/-- Whether a character has a case. -/
def isCased (c : Char) : Bool := inRuns casedRuns c.toNat

/-- Whether the search for the end of a word looks through a character. -/
def isCaseIgnorable (c : Char) : Bool := inRuns caseIgnorableRuns c.toNat

/-- Whether the next character that is not ignorable is a cased one. -/
def startsCased (s : List Char) : Bool :=
  match s.dropWhile isCaseIgnorable with
  | [] => false
  | c :: _ => isCased c

/-- The lower case of a character between a cased character (or none) and the text that follows. -/
def lowerChar (casedBefore : Bool) (c : Char) (rest : List Char) : List Char :=
  if c = 'Σ' then [if casedBefore && !startsCased rest then 'ς' else 'σ']
  else mapped lowerExpansions lowerShifts c

/-- Whether the last character that is not ignorable is a cased one, after one more character. -/
def casedAfter (casedBefore : Bool) (c : Char) : Bool :=
  if isCaseIgnorable c then casedBefore else isCased c

/-- The lower case of a text that follows a cased character (or none). -/
def lowerFrom (casedBefore : Bool) : List Char → List Char
  | [] => []
  | c :: rest => lowerChar casedBefore c rest ++ lowerFrom (casedAfter casedBefore c) rest

/-- The lower case of a text. -/
def lower (s : List Char) : List Char := lowerFrom false s

/-- The title case of one character. -/
def titleChar (c : Char) : List Char :=
  match titleExpansions.lookup c.toNat, shifted titleShifts c.toNat with
  | some ns, _ => ns.map Char.ofNat
  | none, some n => [Char.ofNat n]
  | none, none => upperChar c

/-- Title case after a character that has a case (or none): the first of each run of cased characters
is a capital, the others are small. -/
def titleFrom (inWord casedBefore : Bool) : List Char → List Char
  | [] => []
  | c :: rest =>
    (if inWord then lowerChar casedBefore c rest else titleChar c) ++
      titleFrom (isCased c) (casedAfter casedBefore c) rest

/-- The title case of a text. -/
def title (s : List Char) : List Char := titleFrom false false s

end SchemaAudit.Text

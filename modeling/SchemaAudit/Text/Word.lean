import SchemaAudit.Text.Blank
import SchemaAudit.Text.WordTable

/-!
Word characters, and spellings of a keyword in any letter case.
-/

namespace SchemaAudit.Text

/-- Letters and numbers of every script, and the low line. -/
def isWord (c : Char) : Bool := inRuns wordRuns c.toNat

/-- Whether a character spells a capital letter `A` to `Z` in some case: the two ASCII forms, the
dotted and the dotless i, and the long s. -/
def spells (letter c : Char) : Bool :=
  c = letter || c = letter.toLower || (letter = 'I' && (c = 'İ' || c = 'ı')) ||
    (letter = 'S' && c = 'ſ')

/-- The rest of a text after a keyword, given in capitals, in any letter case. -/
def dropKeyword : List Char → List Char → Option (List Char)
  | [], s => some s
  | _ :: _, [] => none
  | k :: ks, c :: s => if spells k c then dropKeyword ks s else none

end SchemaAudit.Text

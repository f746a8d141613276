/-!
Blank characters and what is cut at them: trimming, words, lines. Texts are lists of characters
here, so that every cut is a recursion on the text.
-/

namespace SchemaAudit.Text

/-- Whether `n` lies in one of the runs `(first, last)`. -/
def inRuns (runs : List (Nat × Nat)) (n : Nat) : Bool :=
  runs.any fun r => r.1 ≤ n && n ≤ r.2

/-- The blank code points of Unicode: tabs, line and paragraph ends, spaces of every width, and the
four information separators; no zero-width character is among them. -/
def blankRuns : List (Nat × Nat) := [
  (0x09, 0x0d), (0x1c, 0x20), (0x85, 0x85), (0xa0, 0xa0), (0x1680, 0x1680), (0x2000, 0x200a),
  (0x2028, 0x2029), (0x202f, 0x202f), (0x205f, 0x205f), (0x3000, 0x3000)]

/-- Whether a character is blank. -/
def isBlank (c : Char) : Bool := inRuns blankRuns c.toNat

/-- A text without the blank characters at its start. -/
def trimLeft (s : List Char) : List Char := s.dropWhile isBlank

/-- A text without the blank characters at its end. -/
def trimRight (s : List Char) : List Char := (s.reverse.dropWhile isBlank).reverse

/-- A text without the blank characters at its two ends. -/
def trim (s : List Char) : List Char := trimRight (trimLeft s)

/-- The longest runs of characters that are not blank, in order. -/
def words : List Char → List (List Char)
  | [] => []
  | [c] => if isBlank c then [] else [[c]]
  | c :: d :: rest =>
    if isBlank c then words (d :: rest)
    else if isBlank d then [c] :: words (d :: rest)
    else match words (d :: rest) with
      | [] => [[c]]
      | w :: ws => (c :: w) :: ws

/-- The pieces of a text between the occurrences of one character: one more than there are. -/
def pieces (sep : Char) : List Char → List (List Char)
  | [] => [[]]
  | c :: rest =>
    if c = sep then [] :: pieces sep rest
    else match pieces sep rest with
      | [] => [[c]]
      | p :: ps => (c :: p) :: ps

/-- What stands before and after the first occurrence of `needle`. -/
def cutAt (needle : List Char) : List Char → Option (List Char × List Char)
  | [] => if needle.isEmpty then some ([], []) else none
  | c :: rest =>
    if needle.isPrefixOf (c :: rest) then some ([], (c :: rest).drop needle.length)
    else (cutAt needle rest).map fun (before, after) => (c :: before, after)

/-- What stands before and after the first occurrence of one character. -/
def cutAtChar (sep : Char) (s : List Char) : Option (List Char × List Char) := cutAt [sep] s

/-- What stands before and after the last occurrence of one character. -/
def cutAtLastChar (sep : Char) (s : List Char) : Option (List Char × List Char) :=
  (cutAtChar sep s.reverse).map fun (after, before) => (before.reverse, after.reverse)

end SchemaAudit.Text

import SchemaAudit.Json.Reader
import SchemaAudit.Text.Half

/-!
Text in which escapes behind a backslash stand for characters, and bytes for the code points of the same
number. Each fault reads as U+FFFD.
-/

namespace SchemaAudit.Text

/-- The characters of bytes by their numbers. -/
def latinChars (bytes : List UInt8) : List Char := bytes.map fun b => Char.ofNat b.toNat

/-- The digits in base sixteen at the start of a text, so many at most. -/
def hexDigits : Nat → List Char → List Nat
  | 0, _ => []
  | _, [] => []
  | count + 1, c :: rest =>
    match Json.hexValue? c with
    | some n => n :: hexDigits count rest
    | none => []

/-- The character of an escape with `count` digits, and how many digits there are. -/
def numbered [StandIns] (count : Nat) (s : List Char) : Char × Nat :=
  let digits := hexDigits count s
  let n := digits.foldl (fun n d => n * 16 + d) 0
  (if digits.length < count || 0x110000 ≤ n then '\uFFFD' else unitChar n, digits.length)

/-- The number of digits behind the letter of an escape by number. -/
def digitCount? (short : Bool) : Char → Option Nat
  | 'x' => if short then some 2 else none
  | 'u' => some 4
  | 'U' => some 8
  | _ => none

/-- The characters that single letters behind a backslash stand for. -/
def letterEscapes : List (Char × Char) := [
  ('\\', '\\'), ('\'', '\''), ('"', '"'), ('b', '\x08'), ('f', '\x0c'), ('t', '\t'), ('n', '\n'),
  ('r', '\r'), ('v', '\x0b'), ('a', '\x07')]

/-- Whether a character is a digit below eight. -/
def isOctal (c : Char) : Bool := '0' ≤ c && c ≤ '7'

/-- What follows a name in braces, if there is one; else what follows the characters that could begin it. -/
def skipName : List Char → List Char
  | '\x7b' :: rest => (rest.dropWhile (· ≠ '\x7d')).drop (if rest.head? = some '\x7d' then 0 else 1)
  | s => s

/-- Skipping a name leaves no more text. -/
theorem length_skipName (s : List Char) : (skipName s).length ≤ s.length := by
  unfold skipName
  split
  · rename_i rest
    have := (List.dropWhile_sublist (l := rest) (· ≠ '\x7d')).length_le
    simp only [List.length_drop, List.length_cons]
    omega
  · exact Nat.le_refl _

/-- A text with all kinds of escapes resolved. Names of characters stand for nothing known. -/
def resolveEscapes [StandIns] : List Char → List Char
  | [] => []
  | ['\\'] => ['\uFFFD']
  | '\\' :: c :: rest =>
    if c = '\n' then resolveEscapes rest
    else if isOctal c then
      let digits := c :: (rest.take 2).takeWhile isOctal
      let n := digits.foldl (fun n d => n * 8 + (d.toNat - 0x30)) 0
      Char.ofNat n :: resolveEscapes (rest.drop (digits.length - 1))
    else if c = 'N' then
      have := length_skipName rest
      '\uFFFD' :: resolveEscapes (skipName rest)
    else match digitCount? true c with
      | some count => (numbered count rest).1 :: resolveEscapes (rest.drop (numbered count rest).2)
      | none =>
        match letterEscapes.lookup c with
        | some d => d :: resolveEscapes rest
        | none => '\\' :: c :: resolveEscapes rest
  | c :: rest => c :: resolveEscapes rest
  termination_by s => s.length
  decreasing_by all_goals (simp only [List.length_drop, List.length_cons]; omega)

/-- A text with the escapes by number resolved that have four or eight digits. -/
def resolveNumbers [StandIns] : List Char → List Char
  | [] => []
  | '\\' :: c :: rest =>
    match digitCount? false c with
    | some count => (numbered count rest).1 :: resolveNumbers (rest.drop (numbered count rest).2)
    | none => '\\' :: c :: resolveNumbers rest
  | c :: rest => c :: resolveNumbers rest
  termination_by s => s.length
  decreasing_by all_goals (simp only [List.length_drop, List.length_cons]; omega)

end SchemaAudit.Text

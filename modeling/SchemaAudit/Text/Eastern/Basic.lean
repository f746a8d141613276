import SchemaAudit.Text.DecodeFault

/-!
Encodings in which characters take several bytes. The characters stand in tables of numbered cells, and bytes
are read from the front: those of one character, or some that stand for none.
-/

namespace SchemaAudit.Text.Eastern

/-! ### Cells -/

/-- The character in a cell. A table has the cells of a row in runs, each with the number of its first
cell. -/
def cell? (cells : List (Nat × String)) (n : Nat) : Option Char :=
  cells.findSome? fun (first, run) =>
    if first ≤ n && n < first + 0x100 then run.toList[n - first]? else none

/-- The characters in a cell of which some hold two. -/
def pair? (cells : List (Nat × String)) (n : Nat) : Option (List Char) := (cells.lookup n).map String.toList

/-- The bits that tell two bytes from a row and a column. -/
def highBits : Nat := 0x8080

/-! ### Readings -/

/-- What some bytes start with. -/
inductive Reading where
  /-- Characters, and the number of their bytes. -/
  | chars (cs : List Char) (count : Nat)
  /-- So many bytes that stand for nothing. -/
  | fault (count : Nat)
  /-- Bytes that more bytes have to follow. -/
  | cut
  | refused (fault : DecodeFault)
  deriving DecidableEq, Repr

/-- The reading of bytes that stand for characters; the first byte is at fault if there are none. -/
def Reading.ofChars? (count : Nat) : Option (List Char) → Reading
  | some cs => .chars cs count
  | none => .fault 1

/-- The reading of bytes that stand for a character; the first byte is at fault if there is none. -/
def Reading.ofChar? (count : Nat) (c : Option Char) : Reading := .ofChars? count (c.map ([·]))

/-- The reading of bytes in ASCII and of pairs of bytes, the first of which is outside ASCII. -/
def readPairs (read : Nat → Reading) : List UInt8 → Reading
  | [] => .cut
  | a :: rest =>
    if a < 0x80 then .chars [Char.ofNat a.toNat] 1
    else match rest with
      | [] => .cut
      | b :: _ => read (a.toNat * 0x100 + b.toNat)

/-- So many bytes are kept at most until more of them follow. -/
def keptLimit : Nat := 8

/-- The text of some bytes, read with a state that each reading changes. U+FFFD stands for what is at fault,
and for what is cut off at the end. -/
def lossy {State : Type} (read : State → List UInt8 → Reading × State) (state : State) :
    List UInt8 → Except DecodeFault (List Char)
  | [] => .ok []
  | b :: bs =>
    let (reading, next) := read state (b :: bs)
    match reading with
    | .chars cs count => (lossy read next (bs.drop (count - 1))).map (cs ++ ·)
    | .fault count => (lossy read next (bs.drop (count - 1))).map ('\uFFFD' :: ·)
    | .cut => if keptLimit < (b :: bs).length then .error .longEscape else .ok ['\uFFFD']
    | .refused fault => .error fault
termination_by bytes => bytes.length
decreasing_by all_goals (simp only [List.length_drop, List.length_cons]; omega)

/-- The text of some bytes that are read without a state. -/
def lossyPlain (read : List UInt8 → Reading) (bytes : List UInt8) : Except DecodeFault (List Char) :=
  lossy (fun (_ : Unit) bytes => (read bytes, ())) () bytes

end SchemaAudit.Text.Eastern

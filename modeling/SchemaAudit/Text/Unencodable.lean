import SchemaAudit.Text.Quoted

/-!
Text that an encoding has no bytes for. What is told of it is the first run of characters outside the
encoding: one of them by its number, more by their positions.
-/

namespace SchemaAudit.Text

variable [StandIns]

/-- The first characters of a text outside an encoding, and where they start. -/
structure Unencodable where
  start : Nat
  run : List Char
  deriving DecidableEq, Repr

/-- The first run of characters in a class. -/
def firstRun? (outside : Char → Bool) (s : List Char) : Option Unencodable :=
  let before := s.takeWhile fun c => !outside c
  match (s.drop before.length).takeWhile outside with
  | [] => none
  | run => some ⟨before.length, run⟩

/-- The part of a text outside ASCII, if there is one. -/
def outsideAscii? (s : List Char) : Option Unencodable := firstRun? (fun c => 0x80 ≤ c.toNat) s

/-- The part of a text outside UTF-8, if there is one. -/
def outsideUtf8? (s : List Char) : Option Unencodable := firstRun? isStandIn s

/-- The part of the name of a file that has no bytes. Names hold any bytes, those outside UTF-8 as second halves
from U+DC80 to U+DCFF; no other half has one. -/
def outsideNames? (s : List Char) : Option Unencodable :=
  let isByte (c : Char) : Bool := 0xdc80 ≤ codePoint c && codePoint c ≤ 0xdcff
  let before := s.takeWhile fun c => !isStandIn c || isByte c
  match (s.drop before.length).takeWhile isStandIn with
  | [] => none
  | run => some ⟨before.length, run⟩

/-- What is told of characters outside an encoding. -/
def Unencodable.message (u : Unencodable) (encoding reason : String) : String :=
  let last := u.start + u.run.length - 1
  match u.run with
  | [c] =>
    let shown := String.ofList (codeEscape c)
    s!"'{encoding}' codec can't encode character '{shown}' in position {u.start}: {reason}"
  | _ => s!"'{encoding}' codec can't encode characters in position {u.start}-{last}: {reason}"

/-- What is told of characters outside ASCII. -/
def Unencodable.asciiMessage (u : Unencodable) : String := u.message "ascii" "ordinal not in range(128)"

/-- What is told of characters outside UTF-8. -/
def Unencodable.utf8Message (u : Unencodable) : String := u.message "utf-8" "surrogates not allowed"

end SchemaAudit.Text

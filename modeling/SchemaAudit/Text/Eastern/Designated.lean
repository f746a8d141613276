import SchemaAudit.Text.Eastern.Chinese
import SchemaAudit.Text.Eastern.Japanese
import SchemaAudit.Text.Eastern.Korean

/-!
Encodings in seven bits. Escapes say which set of characters the bytes that follow are taken from: they
designate a set as the first, the second or the third one. Bytes are of the first set, or of the second one
between shifts; the third set gives single characters.
-/

namespace SchemaAudit.Text.Eastern

/-! ### Sets -/

/-- The sets of characters that can be designated. -/
inductive Repertoire where
  | latin
  | greek
  | jisLetters
  | narrowKatakana
  | jis
  /-- The first edition of `jis`, which differs too little to show. -/
  | oldJis
  | jisSupplement
  | firstPlane (edition : Edition)
  | secondPlane (edition : Edition)
  | gb
  | ks
  deriving DecidableEq, Repr

namespace Repertoire

/-- Whether characters of a set take two bytes. -/
def isDouble : Repertoire → Bool
  | latin | greek | jisLetters | narrowKatakana => false
  | _ => true

/-- The letter that designates a set. -/
def mark : Repertoire → UInt8
  | latin => 0x41
  | greek => 0x46
  | jisLetters => 0x4a
  | narrowKatakana => 0x49
  | jis => 0x42
  | oldJis => 0x40
  | jisSupplement => 0x44
  | firstPlane .of2000 => 0x4f
  | firstPlane .of2004 => 0x51
  | secondPlane _ => 0x50
  | gb => 0x41
  | ks => 0x43

/-- The characters in a cell of a set. -/
def chars? (n : Nat) : Repertoire → Option (List Char)
  | latin | greek => none
  | jisLetters => (jisLetter? (UInt8.ofNat n)).map ([·])
  | narrowKatakana => (katakana? (UInt8.ofNat (n + 0x80))).map ([·])
  | jis | oldJis => (cell? jisCells n).map ([·])
  | jisSupplement => (cell? jisSupplementCells n).map ([·])
  | firstPlane edition =>
    if n = tildeCell then some ['~'] else if isLate edition n then none else firstPlane? n
  | secondPlane edition => (secondPlane? edition n).map ([·])
  | gb => (cell? gbCells n).map ([·])
  | ks => (cell? ksCells n).map ([·])

end Repertoire

/-- An encoding: its sets, and what else it knows. -/
structure Designations where
  sets : List Repertoire
  /-- Whether shifts lead to the second set. -/
  shifts : Bool
  /-- Whether there are single characters of a third set. -/
  singles : Bool
  /-- Whether an escape may announce an edition of `jis` before it designates it. -/
  announcements : Bool
  deriving DecidableEq, Repr

/-! ### State -/

/-- What the bytes read so far have said. ASCII is designated by no set. -/
structure DesignatedState where
  first : Option Repertoire
  second : Option Repertoire
  third : Option Repertoire
  shifted : Bool
  /-- Whether the bytes are those of an unknown escape. -/
  passing : Bool
  deriving DecidableEq, Repr

/-- The state at the start. -/
def DesignatedState.start : DesignatedState := ⟨none, none, none, false, false⟩

/-! ### Escapes -/

/-- The byte that starts an escape. -/
def escapeByte : UInt8 := 0x1b

/-- Whether a byte ends an escape. -/
def isEscapeEnd (b : UInt8) : Bool := 0x40 ≤ b && b ≤ 0x5a

/-- The longest escape that is looked for. -/
def escapeLimit : Nat := 16

/-- The length of the escape that some bytes start with, looked for from a position on: zero if it is too
long, none if it is cut off. An announcement may stand in it where the encoding knows of it. -/
def escapeLength? (announced : Bool) (bytes : List UInt8) (position : Nat) : Option Nat :=
  if escapeLimit ≤ position then some 0
  else
    match bytes[position]? with
    | none => none
    | some b =>
      if isEscapeEnd b then some (position + 1)
      else if announced && b = 0x26 && bytes[position + 1]? = some 0x40 then
        escapeLength? announced bytes (position + 3)
      else escapeLength? announced bytes (position + 1)
termination_by escapeLimit - position

/-- The places that a set can be designated to. -/
inductive Place where
  | first
  | second
  | third
  deriving DecidableEq, Repr

/-- The place, the mark and the width of the set that an escape designates. -/
def designation? (d : Designations) : List UInt8 → Option (Place × UInt8 × Bool)
  | [_, 0x24, mark] => some (.first, mark, true)
  | [_, 0x28, mark] => some (.first, mark, false)
  | [_, 0x29, mark] => some (.second, mark, false)
  | [_, 0x2e, mark] => if d.singles then some (.third, mark, false) else none
  | [_, 0x24, 0x28, mark] => some (.first, mark, true)
  | [_, 0x24, 0x29, mark] => some (.second, mark, true)
  | [_, _, _, 0x1b, 0x24, 0x42] => if d.announcements then some (.first, 0x42, true) else none
  | _ => none

/-- The state in which a set is designated to a place. -/
def DesignatedState.designate (s : DesignatedState) (set : Option Repertoire) : Place → DesignatedState
  | .first => { s with first := set }
  | .second => { s with second := set }
  | .third => { s with third := set }

/-- The mark of ASCII. -/
def asciiMark : UInt8 := 0x42

/-- The reading of an escape. One that is not known stands for nothing. -/
def readEscape (d : Designations) (s : DesignatedState) (bytes : List UInt8) : Reading × DesignatedState :=
  match escapeLength? d.announcements bytes 1 with
  | none => (.cut, s)
  | some 0 => (.fault 1, s)
  | some length =>
    match designation? d (bytes.take length) with
    | none => (.fault length, s)
    | some (place, mark, isDouble) =>
      if mark = asciiMark && !isDouble then (.chars [] length, s.designate none place)
      else
        match d.sets.find? fun set => set.mark = mark && set.isDouble = isDouble with
        | some set => (.chars [] length, s.designate (some set) place)
        | none => (.fault length, s)

/-! ### Single characters -/

/-- The Greek character of a byte above ASCII. -/
def greek? (n : Nat) : Option Char :=
  if [0xa4, 0xa5, 0xaa, 0xae, 0xd2, 0xff].contains n then none
  else
    match [(0xa1, '\u2018'), (0xa2, '\u2019'), (0xaf, '\u2015')].lookup n with
    | some c => some c
    | none =>
      let isLetter := 0xb4 ≤ n && !([0xb7, 0xbb, 0xbd].contains n)
      some (Char.ofNat (if isLetter then n + 0x2d0 else n))

/-- The reading of the byte for a single character of the third set, behind the two bytes that announce it. -/
def readSingle (third : Option Repertoire) (b : UInt8) : Reading :=
  let char? := match third with
    | none => if b < 0x80 then some (Char.ofNat b.toNat) else none
    | some .latin => if b < 0x80 then some (Char.ofNat (b.toNat + 0x80)) else none
    | some _ => greek? (b ^^^ 0x80).toNat
  match third with
  | none | some .latin | some .greek => (char?.map fun c => Reading.chars [c] 3).getD (.fault 3)
  | some _ => .refused .noSingle

/-! ### Bytes -/

/-- The reading of a byte that is taken from a set, and of the one behind it if characters take two. -/
def readFrom (set : Repertoire) (b : UInt8) (rest : List UInt8) : Reading :=
  let reading (n count : Nat) : Reading :=
    ((set.chars? n).map fun cs => Reading.chars cs count).getD (.fault count)
  if set.isDouble then
    match rest with
    | [] => .cut
    | c :: _ => reading (b.toNat * 0x100 + c.toNat) 2
  else reading b.toNat 1

/-- The reading of some bytes. -/
def readDesignated (d : Designations) (s : DesignatedState) : List UInt8 → Reading × DesignatedState
  | [] => (.cut, s)
  | b :: rest =>
    let itself := Reading.chars [Char.ofNat b.toNat] 1
    if s.passing then (itself, { s with passing := !isEscapeEnd b })
    else if b = escapeByte then
      match rest with
      | [] => (.cut, s)
      | c :: more =>
        if [0x28, 0x29, 0x24, 0x2e, 0x26].contains c then readEscape d s (b :: rest)
        else if d.singles && c = 0x4e then
          match more with
          | [] => (.cut, s)
          | c :: _ => (readSingle s.third c, s)
        else (itself, { s with passing := true })
    else if d.shifts && (b = 0x0e || b = 0x0f) then (.chars [] 1, { s with shifted := b = 0x0e })
    else if b = 0x0a then (itself, { s with shifted := false })
    else if b < 0x20 then (itself, s)
    else if 0x80 ≤ b then (.fault 1, s)
    else
      match if s.shifted then s.second else s.first with
      | none => (itself, s)
      | some set => (readFrom set b rest, s)

end SchemaAudit.Text.Eastern

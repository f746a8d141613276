import SchemaAudit.Host.Composed
import SchemaAudit.Host.LabelTable
import SchemaAudit.Host.Punycode
import SchemaAudit.Text.Blank

/-!
Names of hosts outside ASCII. A name is labels with dots between them. A label holds letters, digits and
hyphens of all scripts, in composed form and running in one direction, and is sent in ASCII behind a tag.
-/

namespace SchemaAudit.Host

open Text (inRuns)

/-! ### Directions -/

/-- The ways in which characters run. -/
inductive Direction where
  | leftToRight
  | rightToLeft
  | europeanNumber
  | arabicNumber
  | nonspacing
  | neutral
  deriving DecidableEq, Repr

/-- The way in which a character of a label runs. -/
def direction (n : Nat) : Direction :=
  if inRuns nonspacingRuns n then .nonspacing
  else if inRuns rightToLeftRuns n then .rightToLeft
  else if inRuns europeanNumberRuns n then .europeanNumber
  else if inRuns arabicNumberRuns n then .arabicNumber
  else if inRuns neutralRuns n then .neutral
  else .leftToRight

/-- Whether directions go together in a label. With one that runs from right to left or as an Arabic number
among them, the first has to run from right to left and none the other way, the last that takes room has to
be a letter or a number, and numbers have to be of one kind. -/
def directionsAgree (ds : List Direction) : Bool :=
  if ds.all fun d => d ≠ .rightToLeft && d ≠ .arabicNumber then true
  else
    let last := (ds.reverse.dropWhile (· = .nonspacing)).head?
    ds.head? = some .rightToLeft && !ds.contains .leftToRight &&
      last.any (fun d => d = .rightToLeft || d = .europeanNumber || d = .arabicNumber) &&
      !(ds.contains .europeanNumber && ds.contains .arabicNumber)

/-! ### Characters -/

/-- Whether a character is a mark. -/
def isMark (n : Nat) : Bool := inRuns nonspacingRuns n || inRuns spacingMarkRuns n

/-- Whether a mark takes the vowel of the consonant before it. -/
def isVirama (n : Nat) : Bool := markClass n = 9

/-- Whether joins pass over a character. -/
def isTransparent (n : Nat) : Bool :=
  (inRuns nonspacingRuns n || inRuns transparentSpacingRuns n) && !inRuns opaqueMarkRuns n

/-- Whether letters would join over a place between them. What is before it is given from the place on. -/
def joinsOver (before after : List Nat) : Bool :=
  (before.dropWhile isTransparent).head?.any
      (fun n => inRuns dualJoiningRuns n || inRuns leftJoiningRuns n) &&
    (after.dropWhile isTransparent).head?.any
      (fun n => inRuns dualJoiningRuns n || inRuns rightJoiningRuns n)

/-- Whether a character may stand in a label at its place. What is before it is given from the place on. -/
def mayStand (label before : List Nat) (n : Nat) (after : List Nat) : Bool :=
  if n = 0xb7 then before.head? = some 0x6c && after.head? = some 0x6c
  else if n = 0x375 then after.head?.any (inRuns greekRuns)
  else if n = 0x5f3 || n = 0x5f4 then before.head?.any (inRuns hebrewRuns)
  else if n = 0x30fb then label.any (inRuns eastAsianRuns)
  else if n = 0x200c then before.head?.any isVirama || joinsOver before after
  else if n = 0x200d then before.head?.any isVirama
  else if 0x660 ≤ n && n ≤ 0x669 then !label.any fun m => 0x6f0 ≤ m && m ≤ 0x6f9
  else if 0x6f0 ≤ n && n ≤ 0x6f9 then !label.any fun m => 0x660 ≤ m && m ≤ 0x669
  else inRuns labelRuns n

/-- Whether every character may stand at its place behind some others. -/
def allMayStand (label before : List Nat) : List Nat → Bool
  | [] => true
  | n :: after => mayStand label before n after && allMayStand label (n :: before) after

/-! ### Labels -/

/-- Whether hyphens stand where they may: not at an end, nor both third and fourth. -/
def hyphensFit (s : List Nat) : Bool :=
  s.head? ≠ some 0x2d && s.getLast? ≠ some 0x2d && (s.drop 2).take 2 ≠ [0x2d, 0x2d]

/-- Whether some code points are a label. -/
def isLabel (s : List Nat) : Bool :=
  !s.isEmpty && hyphensFit s && !s.head?.any isMark && allMayStand s [] s &&
    directionsAgree (s.map direction) && isComposed s

/-- What a label in ASCII starts with if it stands for another one. -/
def asciiTag : List Char := ['x', 'n', '-', '-']

/-- Whether a text in ASCII and small letters is a label, or stands for one. -/
def isAsciiLabel (s : List Char) : Bool :=
  if asciiTag.isPrefixOf s then
    let coded := s.drop asciiTag.length
    !coded.isEmpty && coded.getLast? ≠ some '-' && (Punycode.decode? coded).any isLabel
  else isLabel (s.map Char.toNat)

/-- The longest label in ASCII. -/
def labelLimit : Nat := 63

/-- The form in ASCII of a label. -/
def asciiLabel? (s : List Char) : Option (List Char) :=
  let ascii :=
    if s.all fun c => c.toNat < 0x80 then if isAsciiLabel s then some s else none
    else if isLabel (s.map Char.toNat) then some (asciiTag ++ Punycode.encode (s.map Char.toNat))
    else none
  ascii.filter (·.length ≤ labelLimit)

/-! ### Names -/

/-- The longest name in ASCII, a dot at its end not being counted. -/
def nameLimit : Nat := 253

/-- A text with every kind of dot as the full stop. -/
def plainDots (s : List Char) : List Char :=
  s.map fun c => if c = '\u3002' || c = '\uff0e' || c = '\uff61' then '.' else c

/-- The form in ASCII of a name in small letters. A dot may stand at its end. -/
def asciiName? (s : List Char) : Option (List Char) :=
  let labels := Text.pieces '.' (plainDots s)
  let dotted := labels.getLast? = some []
  if nameLimit + 1 < s.length then none
  else
    match (if dotted then labels.dropLast else labels).mapM asciiLabel? with
    | none => none
    | some labels =>
      let name := ['.'].intercalate labels
      if nameLimit < name.length then none else some (if dotted then name ++ ['.'] else name)

end SchemaAudit.Host

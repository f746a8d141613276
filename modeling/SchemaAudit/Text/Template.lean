import SchemaAudit.Number.Text
import SchemaAudit.Text.Digit
import SchemaAudit.Text.Facet

/-!
Templates with named fields: text in which a name between braces stands for a value, and a doubled
brace for itself. A field may pick characters of its value and what else it can be asked for, ask for it in
quotes, and lay it out in a width. A template is read from left to right, and the first thing wrong with it is what is reported.
-/

namespace SchemaAudit.Template

variable [StandIns]

/-- What can be wrong with a template. -/
inductive Error where
  | loneOpen
  | loneClose
  | openInName
  | unclosedField
  | unclosedLayout
  | conversionMissing
  | colonExpected
  | unknownConversion (c : Char)
  | unknownName (name : String)
  | noPosition (index : Nat)
  | tooManyDigits
  | emptyAccess
  | strayAfterBracket
  | noMember (f : Facet) (name : String)
  | indexOutOfRange (f : Facet)
  | indexNotNumber (f : Facet)
  | notIndexed (f : Facet)
  | notLaidOut (f : Facet)
  | nestedTooDeep
  | signRefused (space : Bool)
  | zeroRefused
  | alternateRefused
  | padAfterSignRefused
  | separatorRefused (separator code : Char)
  | separatorsTogether
  | precisionMissing
  | layoutRefused (layout : String)
  | codeRefused (code : Char)
  deriving DecidableEq, Repr

/-- A character of a message: itself if it is printable ASCII, else its number. -/
def shownCode (c : Char) : String :=
  if 32 < c.toNat && c.toNat < 127 then String.ofList [c]
  else String.ofList ('\\' :: 'x' :: Nat.toDigits 16 c.toNat)

/-- What is said of an error. -/
def Error.message : Error → String
  | loneOpen => "Single '\x7b' encountered in format string"
  | loneClose => "Single '\x7d' encountered in format string"
  | openInName => "unexpected '\x7b' in field name"
  | unclosedField => "expected '\x7d' before end of string"
  | unclosedLayout => "unmatched '\x7b' in format spec"
  | conversionMissing => "end of string while looking for conversion specifier"
  | colonExpected => "expected ':' after conversion specifier"
  | unknownConversion c => "Unknown conversion specifier " ++ shownCode c
  | unknownName name => Text.inQuotes name
  | noPosition index => s!"Replacement index {index} out of range for positional args tuple"
  | tooManyDigits => "Too many decimal digits in format string"
  | emptyAccess => "Empty attribute in format string"
  | strayAfterBracket => "Only '.' or '[' may follow ']' in format field specifier"
  | noMember (.kind kind) name => s!"type object '{kind}' has no attribute '{name}'"
  | noMember f name => s!"'{f.kindName}' object has no attribute '{name}'"
  | indexOutOfRange (.text _) => "string index out of range"
  | indexOutOfRange _ => "tuple index out of range"
  | indexNotNumber (.text _) => "string indices must be integers, not 'str'"
  | indexNotNumber _ => "tuple indices must be integers or slices, not str"
  | notIndexed (.kind kind) => s!"type '{kind}' is not subscriptable"
  | notIndexed f => s!"'{f.kindName}' object is not subscriptable"
  | notLaidOut f => s!"unsupported format string passed to {f.kindName}.__format__"
  | nestedTooDeep => "Max string recursion exceeded"
  | signRefused true => "Space not allowed in string format specifier"
  | signRefused false => "Sign not allowed in string format specifier"
  | zeroRefused => "Negative zero coercion (z) not allowed in string format specifier"
  | alternateRefused => "Alternate form (#) not allowed in string format specifier"
  | padAfterSignRefused => "'=' alignment not allowed in string format specifier"
  | separatorRefused separator code =>
    "Cannot specify '" ++ String.ofList [separator] ++ "' with '" ++ shownCode code ++ "'."
  | separatorsTogether => "Cannot specify both ',' and '_'."
  | precisionMissing => "Format specifier missing precision"
  | layoutRefused layout => s!"Invalid format specifier '{layout}' for object of type 'str'"
  | codeRefused code => "Unknown format code '" ++ shownCode code ++ "' for object of type 'str'"

/-- The name of the kind of an error. -/
def Error.kind : Error → String
  | unknownName _ => "KeyError"
  | noPosition _ => "IndexError"
  | indexOutOfRange _ => "IndexError"
  | noMember _ _ => "AttributeError"
  | indexNotNumber _ => "TypeError"
  | notIndexed _ => "TypeError"
  | notLaidOut _ => "TypeError"
  | _ => "ValueError"

/-! ### Fields -/

/-- A field: its name with what is picked from it, its conversion, and its layout. -/
structure Field where
  name : List Char
  conversion? : Option Char
  layout : List Char

/-- The name of a field up to the character that ends it, that character, and the rest. Between
brackets no character ends it. -/
def scanName (inBrackets : Bool) : List Char → Except Error (List Char × Char × List Char)
  | [] => .error .unclosedField
  | c :: rest =>
    let goOn (b : Bool) := (scanName b rest).map fun (name, stop, after) => (c :: name, stop, after)
    if inBrackets then goOn (c ≠ ']')
    else if c = '{' then .error .openInName
    else if c = '[' then goOn true
    else if c = '}' || c = ':' || c = '!' then .ok ([], c, rest)
    else goOn false

/-- A layout up to the brace that closes the field, and the rest. -/
def scanLayout (depth : Nat) : List Char → Except Error (List Char × List Char)
  | [] => .error .unclosedLayout
  | c :: rest =>
    let goOn (d : Nat) := (scanLayout d rest).map fun (layout, after) => (c :: layout, after)
    if c = '{' then goOn (depth + 1)
    else if c = '}' then
      match depth with
      | 0 => .ok ([], rest)
      | d + 1 => goOn d
    else goOn depth

/-- The field after an opening brace, and the rest. -/
def scanField (s : List Char) : Except Error (Field × List Char) := do
  let (name, stop, rest) ← scanName false s
  if stop = '}' then return (⟨name, none, []⟩, rest)
  if stop = ':' then
    let (layout, rest) ← scanLayout 0 rest
    return (⟨name, none, layout⟩, rest)
  match rest with
  | [] => throw .conversionMissing
  | [_] => throw .unclosedLayout
  | c :: '}' :: rest => return (⟨name, some c, []⟩, rest)
  | c :: ':' :: rest =>
    let (layout, rest) ← scanLayout 0 rest
    return (⟨name, some c, layout⟩, rest)
  | _ => throw .colonExpected

/-- The largest number that a template may hold. -/
def numberLimit : Nat := 9223372036854775807

/-- The value of digits in base ten. -/
def numberOf (ds : List Char) : Except Error Nat :=
  let n := ds.foldl (fun n c => n * 10 + (c.toNat - 0x30)) 0
  if numberLimit < n then .error .tooManyDigits else .ok n

/-- The number that a whole text is, if it is one. Digits at its start that are too many are refused
before what follows them is looked at. -/
def number? (s : List Char) : Except Error (Option Nat) := do
  match Text.leadingDigits s with
  | ([], _) => return none
  | (ds, rest) =>
    let n ← numberOf ds
    return if rest.isEmpty then some n else none

/-- What stands at a place of a facet that has places, if the place is one. -/
def itemAt (f : Facet) (place? : Option Nat) : Except Error Facet :=
  let found (item? : Nat → Option Facet) : Except Error Facet :=
    match place? with
    | none => .error (.indexNotNumber f)
    | some n => (item? n).elim (.error (.indexOutOfRange f)) .ok
  match f with
  | .text s => found fun n => (s[n]?).map fun c => .text [c]
  | .kinds names => found fun n => (names[n]?).map .kind
  | f => .error (.notIndexed f)

/-- What is picked from a facet by the rest of a field's name. Fuel: one step per character. -/
def pick (f : Facet) : Nat → List Char → Except Error Facet
  | 0, _ => .ok f
  | _, [] => .ok f
  | steps + 1, '[' :: s => do
    let inner := s.takeWhile (· ≠ ']')
    if inner.isEmpty then throw .emptyAccess
    pick (← itemAt f (← number? inner)) steps (s.drop (inner.length + 1))
  | steps + 1, '.' :: s => do
    let name := s.takeWhile fun c => c ≠ '.' && c ≠ '['
    if name.isEmpty then throw .emptyAccess
    match f.member? (String.ofList name) with
    | some f => pick f steps (s.drop name.length)
    | none => throw (.noMember f (String.ofList name))
  | _, _ => .error .strayAfterBracket

/-- The value that a field's name asks for. Values have names only, so a number names none. -/
def valueOf (values : List (String × String)) (name : List Char) : Except Error Facet := do
  let first := name.takeWhile fun c => c ≠ '.' && c ≠ '['
  if first.isEmpty then throw (.noPosition 0)
  if let some n ← number? first then throw (.noPosition n)
  match values.lookup (String.ofList first) with
  | none => throw (.unknownName (String.ofList first))
  | some v => pick (.text v.toList) name.length (name.drop first.length)

/-- A text with every character outside ASCII escaped. -/
def inAscii (s : List Char) : List Char :=
  s.flatMap fun c =>
    if c.toNat < 0x80 then [c]
    else if c.toNat < 0x100 then '\\' :: 'x' :: Text.hex 2 c.toNat
    else if c.toNat < 0x10000 then '\\' :: 'u' :: Text.hex 4 c.toNat
    else '\\' :: 'U' :: Text.hex 8 c.toNat

/-- A value converted as a field asks. -/
def convert (value : Facet) : Option Char → Except Error Facet
  | none => .ok value
  | some 's' => .ok (.text value.shown)
  | some 'r' => .ok (.text value.quoted)
  | some 'a' => .ok (.text (inAscii value.quoted))
  | some c => .error (.unknownConversion c)

/-! ### Layouts -/

/-- Whether a character says where a text stands in its width. -/
def isAlignment (c : Char) : Bool := c = '<' || c = '>' || c = '=' || c = '^'

/-- Fill and alignment, and the rest of a layout. -/
def readAlignment : List Char → Option Char × Option Char × List Char
  | f :: a :: rest =>
    if isAlignment a then (some f, some a, rest)
    else if isAlignment f then (none, some f, a :: rest)
    else (none, none, f :: a :: rest)
  | [a] => if isAlignment a then (none, some a, []) else (none, none, [a])
  | [] => (none, none, [])

/-- One of some characters at the start of a text, and the rest. -/
def readOne (choices : List Char) : List Char → Option Char × List Char
  | c :: rest => if choices.contains c then (some c, rest) else (none, c :: rest)
  | [] => (none, [])

/-- A number at the start of a text, if there is one, and the rest. -/
def readNumber (s : List Char) : Except Error (Option Nat × List Char) :=
  match Text.leadingDigits s with
  | ([], _) => .ok (none, s)
  | (ds, rest) => (numberOf ds).map fun n => (some n, rest)

/-- A text padded to a width. -/
def pad (fill align : Char) (width : Nat) (s : List Char) : List Char :=
  let gap := width - s.length
  let left := if align = '>' then gap else if align = '^' then gap / 2 else 0
  List.replicate left fill ++ s ++ List.replicate (gap - left) fill

/-- A text laid out as a layout says. -/
def layOut (layout value : List Char) : Except Error (List Char) := do
  if layout.isEmpty then return value
  let (fill?, align?, s) := readAlignment layout
  let (sign?, s) := readOne ['+', '-', ' '] s
  let (zero?, s) := readOne ['z'] s
  let (alternate?, s) := readOne ['#'] s
  let (pad0?, s) := if fill?.isNone then readOne ['0'] s else (none, s)
  let (width?, s) ← readNumber s
  let (comma?, s) := readOne [','] s
  let (low?, s) := readOne ['_'] s
  if comma?.isSome && low?.isSome then throw .separatorsTogether
  if low?.isSome && s.head? = some ',' then throw .separatorsTogether
  let (point?, s) := readOne ['.'] s
  let (precision?, s) ← if point?.isSome then readNumber s else pure (none, s)
  if point?.isSome && precision?.isNone then throw .precisionMissing
  let code ← match s with
    | [] => pure 's'
    | [c] => pure c
    | _ => throw (.layoutRefused (String.ofList layout))
  match comma?.or low? with
  | some separator =>
    let allowed := "deEfFgG%".toList.contains code || (separator = '_' && "boxX".toList.contains code)
    if !allowed then throw (.separatorRefused separator code)
  | none => pure ()
  if code ≠ 's' then throw (.codeRefused code)
  if sign?.isSome then throw (.signRefused (sign? = some ' '))
  if zero?.isSome then throw .zeroRefused
  if alternate?.isSome then throw .alternateRefused
  if align? = some '=' then throw .padAfterSignRefused
  let cut := match precision? with
    | some p => value.take p
    | none => value
  return pad ((fill?.or pad0?).getD ' ') (align?.getD '<') (width?.getD 0) cut

/-- A facet laid out as a layout says. Only texts know layouts. -/
def layOutFacet (layout : List Char) (f : Facet) : Except Error (List Char) :=
  match f with
  | .text s => layOut layout s
  | f => if layout.isEmpty then .ok f.shown else .error (.notLaidOut f)

/-! ### Templates -/

/-- A template filled in, where `nested` fills in the layouts that hold fields themselves. Every step
reads a character at least. -/
def fillWith (nested : List Char → Except Error (List Char)) (values : List (String × String)) :
    Nat → List Char → Except Error (List Char)
  | 0, _ => .ok []
  | _, [] => .ok []
  | steps + 1, '{' :: '{' :: rest => (fillWith nested values steps rest).map ('{' :: ·)
  | steps + 1, '}' :: '}' :: rest => (fillWith nested values steps rest).map ('}' :: ·)
  | _, ['{'] => .error .loneOpen
  | _, '}' :: _ => .error .loneClose
  | steps + 1, '{' :: rest => do
    let (field, rest) ← scanField rest
    let value ← valueOf values field.name
    let value ← convert value field.conversion?
    let layout ← if field.layout.contains '{' then nested field.layout else pure field.layout
    let text ← layOutFacet layout value
    return text ++ (← fillWith nested values steps rest)
  | steps + 1, c :: rest => (fillWith nested values steps rest).map (c :: ·)

/-- A template filled in, with layouts that may hold fields to a depth. -/
def fillDeep (values : List (String × String)) : Nat → List Char → Except Error (List Char)
  | 0, _ => .error .nestedTooDeep
  | depth + 1, s => fillWith (fillDeep values depth) values (s.length + 1) s

/-- A template filled in with named values. -/
def fill (values : List (String × String)) (template : String) : Except Error String :=
  (fillDeep values 2 template.toList).map String.ofList

end SchemaAudit.Template

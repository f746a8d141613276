import SchemaAudit.Json.Basic
import SchemaAudit.Text.Half

/-!
JSON read from text. Besides the standard's values the words `NaN`, `Infinity` and `-Infinity` are
numbers, and half a pair may stand in a string by itself. A refusal says what was expected and carries
the text from where it was expected, so its position is the length of what had been read. Every step of
the reader leaves less text, so a count of steps as long as the text never runs out; arrays and objects
may lie in each other only so deep.
-/

namespace SchemaAudit.Json

variable [StandIns]

/-- The values that hold other values. -/
inductive Container where
  | array
  | object
  deriving DecidableEq, Repr

/-- The name of a container. -/
def Container.name : Container → String
  | array => "array"
  | object => "object"

/-- What a text lacks to be JSON. -/
inductive Refusal where
  | expectedValue
  | expectedName
  | expectedColon
  | expectedComma
  | extraText
  | unterminatedString
  | controlCharacter
  | badEscape
  | badUnicodeEscape
  | byteOrderMark
  | tooManyDigits (count : Nat)
  | tooDeep (container : Container)
  deriving DecidableEq, Repr

/-- A refusal with the text that stood where it arose. -/
structure Stop where
  refusal : Refusal
  rest : List Char

/-- A value read from a text with the text after it. -/
abbrev Step (α : Type) := Except Stop (α × List Char)

/-- The four characters that may stand between the parts of a value. -/
def isGap (c : Char) : Bool := c = ' ' || c = '\t' || c = '\n' || c = '\r'

/-- A text without the gap at its start. -/
def skipGap (s : List Char) : List Char := s.dropWhile isGap

/-- The value of a digit in base sixteen. -/
def hexValue? (c : Char) : Option Nat :=
  if '0' ≤ c && c ≤ '9' then some (c.toNat - 0x30)
  else if 'a' ≤ c && c ≤ 'f' then some (c.toNat - 0x61 + 10)
  else if 'A' ≤ c && c ≤ 'F' then some (c.toNat - 0x41 + 10)
  else none

/-- The value of four digits in base sixteen. -/
def hex4? (a b c d : Char) : Option Nat := do
  let a ← hexValue? a
  let b ← hexValue? b
  let c ← hexValue? c
  let d ← hexValue? d
  some (((a * 16 + b) * 16 + c) * 16 + d)

/-- What the letter after a backslash stands for. -/
def escaped? : Char → Option Char
  | '"' => some '"'
  | '\\' => some '\\'
  | '/' => some '/'
  | 'b' => some '\x08'
  | 'f' => some '\x0c'
  | 'n' => some '\n'
  | 'r' => some '\r'
  | 't' => some '\t'
  | _ => none

/-- The rest of a string whose opening quote stands at the start of `opening`. -/
def readString (opening : List Char) : List Char → Step (List Char)
  | [] => .error ⟨.unterminatedString, opening⟩
  | '"' :: rest => .ok ([], rest)
  | ['\\'] => .error ⟨.unterminatedString, opening⟩
  | '\\' :: 'u' :: a :: b :: c :: d :: e :: rest =>
    match hex4? a b c d with
    | none => .error ⟨.badUnicodeEscape, 'u' :: a :: b :: c :: d :: e :: rest⟩
    | some high =>
      match e, rest with
      | '\\', 'u' :: p :: q :: r :: s :: t :: rest' =>
        if Text.isHighHalf high then
          match hex4? p q r s with
          | none => .error ⟨.badUnicodeEscape, 'u' :: p :: q :: r :: s :: t :: rest'⟩
          | some low =>
            if Text.isLowHalf low then
              (readString opening (t :: rest')).map fun (text, after) => (Text.pairChar high low :: text, after)
            else
              (readString opening ('\\' :: 'u' :: p :: q :: r :: s :: t :: rest')).map
                fun (text, after) => (Text.unitChar high :: text, after)
        else
          (readString opening ('\\' :: 'u' :: p :: q :: r :: s :: t :: rest')).map
            fun (text, after) => (Text.unitChar high :: text, after)
      | e, rest =>
        (readString opening (e :: rest)).map fun (text, after) => (Text.unitChar high :: text, after)
  | '\\' :: 'u' :: short => .error ⟨.badUnicodeEscape, 'u' :: short⟩
  | '\\' :: c :: rest =>
    match escaped? c with
    | none => .error ⟨.badEscape, '\\' :: c :: rest⟩
    | some x => (readString opening rest).map fun (text, after) => (x :: text, after)
  | c :: rest =>
    if c.toNat < 0x20 then .error ⟨.controlCharacter, c :: rest⟩
    else (readString opening rest).map fun (text, after) => (c :: text, after)
  termination_by s => s.length

/-- Whether a character is a digit of base ten. -/
def isDigit (c : Char) : Bool := '0' ≤ c && c ≤ '9'

/-- The natural that digits of base ten write. -/
def digitsValue (ds : List Char) : Nat := ds.foldl (fun n c => n * 10 + (c.toNat - 0x30)) 0

/-- A whole number may have this many digits. -/
def digitLimit : Nat := 4300

/-- The digits after a point, if a point with a digit stands there, and the text after them. -/
def readFraction : List Char → Option (List Char) × List Char
  | '.' :: d :: rest =>
    if isDigit d then (some (d :: rest.takeWhile isDigit), rest.dropWhile isDigit)
    else (none, '.' :: d :: rest)
  | s => (none, s)

/-- An exponent after its letter: its value and the text after it, if it has a digit. -/
def readExponentAfter (s : List Char) : Option (Int × List Char) :=
  let (negative, s) := match s with
    | '-' :: d :: r => (true, d :: r)
    | '+' :: d :: r => (false, d :: r)
    | s => (false, s)
  match s.takeWhile isDigit with
  | [] => none
  | ds => some (if negative then - Int.ofNat (digitsValue ds) else Int.ofNat (digitsValue ds),
      s.dropWhile isDigit)

/-- An exponent, if one stands there, and the text after it. -/
def readExponent : List Char → Option Int × List Char
  | c :: rest =>
    if c = 'e' || c = 'E' then
      match readExponentAfter rest with
      | some (e, after) => (some e, after)
      | none => (none, c :: rest)
    else (none, c :: rest)
  | [] => (none, [])

/-- The digits before the point, a zero standing alone, and the text after them. -/
def readWhole : List Char → Option (List Char × List Char)
  | '0' :: rest => some (['0'], rest)
  | c :: rest =>
    if isDigit c then some (c :: rest.takeWhile isDigit, rest.dropWhile isDigit) else none
  | [] => none

/-- A number without its sign; `start` is the text from its sign on. -/
def readUnsigned (start : List Char) (negative : Bool) (s : List Char) : Step Json :=
  match readWhole s with
  | none => .error ⟨.expectedValue, start⟩
  | some (whole, rest) =>
    match readFraction rest with
    | (fraction, rest) =>
      match readExponent rest with
      | (exponent, rest) =>
        if fraction.isNone && exponent.isNone then
          if digitLimit < whole.length then .error ⟨.tooManyDigits whole.length, start⟩
          else
            let n := Int.ofNat (digitsValue whole)
            .ok (.int (if negative then -n else n), rest)
        else
          let tail := fraction.getD []
          .ok (.real (.ofDecimal negative (digitsValue (whole ++ tail))
            (exponent.getD 0 - Int.ofNat tail.length)), rest)

/-- A number with an optional sign. -/
def readNumber : List Char → Step Json
  | '-' :: rest => readUnsigned ('-' :: rest) true rest
  | s => readUnsigned s false s

/-- A value that is no string, array or object: a word or a number. -/
def readScalar : List Char → Step Json
  | 'n' :: 'u' :: 'l' :: 'l' :: rest => .ok (.null, rest)
  | 't' :: 'r' :: 'u' :: 'e' :: rest => .ok (.bool true, rest)
  | 'f' :: 'a' :: 'l' :: 's' :: 'e' :: rest => .ok (.bool false, rest)
  | 'N' :: 'a' :: 'N' :: rest => .ok (.real .nan, rest)
  | 'I' :: 'n' :: 'f' :: 'i' :: 'n' :: 'i' :: 't' :: 'y' :: rest => .ok (.real (.infinite false), rest)
  | '-' :: 'I' :: 'n' :: 'f' :: 'i' :: 'n' :: 'i' :: 't' :: 'y' :: rest =>
    .ok (.real (.infinite true), rest)
  | s => readNumber s

/-- Arrays and objects may lie in each other so deep. -/
def depthLimit : Nat := 985

mutual

/-- A value at the start of a text; `depth` is how many containers may still open. -/
def readValue (depth : Nat) : Nat → List Char → Step Json
  | 0, s => .error ⟨.expectedValue, s⟩
  | steps + 1, s =>
    match s with
    | '"' :: rest => (readString s rest).map fun (text, after) => (.str (String.ofList text), after)
    | '[' :: rest =>
      if depth = 0 then .error ⟨.tooDeep .array, s⟩
      else match skipGap rest with
        | ']' :: after => .ok (.arr [], after)
        | inner => (readItems (depth - 1) steps inner).map fun (items, after) => (.arr items, after)
    | '{' :: rest =>
      if depth = 0 then .error ⟨.tooDeep .object, s⟩
      else match skipGap rest with
        | '}' :: after => .ok (.obj [], after)
        | inner => (readMembers (depth - 1) steps inner).map fun (ms, after) => (.obj (membersOf ms), after)
    | _ => readScalar s

/-- The items of an array that has some, up to its end. -/
def readItems (depth : Nat) : Nat → List Char → Step (List Json)
  | 0, s => .error ⟨.expectedValue, s⟩
  | steps + 1, s =>
    match readValue depth steps s with
    | .error e => .error e
    | .ok (item, rest) =>
      match skipGap rest with
      | ']' :: after => .ok ([item], after)
      | ',' :: more =>
        (readItems depth steps (skipGap more)).map fun (items, after) => (item :: items, after)
      | other => .error ⟨.expectedComma, other⟩

/-- The members of an object that has some, up to its end. -/
def readMembers (depth : Nat) : Nat → List Char → Step (List (String × Json))
  | 0, s => .error ⟨.expectedName, s⟩
  | steps + 1, s =>
    match s with
    | '"' :: rest =>
      match readString s rest with
      | .error e => .error e
      | .ok (name, rest) =>
        match skipGap rest with
        | ':' :: rest =>
          match readValue depth steps (skipGap rest) with
          | .error e => .error e
          | .ok (value, rest) =>
            match skipGap rest with
            | '}' :: after => .ok ([(String.ofList name, value)], after)
            | ',' :: more =>
              (readMembers depth steps (skipGap more)).map
                fun (ms, after) => ((String.ofList name, value) :: ms, after)
            | other => .error ⟨.expectedComma, other⟩
        | other => .error ⟨.expectedColon, other⟩
    | other => .error ⟨.expectedName, other⟩

end

/-- Where in a text a refusal arose: the characters before it, and its line and column from one. -/
structure Position where
  offset : Nat
  line : Nat
  column : Nat
  deriving DecidableEq, Repr

/-- The position after some text. -/
def Position.after (before : List Char) : Position :=
  ⟨before.length, before.count '\n' + 1, (before.reverse.takeWhile (· ≠ '\n')).length + 1⟩

/-- A refusal with its position. -/
structure SyntaxError where
  refusal : Refusal
  position : Position
  deriving DecidableEq, Repr

/-- The one value of a text, which may have gaps before and after it. -/
def readText (s : List Char) : Except Stop Json :=
  match s with
  | '\uFEFF' :: _ => .error ⟨.byteOrderMark, s⟩
  | _ =>
    match readValue depthLimit (2 * s.length + 1) (skipGap s) with
    | .error e => .error e
    | .ok (value, rest) =>
      match skipGap rest with
      | [] => .ok value
      | extra => .error ⟨.extraText, extra⟩

/-- The value of a text, or why and where it is not JSON. -/
def parse (s : List Char) : Except SyntaxError Json :=
  match readText s with
  | .ok value => .ok value
  | .error stop => .error ⟨stop.refusal, .after (s.take (s.length - stop.rest.length))⟩

/-- What a refusal says. -/
def Refusal.message : Refusal → String
  | expectedValue => "Expecting value"
  | expectedName => "Expecting property name enclosed in double quotes"
  | expectedColon => "Expecting ':' delimiter"
  | expectedComma => "Expecting ',' delimiter"
  | extraText => "Extra data"
  | unterminatedString => "Unterminated string starting at"
  | controlCharacter => "Invalid control character at"
  | badEscape => "Invalid \\escape"
  | badUnicodeEscape => "Invalid \\uXXXX escape"
  | byteOrderMark => "Unexpected UTF-8 BOM (decode using utf-8-sig)"
  | tooManyDigits count =>
    s!"Exceeds the limit ({digitLimit} digits) for integer string conversion: value has {count} digits; use sys.set_int_max_str_digits() to increase the limit"
  | tooDeep container =>
    s!"maximum recursion depth exceeded while decoding a JSON {container.name} from a unicode string"

/-- What a refusal says, with its position where it has one. -/
def SyntaxError.message (e : SyntaxError) : String :=
  match e.refusal with
  | .tooManyDigits _ | .tooDeep _ => e.refusal.message
  | r => s!"{r.message}: line {e.position.line} column {e.position.column} (char {e.position.offset})"

end SchemaAudit.Json

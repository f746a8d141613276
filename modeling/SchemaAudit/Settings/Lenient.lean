import SchemaAudit.File.Path
import SchemaAudit.Json.Reader
import SchemaAudit.Shape

/-!
Lenient readings: a value is taken for another kind where it plainly says so, a text for a truth value
or a number, a number without fraction for an integer. Settings are read so, since those of the
environment are texts.
-/

namespace SchemaAudit.Lenient

open Checked

/-- The words for truth and for falsehood, in any case of ASCII letters. -/
def booleanWords : List (String × Bool) := [
  ("0", false), ("off", false), ("f", false), ("false", false), ("n", false), ("no", false),
  ("1", true), ("on", true), ("t", true), ("true", true), ("y", true), ("yes", true)]

/-- The integer that a number without fraction is. -/
def wholeValue? (x : Number.Binary64) : Option Int :=
  match x.ratio? with
  | none => none
  | some (negative, num, den) =>
    if num % den = 0 then
      let n := Int.ofNat (num / den)
      some (if negative then -n else n)
    else none

/-- The bound of the integers that a number is taken for. -/
def wholeLimit : Int := Int.ofNat (Nat.pow 2 63)

/-- A truth value. -/
def boolean : Json → Checked Bool
  | .bool b => ok b
  | .str s =>
    match booleanWords.lookup s.toLower with
    | some b => ok b
    | none => wrong .booleanWord
  | .int n =>
    if n = 0 then ok false
    else if n = 1 then ok true
    else if -wholeLimit ≤ n && n < wholeLimit then wrong .booleanWord
    else wrong .boolean
  | .real x =>
    match wholeValue? x with
    | some 0 => ok false
    | some 1 => ok true
    | some n => if -wholeLimit < n && n < wholeLimit then wrong .booleanWord else wrong .boolean
    | none => wrong .boolean
  | _ => wrong .boolean

/-- A text without low lines, if each stands between two other characters. -/
def dropLowLines (s : List Char) : Option (List Char) :=
  let groups := Text.pieces '_' s
  if groups.length = 1 then some s
  else if groups.any List.isEmpty then none
  else some groups.flatten

/-- Whether a character is a space: blanks without the four separators of records. -/
def isSpace (c : Char) : Bool := Text.isBlank c && !(0x1c ≤ c.toNat && c.toNat ≤ 0x1f)

/-- A text without the spaces around it. -/
def trim (s : List Char) : List Char := ((s.dropWhile isSpace).reverse.dropWhile isSpace).reverse

/-- What follows the zeros that an unsigned text starts with. One zero stays before a point, and the last
character where nothing else follows; a sign may stand behind zeros. -/
def dropLeadingZeros : List Char → Option (List Char)
  | '0' :: rest =>
    let zeros := '0' :: rest.takeWhile fun c => c = '0' || c = '_'
    match rest.dropWhile fun c => c = '0' || c = '_' with
    | [] => some (zeros.drop (zeros.length - 1))
    | '.' :: more => some (zeros.drop (zeros.length - 1) ++ '.' :: more)
    | c :: more => if Json.isDigit c || c = '-' then some (c :: more) else none
  | c :: rest => if Json.isDigit c then some (c :: rest) else none
  | [] => none

/-- A text without a point that only zeros follow, of which there is one at least. -/
def dropZeroFraction (s : List Char) : Option (List Char) :=
  match Text.cutAtChar '.' s with
  | none => some s
  | some (whole, fraction) => if !fraction.isEmpty && fraction.all (· = '0') then some whole else none

/-- A text without a sign, cleaned of what an integer may be written with. -/
def cleanDigits (s : List Char) : Option (List Char) := do
  dropLowLines (← dropZeroFraction (← dropLeadingZeros s))

/-- A text cleaned of what an integer may be written with. -/
def cleanInteger (s : List Char) : Option (List Char) :=
  match trim s with
  | '+' :: rest => cleanDigits rest
  | '-' :: rest => (cleanDigits rest).map ('-' :: ·)
  | s => cleanDigits s

/-- An integer in its plain form: a sign that may be left out, and digits without a leading zero. -/
def plainInteger (s : List Char) : Checked Int :=
  let (negative, ds) := match s with
    | '-' :: ds => (true, ds)
    | ds => (false, ds)
  if ds.isEmpty || !ds.all Json.isDigit || (ds.head? = some '0' && ds.length ≠ 1) then wrong .integerText
  else if Json.digitLimit < ds.length then wrong .integerSize
  else
    let n := Int.ofNat (Json.digitsValue ds)
    ok (if negative then -n else n)

/-- The integer that a text is. -/
def integerOfText (s : List Char) : Checked Int :=
  match plainInteger s with
  | ok n => ok n
  | bad [⟨_, .integerSize⟩] => wrong .integerSize
  | bad _ =>
    match cleanInteger s with
    | some s => plainInteger s
    | none => wrong .integerText

/-- An integer. -/
def integer : Json → Checked Int
  | .int n => ok n
  | .bool b => ok (if b then 1 else 0)
  | .real x =>
    match x.ratio? with
    | none => wrong .infinite
    | some _ =>
      match wholeValue? x with
      | none => wrong .fraction
      | some n => if -wholeLimit < n && n < wholeLimit then ok n else wrong .integerSize
  | .str s => integerOfText s.toList
  | _ => wrong .integer

/-- The number that a text without a sign is, in decimal notation or by name. -/
def unsignedNumber? (negative : Bool) (s : List Char) : Option Number.Binary64 :=
  let named := String.ofList (s.map Char.toLower)
  if named = "inf" || named = "infinity" then some (.infinite negative)
  else if named = "nan" then some .nan
  else
    let whole := s.takeWhile Json.isDigit
    let (fraction, rest) := match s.dropWhile Json.isDigit with
      | '.' :: rest => (rest.takeWhile Json.isDigit, rest.dropWhile Json.isDigit)
      | rest => ([], rest)
    if whole.isEmpty && fraction.isEmpty then none
    else
      match Json.readExponent rest with
      | (exponent, []) => some (.ofDecimal negative (Json.digitsValue (whole ++ fraction))
          (exponent.getD 0 - Int.ofNat fraction.length))
      | _ => none

/-- The number that a text is. -/
def numberText? : List Char → Option Number.Binary64
  | '-' :: rest => unsignedNumber? true rest
  | '+' :: rest => unsignedNumber? false rest
  | s => unsignedNumber? false s

/-- The number that a text is. It may have either spaces around it or low lines between its characters. -/
def numberOfText (s : List Char) : Checked Number.Binary64 :=
  match numberText? (trim s), (dropLowLines s).bind numberText? with
  | some x, _ => ok x
  | none, some x => ok x
  | none, none => wrong .numberText

/-- A number. An integer beyond all numbers is none. -/
def number : Json → Checked Number.Binary64
  | .real x => ok x
  | .int n =>
    match Number.Binary64.ofInt n with
    | .infinite _ => wrong .number
    | x => ok x
  | .bool b => ok (.ofInt (if b then 1 else 0))
  | .str s => numberOfText s.toList
  | _ => wrong .number

/-- A path. -/
def path : Json → Checked Path
  | .str s => ok (.ofText s)
  | _ => wrong .path

end SchemaAudit.Lenient

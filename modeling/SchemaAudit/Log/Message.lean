import SchemaAudit.Json.Shown
import SchemaAudit.Number.Rounded

/-!
Messages with codes: a percent sign starts a code that stands for the next of some arguments, or for
the one of a name. A message without arguments is itself. Every argument must be used, and the first
thing wrong with a message is what is told.
-/

namespace SchemaAudit.Message

/-- What can be wrong with a message and its arguments. -/
inductive Fault where
  | tooFewArguments
  | tooManyArguments
  | namesNeeded
  | nameUnclosed
  | codeMissing
  | unknownName (name : String)
  | starNotInteger
  /-- A star stands for a number beyond the words of `type`. -/
  | starTooLarge (type : String)
  | countTooLarge (what : String)
  | textTooLong
  | unknownCode (c : Char) (position : Nat)
  | notNumber (code : Char) (kind : String)
  | notInteger (code : Char) (kind : String)
  | notReal (kind : String)
  | realTooLarge
  | notCharacter
  | characterRange
  deriving DecidableEq, Repr

/-- What a refused message says. -/
def Fault.message [StandIns] : Fault → String
  | tooFewArguments => "not enough arguments for format string"
  | tooManyArguments => "not all arguments converted during string formatting"
  | namesNeeded => "format requires a mapping"
  | nameUnclosed => "incomplete format key"
  | codeMissing => "incomplete format"
  | unknownName name => Text.inQuotes name
  | starNotInteger => "* wants int"
  | starTooLarge type => s!"Python int too large to convert to C {type}"
  | countTooLarge what => s!"{what} too big"
  | textTooLong => ""
  | unknownCode c position =>
    let shown := if 31 ≤ c.toNat && c.toNat ≤ 126 then c else '?'
    let code := String.ofList (Nat.toDigits 16 c.toNat)
    s!"unsupported format character '{shown}' (0x{code}) at index {position}"
  | notNumber code kind => s!"%{code} format: a real number is required, not {kind}"
  | notInteger code kind => s!"%{code} format: an integer is required, not {kind}"
  | notReal kind => s!"must be real number, not {kind}"
  | realTooLarge => "int too large to convert to float"
  | notCharacter => "%c requires int or char"
  | characterRange => "%c arg not in range(0x110000)"

/-- The name of the class of a fault. -/
def Fault.kind : Fault → String
  | nameUnclosed => "ValueError"
  | codeMissing => "ValueError"
  | unknownCode _ _ => "ValueError"
  | countTooLarge _ => "ValueError"
  | starTooLarge _ => "OverflowError"
  | textTooLong => "MemoryError"
  | unknownName _ => "KeyError"
  | realTooLarge => "OverflowError"
  | characterRange => "OverflowError"
  | _ => "TypeError"

/-! ### Arguments -/

/-- What is left of the arguments: a list, or an object of which one value is at hand. -/
inductive Arguments where
  | list (rest : List Json)
  | named (members : List (String × Json)) (atHand : Option Json)

/-- Arguments as they are given. One object that is not empty gives its members by name. -/
def Arguments.of : List Json → Arguments
  | [.obj (m :: ms)] => .named (m :: ms) (some (.obj (m :: ms)))
  | args => .list args

/-- The next argument. -/
def Arguments.next : Arguments → Except Fault (Json × Arguments)
  | list (a :: rest) => .ok (a, list rest)
  | list [] => .error .tooFewArguments
  | named ms (some a) => .ok (a, named ms none)
  | named _ none => .error .tooFewArguments

/-- The arguments with the value of a name at hand. -/
def Arguments.pick (name : String) : Arguments → Except Fault Arguments
  | list _ => .error .namesNeeded
  | named ms _ =>
    match ms.lookup name with
    | some value => .ok (named ms (some value))
    | none => .error (.unknownName name)

/-- Whether no argument of a list is left. -/
def Arguments.isDone : Arguments → Bool
  | list rest => rest.isEmpty
  | named _ _ => true

/-! ### Codes -/

/-- A code without its letter. -/
structure Code where
  left : Bool
  plus : Bool
  blank : Bool
  alternate : Bool
  zero : Bool
  width : Nat
  precision : Option Nat

/-- A name in parentheses, which may hold others, and what follows it. -/
def readName (depth : Nat) : List Char → Except Fault (List Char × List Char)
  | [] => .error .nameUnclosed
  | c :: rest =>
    if c = ')' && depth = 0 then .ok ([], rest)
    else
      let depth := if c = '(' then depth + 1 else if c = ')' then depth - 1 else depth
      (readName depth rest).map fun (name, after) => (c :: name, after)

/-- The flags that stand next, and what follows them. -/
def readFlags (code : Code) : List Char → Code × List Char
  | '-' :: rest => readFlags { code with left := true } rest
  | '+' :: rest => readFlags { code with plus := true } rest
  | ' ' :: rest => readFlags { code with blank := true } rest
  | '#' :: rest => readFlags { code with alternate := true } rest
  | '0' :: rest => readFlags { code with zero := true } rest
  | rest => (code, rest)

/-- Whether a character is a digit. -/
def isDigit (c : Char) : Bool := '0' ≤ c && c ≤ '9'

/-- The number that digits write. -/
def digitsValue (ds : List Char) : Nat := ds.foldl (fun n c => n * 10 + (c.toNat - 0x30)) 0

/-- The two numbers of a code: what they are called, and the signed words that hold them. -/
structure Count where
  what : String
  type : String
  limit : Nat

/-- The width of a code. -/
def Count.width : Count := ⟨"width", "ssize_t", Nat.pow 2 63⟩

/-- The precision of a code. -/
def Count.precision : Count := ⟨"precision", "int", Nat.pow 2 31⟩

/-- So wide a text is never made. -/
def widestText : Nat := Nat.pow 2 40

/-- A number that stands next, in digits or as a star for an argument. -/
def readCount (count : Count) (args : Arguments) (s : List Char) :
    Except Fault (Int × Arguments × List Char) :=
  let limit := Int.ofNat count.limit
  match s with
  | '*' :: rest => do
    match ← args.next with
    | (.int n, args) =>
      if n < -limit || limit ≤ n then .error (.starTooLarge count.type) else .ok (n, args, rest)
    | (.bool b, args) => .ok (if b then 1 else 0, args, rest)
    | _ => .error .starNotInteger
  | s =>
    let n := Int.ofNat (digitsValue (s.takeWhile isDigit))
    if limit ≤ n then .error (.countTooLarge count.what) else .ok (n, args, s.dropWhile isDigit)

/-- A code from its flags on, up to its letter. -/
def readCode (args : Arguments) (s : List Char) : Except Fault (Code × Arguments × List Char) := do
  let (code, s) := readFlags ⟨false, false, false, false, false, 0, none⟩ s
  let (width, args, s) ← readCount .width args s
  if widestText ≤ width.natAbs then throw .textTooLong
  let code := { code with width := width.natAbs, left := code.left || width < 0 }
  let (code, args, s) ← match s with
    | '.' :: s => do
      let (precision, args, s) ← readCount .precision args s
      pure ({ code with precision := some precision.toNat }, args, s)
    | s => pure (code, args, s)
  let s := match s with
    | c :: rest => if c = 'h' || c = 'l' || c = 'L' then rest else c :: rest
    | [] => []
  pure (code, args, s)

/-! ### Layout -/

/-- A number laid out: its sign, its mark of base, its digits. Zeros go between mark and digits. -/
def layNumber (code : Code) (negative : Bool) (mark digits : List Char) : List Char :=
  let sign := if negative then ['-'] else if code.plus then ['+'] else if code.blank then [' '] else []
  let gap := code.width - (sign.length + mark.length + digits.length)
  if code.left then sign ++ mark ++ digits ++ List.replicate gap ' '
  else if code.zero then sign ++ mark ++ List.replicate gap '0' ++ digits
  else List.replicate gap ' ' ++ sign ++ mark ++ digits

/-- A text laid out, cut to the precision. -/
def layText (code : Code) (s : List Char) : List Char :=
  let s := match code.precision with
    | some p => s.take p
    | none => s
  let gap := List.replicate (code.width - s.length) ' '
  if code.left then s ++ gap else gap ++ s

/-- A character laid out. -/
def layCharacter (code : Code) (c : Char) : List Char := layText { code with precision := none } [c]

/-- A text with the characters outside ASCII as escapes. -/
def asciiOnly (s : List Char) : List Char :=
  s.flatMap fun c =>
    if c.toNat < 0x80 then [c]
    else if c.toNat < 0x100 then '\\' :: 'x' :: Text.hex 2 c.toNat
    else if c.toNat < 0x10000 then '\\' :: 'u' :: Text.hex 4 c.toNat
    else '\\' :: 'U' :: Text.hex 8 c.toNat

/-- The integer that an argument of a decimal code is; a fraction is cut off. -/
def wholeOf (letter : Char) : Json → Except Fault Int
  | .int n => .ok n
  | .bool b => .ok (if b then 1 else 0)
  | .real x =>
    match x.ratio? with
    | some (negative, num, den) =>
      let n := Int.ofNat (num / den)
      .ok (if negative then -n else n)
    | none => .error (.notNumber letter "float")
  | value => .error (.notNumber letter value.kindName)

/-- The integer that an argument of a code in another base is. -/
def integerOf (letter : Char) : Json → Except Fault Int
  | .int n => .ok n
  | .bool b => .ok (if b then 1 else 0)
  | value => .error (.notInteger letter value.kindName)

/-- The number that an argument of a code with a point is. -/
def realOf : Json → Except Fault Number.Binary64
  | .real x => .ok x
  | .bool b => .ok (.ofInt (if b then 1 else 0))
  | .int n =>
    match Number.Binary64.ofInt n with
    | .infinite _ => .error .realTooLarge
    | x => .ok x
  | value => .error (.notReal value.kindName)

/-- The character that an argument is. -/
def characterOf : Json → Except Fault Char
  | .str s =>
    match s.toList with
    | [c] => .ok c
    | _ => .error .notCharacter
  | .bool b => .ok (if b then '\x01' else '\x00')
  | .int n => if 0 ≤ n && n < 0x110000 then .ok (Char.ofNat n.toNat) else .error .characterRange
  | _ => .error .notCharacter

/-- An integer laid out in a base. -/
def layInteger (code : Code) (base : Nat) (capital : Bool) (mark : List Char) (n : Int) : List Char :=
  let ds := Nat.toDigits base n.natAbs
  let ds := if capital then ds.map Char.toUpper else ds
  let ds := List.replicate (code.precision.getD 0 - ds.length) '0' ++ ds
  layNumber code (n < 0) (if code.alternate then mark else []) ds

/-- A number with a point laid out. -/
def layReal (code : Code) (form : Number.Notation) (capital : Bool) (x : Number.Binary64) : List Char :=
  let ds := Number.magnitudeText form (code.precision.getD 6) code.alternate 'e' x
  layNumber code x.isNegative [] (if capital then ds.map Char.toUpper else ds)

/-- What a code with its letter stands for. -/
def convert [StandIns] (code : Code) (letter : Char) (position : Nat) (a : Json) : Except Fault (List Char) :=
  match letter with
  | 's' => .ok (layText code a.plain.toList)
  | 'r' => .ok (layText code a.shown.toList)
  | 'a' => .ok (layText code (asciiOnly a.shown.toList))
  | 'd' => (wholeOf letter a).map (layInteger code 10 false [])
  | 'i' => (wholeOf letter a).map (layInteger code 10 false [])
  | 'u' => (wholeOf letter a).map (layInteger code 10 false [])
  | 'o' => (integerOf letter a).map (layInteger code 8 false ['0', 'o'])
  | 'x' => (integerOf letter a).map (layInteger code 16 false ['0', 'x'])
  | 'X' => (integerOf letter a).map (layInteger code 16 true ['0', 'X'])
  | 'f' => (realOf a).map (layReal code .places false)
  | 'F' => (realOf a).map (layReal code .places true)
  | 'e' => (realOf a).map (layReal code .powers false)
  | 'E' => (realOf a).map (layReal code .powers true)
  | 'g' => (realOf a).map (layReal code .general false)
  | 'G' => (realOf a).map (layReal code .general true)
  | 'c' => (characterOf a).map (layCharacter code)
  | _ => .error (.unknownCode letter position)

/-- A text of at most some length with its codes replaced; `length` is that of the whole message. -/
def fillWithin [StandIns] (length : Nat) : Nat → Arguments → List Char → Except Fault (List Char)
  | 0, _, _ => .ok []
  | _, args, [] => if args.isDone then .ok [] else .error .tooManyArguments
  | n + 1, args, '%' :: '%' :: s => (fillWithin length n args s).map ('%' :: ·)
  | n + 1, args, '%' :: s => do
    let (args, s) ← match s with
      | '(' :: s => do
        match args with
        | .list _ => .error .namesNeeded
        | .named _ _ =>
          let (name, s) ← readName 0 s
          pure (← args.pick (String.ofList name), s)
      | s => pure (args, s)
    let (code, args, s) ← readCode args s
    match s with
    | [] => .error .codeMissing
    | letter :: s => do
      let (a, args) ← args.next
      let shown ← convert code letter (length - s.length - 1) a
      pure (shown ++ (← fillWithin length n args s))
  | n + 1, args, c :: s => (fillWithin length n args s).map (c :: ·)

/-- A message with its codes replaced by arguments. -/
def fill [StandIns] (message : String) (args : List Json) : Except Fault String :=
  if args.isEmpty then .ok message
  else
    let s := message.toList
    (fillWithin s.length (s.length + 1) (.of args) s).map String.ofList

end SchemaAudit.Message

import SchemaAudit.Text.Case

/-!
Styles in which the aliases of fields are made from their names. All of them read ASCII letters and
digits only, apart from the change of case.
-/

namespace SchemaAudit.Record

/-- A style of aliases. -/
inductive AliasStyle where
  | camel
  | pascal
  | snake
  | capitals
  deriving DecidableEq, Repr

/-- Whether a character is a capital ASCII letter. -/
def isCapital (c : Char) : Bool := 'A' ≤ c && c ≤ 'Z'

/-- Whether a character is a small ASCII letter. -/
def isSmall (c : Char) : Bool := 'a' ≤ c && c ≤ 'z'

/-- Whether a character is an ASCII digit. -/
def isNumeral (c : Char) : Bool := '0' ≤ c && c ≤ '9'

/-- Whether a character is an ASCII letter or digit. -/
def isPlain (c : Char) : Bool := isCapital c || isSmall c || isNumeral c

/-- A text without each low line between a letter or digit and a capital or digit. -/
def joinWords : List Char → List Char
  | c :: '_' :: d :: rest =>
    if isPlain c && (isNumeral d || isCapital d) then c :: joinWords (d :: rest)
    else c :: joinWords ('_' :: d :: rest)
  | c :: rest => c :: joinWords rest
  | [] => []

/-- Every word starts with a capital, and the low lines between words are gone. -/
def pascal (name : List Char) : List Char := joinWords (Text.title name)

/-- Whether a digit is followed by a small letter somewhere. -/
def digitThenSmall : List Char → Bool
  | c :: d :: rest => (isNumeral c && isSmall d) || digitThenSmall (d :: rest)
  | _ => false

/-- Whether a name is in camel case already. -/
def isCamel (name : List Char) : Bool :=
  name.head?.any isSmall && name.all isPlain && !digitThenSmall name

/-- Pascal case with the first letter, behind low lines, made small. -/
def camel (name : List Char) : List Char :=
  if isCamel name then name
  else
    let p := pascal name
    match p.dropWhile (· = '_') with
    | c :: rest => if isCapital c then p.takeWhile (· = '_') ++ c.toLower :: rest else p
    | [] => p

/-- A low line put between two capitals of which a small letter follows the second. -/
def breakCapitals : List Char → List Char
  | a :: b :: c :: rest =>
    if isCapital a && isCapital b && isSmall c then a :: '_' :: breakCapitals (b :: c :: rest)
    else a :: breakCapitals (b :: c :: rest)
  | short => short

/-- A low line put between two neighbours of the given kinds. -/
def breakBetween (before after : Char → Bool) : List Char → List Char
  | a :: b :: rest =>
    if before a && after b then a :: '_' :: breakBetween before after (b :: rest)
    else a :: breakBetween before after (b :: rest)
  | short => short

/-- Small words with low lines between them. -/
def snake (name : List Char) : List Char :=
  let s := breakCapitals name
  let s := breakBetween isSmall isCapital s
  let s := breakBetween isNumeral isCapital s
  let s := breakBetween isSmall isNumeral s
  Text.lower (s.map fun c => if c = '-' then '_' else c)

/-- The alias of a name. -/
def AliasStyle.alias (style : AliasStyle) (name : String) : String :=
  String.ofList <| match style with
    | camel => Record.camel name.toList
    | pascal => Record.pascal name.toList
    | snake => Record.snake name.toList
    | capitals => Text.upper name.toList

end SchemaAudit.Record

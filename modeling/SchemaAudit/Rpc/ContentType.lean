import SchemaAudit.Json.Reader
import SchemaAudit.Text.Encoding
import SchemaAudit.Text.Percent

/-!
Content types: a kind and parameters behind semicolons, of which one may name the charset of a text. The
value of a parameter may be quoted, and it may be given in parts. A part has a number, and it may be coded:
then its bytes stand as percent codes, and the first part starts with the charset of those bytes.
-/

namespace SchemaAudit.ContentType

/-- A parameter. -/
structure Parameter where
  name : List Char
  value : List Char
  deriving DecidableEq, Repr

/-- A part of a parameter that is given in parts. -/
structure Part where
  name : List Char
  number : Option Nat
  value : List Char
  isCoded : Bool
  deriving DecidableEq, Repr

/-- Why the charset cannot be told. -/
inductive Fault where
  /-- Of the parts of one parameter some have a number and some have none. -/
  | mixedParts (numberedFirst : Bool)
  /-- The name of an encoding holds a NUL. -/
  | nulInName
  deriving DecidableEq, Repr

/-- What is told of a fault: a kind, and a message. -/
def Fault.kindAndMessage : Fault → String × String
  | mixedParts true => ("TypeError", "'<' not supported between instances of 'NoneType' and 'int'")
  | mixedParts false => ("TypeError", "'<' not supported between instances of 'int' and 'NoneType'")
  | nulInName => ("ValueError", "embedded null character")

/-! ### Parameters -/

/-- A text cut at its semicolons, but not between double quotes. A quote behind a backslash is none. -/
def sections (quoted afterSlash : Bool) : List Char → List (List Char)
  | [] => [[]]
  | c :: s =>
    if c = ';' && !quoted then [] :: sections false false s
    else
      let quoted := if c = '"' && !afterSlash then !quoted else quoted
      match sections quoted (c = '\\') s with
      | [] => [[c]]
      | p :: ps => (c :: p) :: ps

/-- The parameter that a section is. The name before an equals sign is taken in small letters. -/
def Parameter.ofSection (s : List Char) : Parameter :=
  match Text.cutAtChar '=' s with
  | some (name, value) => ⟨(Text.trim name).map Char.toLower, Text.trim value⟩
  | none => ⟨Text.trim s, []⟩

/-- A text in which a backslash behind another one, and then one before a quote, is dropped. -/
def unescape (s : List Char) : List Char :=
  (((String.ofList s).replace "\\\\" "\\").replace "\\\"" "\"").toList

/-- A value without the quotes or the angle brackets around it. -/
def unquote (s : List Char) : List Char :=
  let inside := (s.drop 1).dropLast
  if s.length < 2 then s
  else if s.head? = some '"' && s.getLast? = some '"' then unescape inside
  else if s.head? = some '<' && s.getLast? = some '>' then inside
  else s

/-- A parameter with its value unquoted. -/
def Parameter.unquoted (p : Parameter) : Parameter := { p with value := unquote p.value }

/-! ### Parts -/

/-- Whether a character may stand in the name of a parameter in parts. -/
def isNameChar (c : Char) : Bool := c.isAlphanum || c = '_'

/-- The part that a parameter is, as its name shows: behind the name proper stand a star, a number, which
may be missing, and a second star behind the number of a coded part. -/
def Part.ofParameter? (p : Parameter) : Option Part :=
  match Text.cutAtChar '*' p.name with
  | none => none
  | some (name, mark) =>
    let digits := mark.takeWhile Char.isDigit
    let rest := mark.drop digits.length
    if name.isEmpty || !name.all isNameChar then none
    else if mark.isEmpty then some ⟨name, none, p.value, true⟩
    else if !digits.isEmpty && (rest = [] || rest = ['*']) then
      some ⟨name, some (Json.digitsValue digits), p.value, rest = ['*']⟩
    else none

/-- Whether a part comes before another one, or is the same: by number, then by value, and what is not
coded first. -/
def Part.comesBefore (a b : Part) : Bool :=
  if a.number ≠ b.number then a.number.getD 0 ≤ b.number.getD 0
  else if a.value ≠ b.value then a.value < b.value
  else !a.isCoded || b.isCoded

/-- The text of a part; every byte of a coded one is a character. -/
def Part.text (p : Part) : List Char :=
  if p.isCoded then Text.latinChars (Text.Percent.bytes p.value) else p.value

/-- A parameter put together from its parts. -/
structure Joined where
  name : List Char
  text : List Char
  isCoded : Bool
  deriving DecidableEq, Repr

/-- Parts of one parameter put together. -/
def Joined.ofParts (name : List Char) (parts : List Part) : Except Fault Joined :=
  let numbered (p : Part) : Bool := p.number.isSome
  if parts.all numbered || !parts.any numbered then
    let parts := parts.mergeSort Part.comesBefore
    .ok ⟨name, parts.flatMap Part.text, parts.any Part.isCoded⟩
  else .error (.mixedParts (parts.head?.any numbered))

/-- The parameters that some parts make, in the order in which their first parts stand. -/
def joined (parts : List Part) : Except Fault (List Joined) :=
  (parts.map Part.name).eraseDups.mapM fun name =>
    Joined.ofParts name (parts.filter fun p => p.name = name)

/-- The value that some coded text has: a charset, a language and the text, between single quotes. A text
that is not in its charset, or without one of the three, is taken letter by letter. -/
def Joined.value [StandIns] (j : Joined) : Except Fault (List Char) :=
  if j.isCoded then
    let (charset, text) := match Text.pieces '\'' j.text with
      | charset :: _ :: first :: more => (charset, ['\''].intercalate (first :: more))
      | _ => ([], j.text)
    let charset := if charset.isEmpty then "us-ascii".toList else charset
    if charset.contains '\x00' then .error .nulInName
    else
      let bytes := text.map fun c => UInt8.ofNat c.toNat
      .ok (((Text.Encoding.ofName? charset).bind (·.decodeAll? bytes)).getD text)
  else .ok j.text

/-! ### Charset -/

/-- Whether a name is that of the parameter for the charset. -/
def namesCharset (name : List Char) : Bool := name.map Char.toLower = "charset".toList

/-- A charset, if it is in ASCII. -/
def asciiCharset (s : List Char) : Option (List Char) :=
  if s.all fun c => c.toNat < 0x80 then some (s.map Char.toLower) else none

/-- The charset that a content type names. What stands first is never a part, and parts count less than a
parameter that is whole. -/
def charset? [StandIns] (contentType : List Char) : Except Fault (Option (List Char)) := do
  let parameters := (sections false false contentType).map fun s => (Parameter.ofSection s).unquoted
  let isPart (p : Parameter) : Bool := (Part.ofParameter? p).isSome
  let whole := parameters.take 1 ++ (parameters.drop 1).filter fun p => !isPart p
  let parts ← joined ((parameters.drop 1).filterMap Part.ofParameter?)
  match whole.find? fun p => namesCharset p.name with
  | some p => pure (asciiCharset p.value)
  | none =>
    match parts.find? fun j => namesCharset j.name with
    | some j => pure (asciiCharset (← j.value))
    | none => pure none

/-- The encoding of a text of some content type: UTF-8 unless a known charset is named. -/
def encoding [StandIns] (contentType : List Char) : Except Fault Text.Encoding := do
  match ← charset? contentType with
  | none => pure .utf8
  | some name =>
    if name.contains '\x00' then throw .nulInName else pure ((Text.Encoding.ofName? name).getD .utf8)

end SchemaAudit.ContentType

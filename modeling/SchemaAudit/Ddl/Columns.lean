import SchemaAudit.TypeToken
import SchemaAudit.Text.Word

/-!
The columns that a `CREATE TABLE` statement declares. The body, between the first and the last
parenthesis, is read line by line; a line is cut at the commas that stand outside parentheses and
quotes; of what remains, the definitions of columns give a name and a type.
-/

namespace SchemaAudit.Ddl

/-! ### Cutting a line -/

/-- What has been left open up to a place in a line: parentheses, and a quote. -/
structure Scan where
  depth : Nat
  quoted : Bool
  deriving DecidableEq, Repr

/-- Nothing is open. -/
def Scan.start : Scan := ⟨0, false⟩

/-- The state after one more character. Inside a quote only its end counts; a parenthesis that closes
nothing is passed over. -/
def Scan.next (s : Scan) (c : Char) : Scan :=
  if c = '\'' then ⟨s.depth, !s.quoted⟩
  else if s.quoted then s
  else if c = '(' then ⟨s.depth + 1, false⟩
  else if c = ')' then ⟨s.depth - 1, false⟩
  else s

/-- Whether a character separates two definitions. -/
def Scan.separates (s : Scan) (c : Char) : Bool := c = ',' && s.depth = 0 && !s.quoted

/-- The state after a text. -/
def Scan.run (s : Scan) (text : List Char) : Scan := text.foldl Scan.next s

/-- The pieces of a text between the commas that separate definitions. -/
def splitFrom (s : Scan) : List Char → List (List Char)
  | [] => [[]]
  | c :: rest =>
    if s.separates c then [] :: splitFrom s rest
    else match splitFrom (s.next c) rest with
      | [] => [[c]]
      | p :: ps => (c :: p) :: ps

/-- The definitions on a line. -/
def splitDefinitions (line : List Char) : List (List Char) := splitFrom .start line

/-- A definition without the blanks around it and without one comma at its end. -/
def cleanLine (raw : List Char) : List Char :=
  let line := Text.trim raw
  if line.getLast? = some ',' then line.dropLast else line

/-! ### Kinds of definitions -/

/-- What a definition turns out to be. -/
inductive LineKind where
  | blank
  | constraint
  | incomplete
  | keyword
  | column
  deriving DecidableEq, Repr

/-- Why a line has no kind or no column. -/
inductive LineFault where
  | noWord
  | tooFewWords (count : Nat)
  deriving DecidableEq, Repr

/-- Whether a text in capitals starts with the two words of a primary key. -/
def startsPrimaryKey (s : List Char) : Bool :=
  if ['P', 'R', 'I', 'M', 'A', 'R', 'Y'].isPrefixOf s then
    let gap := s.drop 7
    let key := Text.trimLeft gap
    gap.length ≠ key.length && ['K', 'E', 'Y'].isPrefixOf key &&
      !((key.drop 3).head?.any Text.isWord)
  else false

/-- Whether a word is spelled like one in capitals, in whatever case it is written. -/
def isSpelled (capitals : String) (word : List Char) : Bool := Text.upper word = capitals.toList

/-- The kind of a cleaned definition. One of blanks alone has none. -/
def classifyLine (line : List Char) : Except LineFault LineKind :=
  if line.isEmpty then .ok .blank
  else match Text.words line with
    | [] => .error .noWord
    | first :: others =>
      if isSpelled "CONSTRAINT" first || startsPrimaryKey (Text.upper line) then .ok .constraint
      else if others.isEmpty then .ok .incomplete
      else if isSpelled "CREATE" first || isSpelled "TABLE" first then .ok .keyword
      else .ok .column

/-- A column as a definition declares it. -/
structure Declared where
  name : String
  type : String
  deriving DecidableEq, Repr

/-- The column of a definition: its first word, and its second as a type. -/
def declared (line : List Char) : Except LineFault Declared :=
  match Text.words line with
  | name :: type :: _ => .ok ⟨String.ofList name, normalizeType (String.ofList type)⟩
  | few => .error (.tooFewWords few.length)

/-! ### The statement -/

/-- What stands between the first opening and the last closing parenthesis, if that is not empty. -/
def body? (ddl : List Char) : Option (List Char) := do
  let (_, inner) ← Text.cutAtChar '(' ddl
  let (body, _) ← Text.cutAtLastChar ')' inner
  if body.isEmpty then none else some body

/-- The cleaned definitions of a body, line by line. -/
def definitions (body : List Char) : List (List Char) :=
  (Text.pieces '\n' body).flatMap fun line => (splitDefinitions line).map cleanLine

/-- The columns among some cleaned definitions. -/
def columnsAmong : List (List Char) → Except LineFault (List Declared)
  | [] => .ok []
  | line :: rest => do
    match ← classifyLine line with
    | .column =>
      let column ← declared line
      .ok (column :: (← columnsAmong rest))
    | _ => columnsAmong rest

/-- The columns that a statement declares; without a body there are none. -/
def columns (ddl : List Char) : Except LineFault (List Declared) :=
  match body? ddl with
  | none => .ok []
  | some body => columnsAmong (definitions body)

/-- The definitions of a body that are taken for stray keywords. -/
def discarded (ddl : List Char) : List (List Char) :=
  match body? ddl with
  | none => []
  | some body => (definitions body).filter fun line =>
    match classifyLine line with
    | .ok .keyword => true
    | _ => false

end SchemaAudit.Ddl

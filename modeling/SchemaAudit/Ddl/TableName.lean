import SchemaAudit.Text.Word

/-!
The table that a statement creates. The words before the name may be written in any letter case with
any blanks between them; the name may be qualified and quoted, and is given back bare.
-/

namespace SchemaAudit.Ddl

/-- The rest of a text after one blank or more. -/
def dropBlanks (s : List Char) : Option (List Char) :=
  match s with
  | c :: rest => if Text.isBlank c then some (Text.trimLeft rest) else none
  | [] => none

/-- The rest of a text after a keyword and the blanks that follow it. -/
def dropWord (keyword : String) (s : List Char) : Option (List Char) :=
  (Text.dropKeyword keyword.toList s).bind dropBlanks

/-- What a qualified name is made of: word characters, points and double quotes. -/
def isNameChar (c : Char) : Bool := Text.isWord c || c = '.' || c = '"'

/-- The qualified name at the start of a text. -/
def qualifiedName? (s : List Char) : Option (List Char) :=
  match s.takeWhile isNameChar with
  | [] => none
  | name => some name

/-- The rest of a text after the words that make a creation conditional. -/
def dropIfNotExists (s : List Char) : Option (List Char) :=
  (dropWord "IF" s).bind fun s => (dropWord "NOT" s).bind (dropWord "EXISTS")

/-- The qualified name that a text creates at its start. The conditional words belong to the statement
when a name follows them; otherwise the first of them is the name. -/
def createdHere? (s : List Char) : Option (List Char) := do
  let s ← dropWord "CREATE" s
  let s ← dropWord "TABLE" s
  ((dropIfNotExists s).bind qualifiedName?).or (qualifiedName? s)

/-- The first qualified name that a text creates. -/
def created? : List Char → Option (List Char)
  | [] => none
  | c :: rest => (createdHere? (c :: rest)).or (created? rest)

/-- A qualified name without quotes and qualifiers. -/
def unqualified (name : List Char) : List Char :=
  (((name.filter (· ≠ '"')).reverse).takeWhile (· ≠ '.')).reverse

/-- The bare name of the first table that a text creates. -/
def tableName? (text : List Char) : Option (List Char) :=
  match (created? text).map unqualified with
  | some [] => none
  | name => name

end SchemaAudit.Ddl

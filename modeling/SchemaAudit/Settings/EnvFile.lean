import SchemaAudit.Json.Basic
import SchemaAudit.Text.Blank

/-!
Files of variables: a name and a value on each line, with comments, quotes and values that refer to
other variables. A line that cannot be read is passed over.
-/

namespace SchemaAudit.EnvFile

/-- Whether a character is a blank inside a line. -/
def isGap (c : Char) : Bool := Text.isBlank c && c ≠ '\n' && c ≠ '\r'

/-- Whether a character ends a line. -/
def isLineEnd (c : Char) : Bool := c = '\n' || c = '\r'

/-- What follows the rest of a line. -/
def skipLine (s : List Char) : List Char := (s.dropWhile fun c => !isLineEnd c).drop 1

/-- What follows the word that may stand before a name. -/
def skipExport (s : List Char) : List Char :=
  let word := "export".toList
  if word.isPrefixOf s && (s.drop word.length).head?.any isGap then (s.drop word.length).dropWhile isGap
  else s

/-- A name: in single quotes, or up to a blank, a number sign or an equals sign. A comment has none. -/
def readName : List Char → Except (List Char) (Option (List Char) × List Char)
  | '#' :: rest => .ok (none, '#' :: rest)
  | '\'' :: rest =>
    match rest.takeWhile (· ≠ '\''), rest.dropWhile (· ≠ '\'') with
    | c :: name, '\'' :: after => .ok (some (c :: name), after)
    | _, _ => .error ('\'' :: rest)
  | s =>
    let inName (c : Char) : Bool := c ≠ '=' && c ≠ '#' && !Text.isBlank c
    match s.takeWhile inName with
    | [] => .error s
    | name => .ok (some name, s.dropWhile inName)

/-- What stands before a closing quote, and what follows it. A quote behind a backslash does not close. -/
def readQuoted (quote : Char) : List Char → Option (List Char × List Char)
  | [] => none
  | '\\' :: c :: rest => (readQuoted quote rest).map fun (inside, after) => ('\\' :: c :: inside, after)
  | c :: rest =>
    if c = quote then some ([], rest)
    else (readQuoted quote rest).map fun (inside, after) => (c :: inside, after)

/-- The characters that letters behind a backslash stand for inside double quotes. -/
def escapes : List (Char × Char) := [
  ('\\', '\\'), ('\'', '\''), ('"', '"'), ('a', '\x07'), ('b', '\x08'), ('f', '\x0c'), ('n', '\n'),
  ('r', '\r'), ('t', '\t'), ('v', '\x0b')]

/-- A text with its escapes resolved. -/
def unescape (known : List (Char × Char)) : List Char → List Char
  | '\\' :: c :: rest =>
    match known.lookup c with
    | some d => d :: unescape known rest
    | none => '\\' :: unescape known (c :: rest)
  | c :: rest => c :: unescape known rest
  | [] => []

/-- A value without quotes: up to a comment, which has a blank before it. -/
def cutComment : List Char → List Char
  | [] => []
  | c :: rest =>
    if Text.isBlank c && (rest.dropWhile Text.isBlank).head? = some '#' then []
    else c :: cutComment rest

/-- The value behind an equals sign, and what follows it. -/
def readValue (s : List Char) : Except (List Char) (List Char × List Char) :=
  match s.dropWhile isGap with
  | '\'' :: rest => quotedValue '\'' (escapes.take 2) rest
  | '"' :: rest => quotedValue '"' escapes rest
  | _ =>
    .ok (Text.trim (cutComment (s.takeWhile fun c => !isLineEnd c)), s.dropWhile fun c => !isLineEnd c)
where
  /-- The value behind an opening quote. -/
  quotedValue (quote : Char) (known : List (Char × Char)) (rest : List Char) :
      Except (List Char) (List Char × List Char) :=
    match readQuoted quote rest with
    | none => .error (quote :: rest)
    | some (inside, after) => .ok (unescape known inside, after)

/-- What follows a comment and the end of a line. -/
def readEnd (s : List Char) : Except (List Char) (List Char) :=
  let afterGap := s.dropWhile isGap
  let s := if afterGap.head? = some '#' then afterGap.dropWhile fun c => !isLineEnd c else s
  match s.dropWhile isGap with
  | [] => .ok []
  | c :: rest => if isLineEnd c then .ok rest else .error s

/-- A variable as a line has it. One without an equals sign has no value. -/
structure Binding where
  name : String
  value : Option String
  deriving DecidableEq, Repr

/-- The variable that stands next, if the line has one, and what follows it; else where the reading
stopped. -/
def readBinding (s : List Char) : Except (List Char) (Option Binding × List Char) := do
  let (name, s) ← readName (skipExport s)
  let s := s.dropWhile isGap
  let (value, s) ← match s with
    | '=' :: rest => do
      let (value, s) ← readValue rest
      pure (some (String.ofList value), s)
    | s => pure (none, s)
  let s ← readEnd s
  pure (name.map fun n => ⟨String.ofList n, value⟩, s)

/-- The variables of a text of at most some length. -/
def bindingsWithin : Nat → List Char → List Binding
  | 0, _ => []
  | n + 1, s =>
    match s.dropWhile Text.isBlank with
    | [] => []
    | s =>
      match readBinding s with
      | .ok (b, rest) => b.toList ++ bindingsWithin n rest
      | .error rest => bindingsWithin n (skipLine rest)

/-- The variables of a text in order. -/
def bindings (s : List Char) : List Binding := bindingsWithin (s.length + 1) s

/-- A reference to a variable at the start of a text: its name, its default, and what follows it. -/
def readReference? : List Char → Option (List Char × List Char × List Char)
  | '$' :: '\x7b' :: rest =>
    let inName (c : Char) : Bool := c ≠ '\x7d' && c ≠ ':'
    let name := rest.takeWhile inName
    match rest.dropWhile inName with
    | '\x7d' :: after => some (name, [], after)
    | ':' :: '-' :: more =>
      match more.dropWhile (· ≠ '\x7d') with
      | '\x7d' :: after => some (name, more.takeWhile (· ≠ '\x7d'), after)
      | _ => none
    | _ => none
  | _ => none

/-- A text of at most some length with its references replaced. -/
def resolveWithin (value? : String → Option String) : Nat → List Char → List Char
  | 0, s => s
  | _, [] => []
  | n + 1, c :: rest =>
    match readReference? (c :: rest) with
    | some (name, fallback, after) =>
      ((value? (String.ofList name)).map String.toList).getD fallback ++ resolveWithin value? n after
    | none => c :: resolveWithin value? n rest

/-- A text with its references replaced. -/
def resolve (value? : String → Option String) (s : String) : String :=
  String.ofList (resolveWithin value? s.length s.toList)

/-- A text without the mark that may stand at the start of a file. -/
def dropMark : List Char → List Char
  | '\uFEFF' :: rest => rest
  | s => s

/-- The variables of a file: a value may refer to those before it and to those of the environment. -/
def assignments (environment : List (String × String)) (text : List Char) : List (String × Option String) :=
  (bindings (dropMark text)).foldl (fun known b =>
    let value? (name : String) : Option String :=
      match known.lookup name with
      | some value => some (value.getD "")
      | none => environment.lookup name
    Json.setMember b.name (b.value.map (resolve value?)) known) []

end SchemaAudit.EnvFile

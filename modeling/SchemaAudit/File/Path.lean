import SchemaAudit.Text.Blank
import SchemaAudit.Text.Half

/-!
Paths of files: a root, which is empty for a path that starts at the current directory, and the names
along the way. Empty names and single dots are dropped when a path is read; double dots stay.
-/

namespace SchemaAudit

/-- A path. -/
structure Path where
  root : String
  parts : List String
  deriving DecidableEq, Repr, Inhabited

namespace Path

/-- The root that a text starts with. Two leading slashes, and no more, are a root of their own. -/
def rootOf : List Char → String
  | '/' :: '/' :: '/' :: _ => "/"
  | '/' :: '/' :: _ => "//"
  | '/' :: _ => "/"
  | _ => ""

/-- The path that a text names. -/
def ofText (text : String) : Path where
  root := rootOf text.toList
  parts := ((Text.pieces '/' text.toList).filter fun name => name ≠ [] && name ≠ ['.']).map String.ofList

/-- The text of a path. -/
def text (p : Path) : String :=
  if p.root = "" && p.parts.isEmpty then "." else p.root ++ "/".intercalate p.parts

/-- A path taken from another one on. A path with a root is itself. -/
def join (p q : Path) : Path := if q.root = "" then ⟨p.root, p.parts ++ q.parts⟩ else q

/-- A path followed by the path that a text names. -/
def child (p : Path) (name : String) : Path := p.join (ofText name)

/-- The path without its last name. -/
def parent (p : Path) : Path := ⟨p.root, p.parts.dropLast⟩

/-- The order of paths: by their names, one after another, and these by the numbers of their characters. -/
def before [StandIns] (p q : Path) : Bool :=
  let names (p : Path) := if p.root = "" then p.parts else p.root :: p.parts
  let key (p : Path) := (names p).map fun name => name.toList.map Text.codePoint
  key p < key q

end Path

end SchemaAudit

/-!
What is put on a console, in markup: lines, tables and panels. How they are laid out is left to the
console.
-/

namespace SchemaAudit.Display

/-- The side that the cells of a column keep to. -/
inductive Side where
  | left
  | right
  deriving DecidableEq, Repr

/-- The name of a side. -/
def Side.name : Side → String
  | left => "left"
  | right => "right"

/-- The head of a column. -/
structure Header where
  name : String
  side : Side
  style : String
  deriving DecidableEq, Repr

/-- A column of texts. -/
def Header.plain (name : String) : Header := ⟨name, .left, ""⟩

/-- A column of texts that stand out. -/
def Header.bold (name : String) : Header := ⟨name, .left, "bold"⟩

/-- A column of numbers. -/
def Header.number (name : String) : Header := ⟨name, .right, ""⟩

/-- A thing on a console. -/
inductive Item where
  | line (markup : String)
  | table (title : String) (headers : List Header) (rows : List (List String))
  | panel (markup title border : String)
  deriving DecidableEq, Repr

end SchemaAudit.Display

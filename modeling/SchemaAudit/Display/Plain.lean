import SchemaAudit.Display.Item
import SchemaAudit.Display.Markup

/-!
Console things as plain text: markup without its words in brackets, tables with their columns lined up.
-/

namespace SchemaAudit.Display

/-- A text after the word in brackets that it starts in. -/
def afterTag (s : List Char) : List Char := (s.dropWhile (· ≠ ']')).drop 1

/-- Markup without its words in brackets, behind some backslashes. Of the backslashes before such a word
every second one stays, and an odd number of them keeps the word. Fuel: one step per character. -/
def bareFrom (slashes : Nat) : Nat → List Char → List Char
  | _, [] => List.replicate slashes '\\'
  | 0, s => s
  | fuel + 1, c :: s =>
    if c = '\\' then bareFrom (slashes + 1) fuel s
    else if c = '[' && opensTag s then
      List.replicate (slashes / 2) '\\' ++
        if slashes % 2 = 1 then '[' :: bareFrom 0 fuel s else bareFrom 0 fuel (afterTag s)
    else List.replicate slashes '\\' ++ c :: bareFrom 0 fuel s

/-- Markup as plain text. -/
def bare (markup : String) : String :=
  String.ofList (bareFrom 0 markup.length markup.toList)

/-- A text filled up with blanks on the side that it does not keep to. -/
def fill (side : Side) (width : Nat) (s : String) : String :=
  let gap := String.ofList (List.replicate (width - s.length) ' ')
  match side with
  | .left => s ++ gap
  | .right => gap ++ s

/-- The width of a column of texts. -/
def widest (texts : List String) : Nat := texts.foldl (fun n s => max n s.length) 0

/-- The line of some cells. -/
def cellsLine (columns : List (Side × Nat)) (cells : List String) : String :=
  "  ".intercalate ((columns.zip cells).map fun ((side, width), cell) => fill side width cell)

/-- A thing on a console as lines. -/
def Item.lines : Item → List String
  | line markup => [bare markup]
  | table title headers rows =>
    let rows := headers.map (·.name) :: rows.map (·.map bare)
    let columns := (headers.zipIdx).map fun (h, i) =>
      (h.side, widest (rows.map fun row => row[i]?.getD ""))
    bare title :: rows.map (cellsLine columns)
  | panel markup title _ => [bare title, bare markup]

end SchemaAudit.Display

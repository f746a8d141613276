import SchemaAudit.Json.Basic
import SchemaAudit.Number.Text
import SchemaAudit.Text.Quoted

/-!
JSON written as text. A style says whether characters outside ASCII are escaped and whether values
take one line or one line per member. Quotes, backslashes and controls are always escaped, so a
string never ends its line.
-/

namespace SchemaAudit.Json

variable [StandIns]

/-- Whether characters outside ASCII are escaped, and whether nested values are indented. -/
structure Style where
  asciiOnly : Bool
  indented : Bool
  deriving DecidableEq, Repr

/-- `\u` and four digits. -/
def unitEscape (n : Nat) : List Char := '\\' :: 'u' :: Text.hex 4 n

/-- A character outside the short escapes: in two halves when it lies above U+FFFF, and half a pair as it
is. -/
def longEscape (c : Char) : List Char :=
  let n := Text.codePoint c
  if n < 0x10000 then unitEscape n
  else unitEscape (0xd800 + (n - 0x10000) / 0x400) ++ unitEscape (0xdc00 + (n - 0x10000) % 0x400)

/-- A character inside a string. -/
def stringChar (asciiOnly : Bool) (c : Char) : List Char :=
  if c = '"' then ['\\', '"']
  else if c = '\\' then ['\\', '\\']
  else if c = '\n' then ['\\', 'n']
  else if c = '\r' then ['\\', 'r']
  else if c = '\t' then ['\\', 't']
  else if c = '\x0c' then ['\\', 'f']
  else if c = '\x08' then ['\\', 'b']
  else if c.toNat < 0x20 then unitEscape c.toNat
  else if asciiOnly && 0x7f ≤ c.toNat then longEscape c
  else [c]

/-- A string in quotes. -/
def stringText (asciiOnly : Bool) (s : List Char) : List Char :=
  '"' :: (s.flatMap (stringChar asciiOnly) ++ ['"'])

/-- A number with a point or an exponent; the values without digits are words. -/
def realText : Number.Binary64 → List Char
  | .nan => ['N', 'a', 'N']
  | .infinite false => ['I', 'n', 'f', 'i', 'n', 'i', 't', 'y']
  | .infinite true => '-' :: ['I', 'n', 'f', 'i', 'n', 'i', 't', 'y']
  | x => x.text

/-- The start of a line at a depth. -/
def lineStart (depth : Nat) : List Char := '\n' :: List.replicate (2 * depth) ' '

/-- What stands before the first item at a depth. -/
def opening (style : Style) (depth : Nat) : List Char := if style.indented then lineStart depth else []

/-- What stands between two items at a depth. -/
def separator (style : Style) (depth : Nat) : List Char :=
  if style.indented then ',' :: lineStart depth else [',', ' ']

mutual

/-- A value whose own line starts at a depth. -/
def valueText (style : Style) (depth : Nat) : Json → List Char
  | null => ['n', 'u', 'l', 'l']
  | bool true => ['t', 'r', 'u', 'e']
  | bool false => ['f', 'a', 'l', 's', 'e']
  | int n => Number.integerText n
  | real x => realText x
  | str s => stringText style.asciiOnly s.toList
  | arr [] => ['[', ']']
  | arr (item :: items) =>
    '[' :: (opening style (depth + 1) ++ valueText style (depth + 1) item ++
      itemsText style (depth + 1) items ++ opening style depth ++ [']'])
  | obj [] => ['{', '}']
  | obj ((name, value) :: members) =>
    '{' :: (opening style (depth + 1) ++ stringText style.asciiOnly name.toList ++ [':', ' '] ++
      valueText style (depth + 1) value ++ membersText style (depth + 1) members ++
      opening style depth ++ ['}'])

/-- The items of an array after its first, each behind a separator. -/
def itemsText (style : Style) (depth : Nat) : List Json → List Char
  | [] => []
  | item :: items =>
    separator style depth ++ valueText style depth item ++ itemsText style depth items

/-- The members of an object after its first, each behind a separator. -/
def membersText (style : Style) (depth : Nat) : List (String × Json) → List Char
  | [] => []
  | (name, value) :: members =>
    separator style depth ++ stringText style.asciiOnly name.toList ++ [':', ' '] ++
      valueText style depth value ++ membersText style depth members

end

/-- A value as text. -/
def toText (style : Style) (value : Json) : String := String.ofList (valueText style 0 value)

mutual

/-- A value with the members of every object in the order of their names, by the numbers of their characters. -/
def sorted : Json → Json
  | arr items => arr (sortedItems items)
  | obj members =>
    let key (m : String × Json) := m.1.toList.map Text.codePoint
    obj ((sortedMembers members).mergeSort fun a b => !(key b < key a))
  | value => value

/-- The items of an array with their members sorted. -/
def sortedItems : List Json → List Json
  | [] => []
  | item :: items => sorted item :: sortedItems items

/-- The members of an object with the members below them sorted. -/
def sortedMembers : List (String × Json) → List (String × Json)
  | [] => []
  | (name, value) :: members => (name, sorted value) :: sortedMembers members

end

end SchemaAudit.Json

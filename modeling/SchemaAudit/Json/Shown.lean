import SchemaAudit.Json.Basic
import SchemaAudit.Number.Text
import SchemaAudit.Text.Quoted

/-!
JSON values as messages show them: texts in single quotes where they can be, lists in brackets, objects
in braces, and words for the constants.
-/

namespace SchemaAudit.Json

mutual

/-- A value as messages show it. -/
def shown [StandIns] : Json → String
  | null => "None"
  | bool true => "True"
  | bool false => "False"
  | int n => String.ofList (Number.integerText n)
  | real x => String.ofList x.text
  | str s => Text.inQuotes s
  | arr xs => "[" ++ ", ".intercalate (shownItems xs) ++ "]"
  | obj ms => "\x7b" ++ ", ".intercalate (shownMembers ms) ++ "\x7d"

/-- The items of a list as messages show them. -/
def shownItems [StandIns] : List Json → List String
  | [] => []
  | x :: xs => shown x :: shownItems xs

/-- The members of an object as messages show them. -/
def shownMembers [StandIns] : List (String × Json) → List String
  | [] => []
  | (name, x) :: ms => (Text.inQuotes name ++ ": " ++ shown x) :: shownMembers ms

end

/-- A value as text: a string is itself. -/
def plain [StandIns] : Json → String
  | str s => s
  | value => shown value

end SchemaAudit.Json

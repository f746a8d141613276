/-!
Console markup: words in brackets set the style of the text around them. Data is escaped before it is put
among them, with a backslash before everything that would be read as a word in brackets.
-/

namespace SchemaAudit.Display

/-- Whether a word in brackets may start with a character. -/
def startsTag (c : Char) : Bool := ('a' ≤ c && c ≤ 'z') || c = '#' || c = '/' || c = '@'

/-- Whether a text that follows a bracket makes a word in brackets with it: the next bracket closes it. -/
def opensTag : List Char → Bool
  | [] => false
  | c :: s => startsTag c && (s.find? fun x => x = '[' || x = ']') = some ']'

/-- A text with its words in brackets escaped, behind some backslashes. Backslashes before such a word are
doubled, and one more is put between them and the word. -/
def escapeTags (slashes : Nat) : List Char → List Char
  | [] => List.replicate slashes '\\'
  | c :: s =>
    if c = '\\' then escapeTags (slashes + 1) s
    else if c = '[' && opensTag s then
      List.replicate (2 * slashes + 1) '\\' ++ '[' :: escapeTags 0 s
    else List.replicate slashes '\\' ++ c :: escapeTags 0 s

/-- A text whose last backslash, if it stands alone, is doubled. -/
def closeSlash (s : List Char) : List Char :=
  match s.reverse with
  | '\\' :: '\\' :: _ => s
  | '\\' :: _ => s ++ ['\\']
  | _ => s

/-- Data as markup that shows it as it is. -/
def escape (s : String) : String := String.ofList (closeSlash (escapeTags 0 s.toList))

/-- Markup in a style. -/
def styled (style markup : String) : String := "[" ++ style ++ "]" ++ markup ++ "[/" ++ style ++ "]"

end SchemaAudit.Display

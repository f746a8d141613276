import SchemaAudit.File.Store
import SchemaAudit.Text.Percent

/-!
Keys: names of tables made fit for file names. A byte of the name that is no ASCII letter or digit and
none of `_.-~` is written as a percent sign and two digits, so different tables have different keys.
-/

namespace SchemaAudit.Artifact

/-- A character as a key has it. -/
def keyChar (c : Char) : List Char := if Text.Percent.isUnreserved c then [c] else Text.Percent.codes c

/-- The key of a table. That of the empty name is a lone percent sign, and a name outside UTF-8 has none. -/
def key [StandIns] (table : String) : Except WriteFault String :=
  match Text.outsideUtf8? table.toList with
  | some outside => .error (.notUtf8 outside)
  | none => .ok (if table = "" then "%" else String.ofList (table.toList.flatMap keyChar))

end SchemaAudit.Artifact

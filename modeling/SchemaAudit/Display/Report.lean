import SchemaAudit.Display.Item
import SchemaAudit.Display.Markup
import SchemaAudit.File.Path
import SchemaAudit.Report.Summary

/-!
The reports of a run on a console: one row for each table, the drift of those that drifted, and a word on
the whole.
-/

namespace SchemaAudit.Display

/-- The colour of a status by its word. -/
def statusColour (word : String) : String :=
  if word = Status.pass.word then "green"
  else if word = Status.fail.word then "red"
  else if word = Status.notFound.word then "yellow"
  else "white"

/-- The word of a status in its colour. -/
def colouredStatus (word : String) : String := styled (statusColour word) word

/-- What stands in a cell that has nothing to say. -/
def nothing : String := "-"

/-- The heads of the table of reports. -/
def reportHeaders : List Header := [
  .bold "Table", .plain "Status", .number "Missing", .number "Extraneous", .number "Mismatched",
  .plain "Error"]

/-- The row of a report. -/
def reportRow (r : Report) : List String := [
  escape r.table, colouredStatus r.status.word, toString r.missing.length,
  toString r.extraneous.length, toString r.mismatched.length,
  match r.error with
  | none => nothing
  | some error => if error = "" then nothing else escape error]

/-- The heads of the table of drift. -/
def driftHeaders : List Header := [.bold "Column", .plain "Drift", .plain "Expected", .plain "Actual"]

/-- The rows of a report's drift: missing columns, extraneous ones, mismatched ones. -/
def driftRows (r : Report) : List (List String) :=
  (r.missing.map fun c => [c.name, styled "red" "missing", c.type, nothing]) ++
    (r.extraneous.map fun c => [c.name, styled "yellow" "extraneous", nothing, c.type]) ++
    r.mismatched.map fun m => [m.column, styled "magenta" "mismatched", m.expected, m.actual]

/-- The drift of one table. -/
def drift (r : Report) : Item := .table ("Drift in " ++ escape r.table) driftHeaders (driftRows r)

/-- The word on a whole run. -/
def footer (s : Summary) (directory : Path) : String :=
  "\n" ++
    if s.failed = 0 then
      styled "green bold" s!"All {s.total} table(s) are aligned with their contracts."
    else
      styled "red bold" s!"{s.failed} of {s.total} table(s) failed the audit." ++
        s!" See the individual reports in {directory.text}."

/-- A run, with the directory that its reports are in. -/
def summary (s : Summary) (directory : Path) : List Item :=
  if s.reports.isEmpty then [.line (styled "dim" "No tables were audited.")]
  else
    .table "Schema Contract Audit" reportHeaders (s.reports.map reportRow) ::
      ((s.reports.filter fun r => r.driftCount ≠ 0).map drift ++ [.line (footer s directory)])

end SchemaAudit.Display

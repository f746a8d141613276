import SchemaAudit.Diagnostics.Inspection
import SchemaAudit.Display.Item
import SchemaAudit.Display.Markup
import SchemaAudit.File.Path

/-!
The structure of the store on a console: how many objects it has of each kind, and all that is known of
one table.
-/

namespace SchemaAudit.Display

/-- Counts under the names of their kinds. -/
def countRows (c : Counts) : List (List String) :=
  [("Tables", c.tables), ("Columns", c.columns), ("Constraints", c.constraints),
    ("Indexes", c.indexes), ("RLS policies", c.policies), ("Triggers", c.triggers),
    ("Functions", c.functions), ("Procedures", c.procedures)].map fun (name, n) => [name, toString n]

/-- The counts of a snapshot, and where it was saved. -/
def counts (c : Counts) (saved : Path) : List Item := [
  .table "Schema Snapshot" [.bold "Category", .number "Count"] (countRows c),
  .line (styled "dim" s!"Snapshot saved to {saved.text}")]

/-- A table of rows, if there are any. -/
def tableUnlessEmpty (title : String) (headers : List Header) (rows : List (List String)) : List Item :=
  if rows.isEmpty then [] else [.table title headers rows]

/-- The definition of a policy, if it has one to show. -/
def policyDefinition (p : PolicyRow) : String :=
  match p.definition with
  | none => "-"
  | some text => if text = "" then "-" else text

/-- What a table has besides its columns. -/
def otherObjects (m : Metadata) : List Item :=
  tableUnlessEmpty "Constraints" [.bold "Name", .plain "Type"]
      (m.constraints.map fun c => [c.name, c.type]) ++
    (if m.indexes.isEmpty then []
      else [.line (styled "bold" "Indexes:" ++ " " ++ ", ".intercalate (m.indexes.map (·.name)))]) ++
    tableUnlessEmpty "RLS Policies" [.bold "Policy", .plain "Command", .plain "Definition"]
      (m.policies.map fun p => [p.name, p.command, policyDefinition p]) ++
    tableUnlessEmpty "Triggers" [.bold "Trigger", .plain "Timing", .plain "Event"]
      (m.triggers.map fun t => [t.name, t.timing, t.event])

/-- The structure of one table, or a word on its absence. -/
def inspection (i : Inspection) : List Item :=
  if i.found then
    .panel i.summaryLine i.table "blue" ::
      .table "Columns" [.bold "Column", .plain "Type"]
        (i.snapshot.columns.map fun c => [c.name, c.type]) ::
      otherObjects i.snapshot.metadata
  else [.line (styled "yellow" i.summaryLine)]

end SchemaAudit.Display

import SchemaAudit.Diagnostics.Inspection
import SchemaAudit.Json.Printer
import SchemaAudit.Report.Json

/-!
The documents that are kept of audits: reports of tables, the record of a run that failed as a whole,
snapshots of the store and inspections of one table. Each says what it is, when it was made and how it
is to be read.
-/

namespace SchemaAudit.Artifact

/-- The name of the tool. -/
def tool : String := "contractguard"

/-- What a document says of itself. -/
def metadata (stamp purpose : String) (others : List (String × Json)) : String × Json :=
  ("reportMetadata", .obj ([("tool", .str tool), ("purpose", .str purpose),
    ("generatedAt", .str stamp)] ++ others))

/-- How a document is to be read. -/
def instructions (lines : List String) : String × Json :=
  ("instructionsForAI", .arr (lines.map .str))

/-- How the report of a table is to be read. -/
def reportInstructions : List String := [
  "This is a schema consistency report comparing a table's declared contract with the authoritative schema.",
  "'missing' lists contract columns absent from the authoritative schema; 'extraneous' lists authoritative columns absent from the contract; 'mismatched' lists columns whose authoritative type does not satisfy the contract type.",
  "'status' is PASS when all three lists are empty, NOT_FOUND when the table does not exist in the authoritative source, and FAIL otherwise. A non-null 'error' means the audit could not run.",
  "Use this report to write migrations (ALTER TABLE) or to update the contract schemas so both stay aligned."]

/-- How the record of a failed run is to be read. -/
def runFailureInstructions : List String := [
  "The audit run failed as a whole; no per-table report was produced.",
  "Fix the connectivity or configuration problem in 'error' and re-run the audit."]

/-- How a snapshot is to be read. -/
def snapshotInstructions : List String := [
  "This is a complete structural diagnostic of the database.",
  "'schemaDetails' holds one array per object kind: 'schema_columns', 'table_constraints', 'indexes', 'rls_policies', 'triggers' and 'functions_and_procedures'.",
  "Treat it as the source of truth for the database structure at generation time.",
  "Cross-check it: routines used by triggers and RLS policies should exist, and foreign keys should reference existing tables."]

/-- How an inspection is to be read. -/
def inspectionInstructions : List String := [
  "This report details the structure of a single table.",
  "'columns' lists every column and its store type; 'constraints', 'indexes', 'rls_policies' and 'triggers' describe the rest of its structure.",
  "Constraint and policy definitions are reported for review only; they are not validated."]

/-- An error in words, also where none was given. -/
def errorWords (error : Option String) : String := error.getD "None"

/-- The document of a table's report. -/
def report (stamp : String) (r : Report) (contractSource schemaSource : String) : Json :=
  .obj ([
    metadata stamp
      s!"Consistency audit between the contract and the authoritative schema of '{r.table}'."
      [("contractSource", .str contractSource), ("schemaSource", .str schemaSource)],
    instructions reportInstructions] ++ r.members ++ [("summary", .str r.summaryLine)])

/-- The document of a run that failed as a whole. -/
def runFailure (stamp error : String) (tables : Option (List String)) : Json :=
  .obj [
    metadata stamp "Record of an audit run that aborted before auditing any table." [],
    instructions runFailureInstructions,
    ("status", .str "FAIL"),
    ("targetTables", match tables with
      | some ts => .arr (ts.map .str)
      | none => .null),
    ("error", .str error),
    ("summary", .str s!"Audit run aborted: {error}")]

/-- The document of a snapshot, or of the reason why there is none. -/
def snapshot (stamp : String) (d : Option Diagnostics) (counts : Option Counts)
    (error : Option String) : Json :=
  let summary := match error, d with
    | none, some _ =>
      let tables := (counts.map (·.tables)).getD 0
      s!"Schema diagnostic completed: {tables} tables captured."
    | _, _ => s!"Schema diagnostic failed: {errorWords error}"
  .obj [
    metadata stamp "Complete structural diagnostic of the database." [],
    instructions snapshotInstructions,
    ("auditStatus", .str (if error.isNone then "SUCCESS" else "FAILED")),
    ("schemaDetails", (d.map (·.toJson)).getD .null),
    ("counts", (counts.map (·.toJson)).getD .null),
    ("summary", .str summary)]

/-- The details of an inspection. -/
def inspectionDetails (i : Inspection) : Json :=
  .obj (("columns", .arr (i.snapshot.columns.map fun c =>
    .obj [("column", .str c.name), ("type", .str c.type)])) :: i.snapshot.metadata.members)

/-- The document of a table's inspection, or of the reason why there is none. -/
def inspection (stamp table : String) (i : Option Inspection) (error : Option String) : Json :=
  let (status, details, summary) : String × Json × String := match i with
    | none => ("FAILED", .null, s!"Schema inspection of '{table}' failed: {errorWords error}")
    | some i => (if i.found then "SUCCESS" else "FAILED", inspectionDetails i, i.summaryLine)
  .obj [
    metadata stamp s!"Structural diagnostic of table '{table}'." [("targetTable", .str table)],
    instructions inspectionInstructions,
    ("auditStatus", .str status),
    ("schemaDetails", details),
    ("summary", .str summary)]

/-- The text of a document: indented, with a line feed at the end. -/
def text [StandIns] (document : Json) : List Char := (document.toText ⟨false, true⟩).toList ++ ['\n']

end SchemaAudit.Artifact

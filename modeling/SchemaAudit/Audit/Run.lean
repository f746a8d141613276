import SchemaAudit.Artifact.Writer
import SchemaAudit.Audit.Source
import SchemaAudit.Report.Summary

/-!
Audits of many tables. Each table gets a report whatever happens to it, and what goes wrong with one
does not touch another; a report that cannot be written is noted and counts all the same. A run whose
preparation fails audits nothing.
-/

namespace SchemaAudit

variable [StandIns]

/-- An audit: its two sides, and where its documents are kept. -/
structure Audit (σ : Type) where
  contracts : ContractSource
  schemas : SchemaSource σ
  artifacts : Artifacts

/-- What an audit has before it: the files, the memory of the schema source, and its notes so far. -/
structure Desk (σ : Type) where
  store : FileStore
  memory : σ
  notes : List Note

namespace Desk

/-- A desk with more notes. -/
def noting {σ : Type} (d : Desk σ) (notes : List Note) : Desk σ := { d with notes := d.notes ++ notes }

end Desk

/-- What is told of a comparison with an empty snapshot. -/
def Report.EmptySnapshot.failure (e : Report.EmptySnapshot) : Failure :=
  .unexpected "ValueError" e.message

namespace Audit

variable {σ : Type}

/-! ### One table -/

/-- The comparison of a table: its contract, its snapshot, and the report if both are there. -/
def compareTable (a : Audit σ) (s : FileStore) (memory : σ) (table : String) : Told Report := do
  let contract ← a.contracts.contractFor s table
  let snapshot ← a.schemas.snapshotFor s memory table
  if snapshot.columns.isEmpty then pure (.notFound table)
  else Told.quiet ((Report.compare contract snapshot).mapError (·.failure))

/-- The note taken of a table whose audit failed. -/
def failureNote (table : String) (f : Failure) : Note :=
  .plain .error .audit
    (if f.kind.isExpected then s!"Audit of table '{table}' failed: {f.message}"
    else s!"Unexpected error while auditing table '{table}'")

/-- The report of a table: that of the comparison, or that of its failure. -/
def verdict (table : String) (outcome : Told Report) : Report :=
  match outcome.result with
  | .ok report => report
  | .error f => .failed table f.reported

/-- The notes of a comparison, and one more if it failed. -/
def verdictNotes (table : String) (outcome : Told Report) : List Note :=
  match outcome.result with
  | .ok _ => outcome.notes
  | .error f => outcome.notes ++ [failureNote table f]

/-- The note taken of an audited table. -/
def auditedNote (table : String) (r : Report) : Note :=
  ⟨.info, .audit, r.summaryLine, some (.obj [
    ("event", .str "table_audited"), ("table", .str table), ("status", .str r.status.word),
    ("missing", .int r.missing.length), ("extraneous", .int r.extraneous.length),
    ("mismatched", .int r.mismatched.length), ("error", .ofOption r.error)])⟩

/-- A desk after a report was written, or after the system refused it. A path that cannot even be
handed to the system is a failure, and so is a text that cannot be encoded. -/
def persist (a : Audit σ) (d : Desk σ) (r : Report) : Desk σ × Except Failure Unit :=
  match a.artifacts.writeReport d.store r a.contracts.name a.schemas.name with
  | (s, .ok path) => ({ d with store := s }.noting [Artifacts.savedNote "Report" path], .ok ())
  | (s, .error fault) =>
    if fault.isRefusal then
      ({ d with store := s }.noting [.plain .error .audit
        s!"Could not write report for table '{r.table}': {fault.failure.message}"], .ok ())
    else ({ d with store := s }, .error fault.failure)

/-- A desk after the audit of a table whose report was dealt with, and the report. -/
def concludeTable (table : String) (report : Report) :
    Desk σ × Except Failure Unit → Desk σ × Except Failure Report
  | (d, .error f) => (d, .error f)
  | (d, .ok ()) => (d.noting [auditedNote table report], .ok report)

/-- A desk after one table was audited, and its report. -/
def auditTable (a : Audit σ) (d : Desk σ) (table : String) : Desk σ × Except Failure Report :=
  let outcome := a.compareTable d.store d.memory table
  let report := verdict table outcome
  concludeTable table report (a.persist (d.noting (verdictNotes table outcome)) report)

/-- A desk after some tables were audited, and their reports in order. A failure in one keeps none of the
others from being audited; the first one is told. -/
def auditTables (a : Audit σ) (d : Desk σ) : List String → Desk σ × Except Failure (List Report)
  | [] => (d, .ok [])
  | table :: tables =>
    match a.auditTable d table with
    | (d, report) =>
      match a.auditTables d tables with
      | (d, reports) => (d, return (← report) :: (← reports))

/-! ### A run -/

/-- The note taken of a run that is called off. -/
def abortedNote (tables : List String) (f : Failure) : Note :=
  ⟨.error, .audit, s!"Audit run aborted before auditing any table: {f.message}", some (.obj [
    ("event", .str "run_aborted"), ("error", .str f.message), ("tables", .arr (tables.map .str))])⟩

/-- A desk after a run was called off, and the failure that called it off. -/
def abort (a : Audit σ) (d : Desk σ) (tables : List String) (f : Failure) : Desk σ × Failure :=
  if f.kind.isExpected then
    let d := d.noting [abortedNote tables f]
    match a.artifacts.writeRunFailure d.store f.message (some tables) with
    | (s, .ok path) => ({ d with store := s }.noting [Artifacts.savedNote "Run failure report" path], f)
    | (s, .error fault) =>
      if fault.isRefusal then
        ({ d with store := s }.noting [.plain .error .audit
          s!"Could not write run failure report: {fault.failure.message}"], f)
      else ({ d with store := s }, fault.failure)
  else (d, f)

/-- The note with which the audit of the tables begins. -/
def startNote (tables : List String) : Note :=
  let listed := ", ".intercalate tables
  .plain .info .audit s!"Auditing {tables.length} tables: {listed}"

/-- The note with which it ends. -/
def endNote (s : Summary) : Note :=
  ⟨.info, .audit, s!"Audit finished: {s.passed}/{s.total} tables passed", some (.obj [
    ("event", .str "run_complete"), ("total", .int s.total), ("passed", .int s.passed),
    ("failed", .int s.failed)])⟩

/-- The note taken of a run without tables. -/
def nothingNote : Note := .plain .warning .audit "No tables to audit."

/-- A desk after a run whose tables were audited, and the summary. -/
def conclude : Desk σ × Except Failure (List Report) → Desk σ × Except Failure Summary
  | (d, .error f) => (d, .error f)
  | (d, .ok reports) => (d.noting [endNote ⟨reports⟩], .ok ⟨reports⟩)

/-- A desk after the run over some tables whose sources are ready. -/
def runPrepared (a : Audit σ) (d : Desk σ) (tables : List String) : Desk σ × Except Failure Summary :=
  if tables.isEmpty then (d.noting [nothingNote], .ok ⟨[]⟩)
  else conclude (a.auditTables (d.noting [startNote tables]) tables)

/-- A run over the tables given, or over all that have a contract. What it does with a failure and with
tables whose sources are ready is left open. -/
def runWith {β : Type} (a : Audit σ) (d : Desk σ) (given : Option (List String))
    (failed : Desk σ → Failure → β) (prepared : Desk σ → List String → β) : β :=
  let target : Told (List String) := match given with
    | some tables => pure tables
    | none => a.contracts.tables d.store
  let d := d.noting target.notes
  match target.result with
  | .error f => failed d f
  | .ok tables =>
    match a.schemas.prepare d.store d.memory with
    | (memory, outcome) =>
      let d := { d with memory := memory }.noting outcome.notes
      match outcome.result with
      | .error f =>
        let (d, f) := a.abort d tables f
        failed d f
      | .ok () => prepared d tables

/-- A desk after a run over the tables given, or over all that have a contract. -/
def run (a : Audit σ) (d : Desk σ) (given : Option (List String)) : Desk σ × Except Failure Summary :=
  a.runWith d given (fun d f => (d, .error f)) a.runPrepared

end Audit

end SchemaAudit

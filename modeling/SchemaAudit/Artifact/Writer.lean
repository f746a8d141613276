import SchemaAudit.Artifact.Document
import SchemaAudit.Artifact.Key
import SchemaAudit.File.Store
import SchemaAudit.Log.Note

/-!
Where the documents of audits are kept: below one directory, reports of tables and failures of runs in
`consistency`, snapshots and inspections in `schema`. Writing one again replaces it.
-/

namespace SchemaAudit

variable [StandIns]

/-- A directory for documents, and the time stamp that they get. -/
structure Artifacts where
  directory : Path
  stamp : String
  deriving DecidableEq, Repr

/-- The name of the class of a fault. -/
def FileFault.kind : FileFault → String
  | refused refusal _ => refusal.kind
  | unsent fault => fault.kind

/-- What is told of a document that cannot be written. -/
def WriteFault.failure : WriteFault → Failure
  | file fault => .unexpected fault.kind fault.message
  | notUtf8 outside => .unexpected "UnicodeEncodeError" outside.utf8Message
  | stopped refusal => .unexpected refusal.kind refusal.message

/-- Whether it is the operating system that refused, and not the path or the text itself. -/
def WriteFault.isRefusal : WriteFault → Bool
  | file (.refused _ _) => true
  | stopped _ => true
  | _ => false

namespace Artifacts

/-- The directory of reports. -/
def consistency (a : Artifacts) : Path := a.directory.child "consistency"

/-- The directory of snapshots and inspections. -/
def schema (a : Artifacts) : Path := a.directory.child "schema"

/-- The path of a table's report. -/
def reportPath (a : Artifacts) (table : String) : Except WriteFault Path :=
  (Artifact.key table).map fun key => a.consistency.child s!"{key}-consistency-report.json"

/-- The path of the record of a failed run. -/
def runFailurePath (a : Artifacts) : Path := a.consistency.child "_run-failure.json"

/-- The path of the snapshot. -/
def snapshotPath (a : Artifacts) : Path := a.schema.child "schema-all.json"

/-- The path of a table's inspection. -/
def inspectionPath (a : Artifacts) (table : String) : Except WriteFault Path :=
  (Artifact.key table).map fun key => a.schema.child s!"schema-{key}.json"

/-- A store after a document was written, and where. -/
def keep (s : FileStore) (path : Except WriteFault Path) (document : Json) :
    FileStore × Except WriteFault Path :=
  match path with
  | .error fault => (s, .error fault)
  | .ok path =>
    match s.save path (Artifact.text document) with
    | (s, .ok ()) => (s, .ok path)
    | (s, .error fault) => (s, .error fault)

/-- A store after the report of a table was written. -/
def writeReport (a : Artifacts) (s : FileStore) (r : Report) (contractSource schemaSource : String) :
    FileStore × Except WriteFault Path :=
  keep s (a.reportPath r.table) (Artifact.report a.stamp r contractSource schemaSource)

/-- A store after the failure of a run was written. -/
def writeRunFailure (a : Artifacts) (s : FileStore) (error : String) (tables : Option (List String)) :
    FileStore × Except WriteFault Path :=
  keep s (.ok a.runFailurePath) (Artifact.runFailure a.stamp error tables)

/-- A store after a snapshot was written, or the reason why there is none. -/
def writeSnapshot (a : Artifacts) (s : FileStore) (d : Option Diagnostics) (counts : Option Counts)
    (error : Option String) : FileStore × Except WriteFault Path :=
  keep s (.ok a.snapshotPath) (Artifact.snapshot a.stamp d counts error)

/-- A store after an inspection was written, or the reason why there is none. -/
def writeInspection (a : Artifacts) (s : FileStore) (table : String) (i : Option Inspection)
    (error : Option String) : FileStore × Except WriteFault Path :=
  keep s (a.inspectionPath table) (Artifact.inspection a.stamp table i error)

/-- The note taken of a document that was written. -/
def savedNote (what : String) (path : Path) : Note := .plain .info .writer s!"{what} saved: {path.text}"

end Artifacts

end SchemaAudit

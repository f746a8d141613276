import SchemaAudit.Ddl.Block
import SchemaAudit.Ddl.Columns
import SchemaAudit.Ddl.TableName
import SchemaAudit.File.Glob
import SchemaAudit.Log.Note
import SchemaAudit.Table
import SchemaAudit.Text.Template

/-!
Manifests: one text file for each table, in one directory, with the statement that creates the table
in a fenced block. The name of the file is made from a template. A manifest is read anew each time.
-/

namespace SchemaAudit

variable [StandIns]

/-- Where manifests are, and how their files are named. -/
structure Manifests where
  directory : Path
  template : String
  deriving DecidableEq, Repr

/-- Why a manifest gives no statement, or no columns. -/
inductive ManifestFault where
  | badTemplate (e : Template.Error)
  | unreadable (path : Path) (fault : FileFault)
  | unsent (fault : PathFault)
  | notUtf8 (e : Text.Utf8Error)
  | noBlock (path : Path)
  | badLine (fault : Ddl.LineFault)
  | noColumns (table : String)
  | badPattern (fault : Glob.Fault)
  deriving DecidableEq, Repr

/-- What is told of a line that has no column. -/
def Ddl.LineFault.failure : Ddl.LineFault → Failure
  | noWord => .unexpected "IndexError" "list index out of range"
  | tooFewWords n => .unexpected "ValueError" s!"not enough values to unpack (expected 2, got {n})"

/-- What is told of a fault. -/
def ManifestFault.failure : ManifestFault → Failure
  | badTemplate e => .unexpected e.kind e.message
  | unreadable path fault => ⟨.parse, s!"Cannot read manifest {path.text}: {fault.message}"⟩
  | unsent fault => .unexpected fault.kind fault.message
  | notUtf8 e => .unexpected "UnicodeDecodeError" e.message
  | noBlock path => ⟨.parse, s!"No SQL block found in manifest {path.text}."⟩
  | badLine fault => fault.failure
  | noColumns table => ⟨.emptyContract, s!"Contract for table '{table}' declares no columns."⟩
  | badPattern fault => .unexpected fault.kindAndMessage.1 fault.kindAndMessage.2

/-- Whether discovery passes over a manifest with a fault. -/
def ManifestFault.isSkipped : ManifestFault → Bool
  | unreadable _ _ => true
  | noBlock _ => true
  | _ => false

namespace Manifests

/-- The default template. -/
def defaultTemplate : String := "001_MANIFEST_TABLE_\x7bTABLE\x7d.md"

/-- The template filled in for a table name, as it is and in capitals. -/
def fileName (m : Manifests) (table capitals : String) : Except ManifestFault String :=
  (Template.fill [("table", table), ("TABLE", capitals)] m.template).mapError .badTemplate

/-- The path of a table's manifest. -/
def path (m : Manifests) (table : String) : Except ManifestFault Path :=
  (m.fileName table (String.ofList (Text.upper table.toList))).map m.directory.child

/-- The statement in a manifest. -/
def statement (s : FileStore) (path : Path) : Except ManifestFault (List Char) :=
  match s.readText path with
  | .error (.file (.unsent fault)) => .error (.unsent fault)
  | .error (.file fault) => .error (.unreadable path fault)
  | .error (.notUtf8 e) => .error (.notUtf8 e)
  | .ok text =>
    match Ddl.block? text with
    | some ddl => .ok ddl
    | none => .error (.noBlock path)

/-- The columns that a table's manifest declares. -/
def declared (m : Manifests) (s : FileStore) (table : String) :
    Except ManifestFault (List Ddl.Declared) := do
  let ddl ← statement s (← m.path table)
  (Ddl.columns ddl).mapError .badLine

/-- The columns of a table, as a side of an audit sees them. -/
def columns (m : Manifests) (s : FileStore) (table : String) : Except ManifestFault (List Column) :=
  (m.declared s table).map (·.map fun c => ⟨table, c.name, c.type⟩)

/-- The contract of a table. A manifest without columns is none. -/
def contractFor (m : Manifests) (s : FileStore) (table : String) : Except ManifestFault Contract := do
  let columns ← m.columns s table
  if columns.isEmpty then .error (.noColumns table) else .ok ⟨table, columns⟩

/-- The snapshot of a table. -/
def snapshotFor (m : Manifests) (s : FileStore) (table : String) : Except ManifestFault Snapshot :=
  (m.columns s table).map fun columns => ⟨table, columns, .none⟩

/-! ### Discovery -/

/-- What discovery makes of one file: a table, nothing with a reason, or a failure. -/
inductive Find where
  | table (name : String)
  | skipped (path : Path) (reason : String)
  | failed (f : Failure)

/-- What discovery makes of a file. -/
def look (s : FileStore) (path : Path) : Find :=
  match statement s path with
  | .error fault => if fault.isSkipped then .skipped path fault.failure.message else .failed fault.failure
  | .ok ddl =>
    match Ddl.tableName? ddl with
    | some name => .table (String.ofList name)
    | none => .skipped path "no CREATE TABLE statement"

/-- The files that may be manifests, in order. -/
def candidates (m : Manifests) (s : FileStore) : Except ManifestFault (List Path) := do
  let pattern ← m.fileName "*" "*"
  (Glob.find s m.directory pattern).mapError .badPattern

/-- The tables among some finds, with a note for each file passed over. -/
def gather : List Find → Told (List String)
  | [] => pure []
  | .failed f :: _ => .fail f
  | .skipped path reason :: rest => do
    Told.note (.plain .warning .manifest s!"Skipping manifest {path.text}: {reason}")
    gather rest
  | .table name :: rest => do
    let names ← gather rest
    pure (name :: names)

/-- Strings in order, each once. -/
def sortedNames (names : List String) : List String :=
  (names.mergeSort fun a b => !(b < a)).eraseDups

/-- The tables that manifests name, in order. -/
def discover (m : Manifests) (s : FileStore) : Told (List String) := do
  let files ← Told.quiet ((m.candidates s).mapError (·.failure))
  let names ← gather (files.map (look s))
  pure (sortedNames names)

/-! ### Notes -/

/-- The notes taken when a table's manifest is read. -/
def readingNotes (m : Manifests) (s : FileStore) (table : String) : List Note :=
  match m.path table with
  | .error _ => []
  | .ok path =>
    match statement s path with
    | .error _ => []
    | .ok ddl =>
      let parsing := match Ddl.body? ddl with
        | none => [Note.plain .warning .ddl
            "No parenthesized column list found in CREATE TABLE statement."]
        | some _ => (Ddl.discarded ddl).map fun line =>
            let shown := String.ofList (Text.quoted line)
            .plain .debug .ddl s!"Discarding keyword row in DDL body: {shown}"
      let bare := match Ddl.columns ddl with
        | .ok [] => [Note.plain .warning .manifest
            s!"Manifest {path.text} declares no columns for table '{table}'"]
        | _ => []
      parsing ++ bare

/-- The contract of a table, with the notes of its reading. -/
def tellContract (m : Manifests) (s : FileStore) (table : String) : Told Contract :=
  ⟨m.readingNotes s table, (m.contractFor s table).mapError (·.failure)⟩

/-- The snapshot of a table, with the notes of its reading. -/
def tellSnapshot (m : Manifests) (s : FileStore) (table : String) : Told Snapshot :=
  ⟨m.readingNotes s table, (m.snapshotFor s table).mapError (·.failure)⟩

/-- The note with which an audit against manifests begins. -/
def preparationNote (m : Manifests) : Note :=
  .plain .info .manifest s!"Reading authoritative schemas from manifests in {m.directory.text}"

end Manifests

end SchemaAudit

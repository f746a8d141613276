import SchemaAudit.Audit.Run
import SchemaAudit.CommandLine.Order
import SchemaAudit.Display.Report
import SchemaAudit.Display.Structure
import SchemaAudit.Json.Printer
import SchemaAudit.Log.Line
import SchemaAudit.Registry.Library
import SchemaAudit.Settings.Basic

/-!
What a command line comes to: an ending, a text for other programs, things for a console, the notes taken
and the files as they are then. What is answered goes either to other programs, as one JSON document, or to
the console.
-/

namespace SchemaAudit.CommandLine

variable [StandIns]

/-- What a run finds around it: files, variables, modules with registries, a way to ask a store, and the
time stamp of documents. -/
structure Surroundings where
  store : FileStore
  environment : List (String × String)
  library : Library
  fetch : RpcClient → Told Diagnostics
  stamp : String

/-- How a run ends. -/
inductive Ending where
  | exit (code : Nat)
  /-- The words ask for nothing that could be done. -/
  | refused (refusal : Refusal)
  | settings (fault : Settings.LoadFault)
  | level (e : UnknownLevel)
  /-- A failure that no command expects. -/
  | failed (f : Failure)

/-- What a run comes to. -/
structure Outcome where
  ending : Ending
  output : String
  console : List Display.Item
  notes : List Note
  store : FileStore

/-! ### Answers -/

/-- A document for other programs: names in order, one member to a line, ASCII alone. -/
def documentText (document : Json) : String := document.sorted.toText ⟨true, true⟩ ++ "\n"

/-- An answer in its two forms. -/
structure Reply where
  document : Json
  items : List Display.Item

/-- The answer that tells of a failure. -/
def Reply.ofFailure (message : String) : Reply where
  document := .obj [("status", .str "FAIL"), ("error", .str message)]
  items := [.line (Display.styled "red" (Display.escape message))]

/-- The answer that tells of an audit. -/
def Reply.ofSummary (s : Summary) (directory : Path) : Reply where
  document := .obj [
    ("status", .str (if s.failed = 0 then "PASS" else "FAIL")), ("total", .int s.total),
    ("passed", .int s.passed), ("failed", .int s.failed), ("reports", .arr (s.reports.map (·.toJson)))]
  items := Display.summary s directory

/-- The answer that tells of a snapshot. -/
def Reply.ofCounts (c : Counts) (saved : Path) : Reply where
  document := .obj [
    ("status", .str "SUCCESS"), ("path", .str saved.text), ("counts", c.toJson)]
  items := Display.counts c saved

/-- The answer that tells of an inspection. -/
def Reply.ofInspection (i : Inspection) (saved : Path) : Reply where
  document := .obj [
    ("status", .str (if i.found then "SUCCESS" else "NOT_FOUND")), ("path", .str saved.text),
    ("inspection", i.toJson)]
  items := Display.inspection i

/-! ### Sessions -/

/-- A run whose options are read and whose settings are loaded. -/
structure Session where
  around : Surroundings
  settings : Settings
  json : Bool

namespace Session

/-- The end of a run with an answer. -/
def answered (s : Session) (store : FileStore) (notes : List Note) (code : Nat) (r : Reply) : Outcome :=
  if s.json then ⟨.exit code, documentText r.document, [], notes, store⟩
  else ⟨.exit code, "", r.items, notes, store⟩

/-- The end of a run by a failure that no command expects. -/
def broken (store : FileStore) (notes : List Note) (f : Failure) : Outcome :=
  ⟨.failed f, "", [], notes, store⟩

/-- The directory for documents. -/
def artifacts (s : Session) (given : Option Path) : Artifacts :=
  ⟨given.getD s.settings.reportDir, s.around.stamp⟩

/-- The end of a run after a document was to be written: with an answer that may need the document's path,
or with the failure to write it. -/
def afterWriting (s : Session) (notes : List Note) (what : String)
    (written : FileStore × Except WriteFault Path) (code : Nat) (reply : Path → Reply) : Outcome :=
  match written with
  | (store, .ok path) => s.answered store (notes ++ [Artifacts.savedNote what path]) code (reply path)
  | (store, .error fault) => broken store notes fault.failure

/-! ### Audits -/

/-- What is told when manifests are to be compared with themselves. -/
def sameSides : Failure :=
  ⟨.configuration, "--source manifest and --contracts manifest would compare the manifests to themselves."⟩

/-- What is told when no registry is named. -/
def noRegistry : Failure := ⟨.configuration,
  "No contract registry configured. Pass --registry module:ATTR or set CONTRACTGUARD_CONTRACT_REGISTRY."⟩

/-- The first of two texts that is there and not empty. -/
def firstWord (a b : Option String) : Option String :=
  (a.filter (· ≠ "")).or (b.filter (· ≠ ""))

/-- The contracts of an order. -/
def contractSource (s : Session) (o : AuditOrder) (manifests : Manifests) : Told ContractSource := do
  match o.contracts with
  | .manifest => pure (.ofManifests manifests)
  | .registry =>
    match firstWord o.registry s.settings.registry with
    | none => Told.fail noRegistry
    | some path =>
      let registry ← Told.quiet ((s.around.library.load path).mapError (·.failure))
      Told.note (Library.loadedNote path registry)
      pure (.ofRegistry registry)

/-- The schema of an order. A saved document counts before the store, and manifests before both. -/
def schemaSource (s : Session) (o : AuditOrder) (manifests : Manifests) :
    Except Failure (SchemaSource Feed) :=
  match o.source, o.snapshotFile with
  | .manifest, _ => .ok (.ofManifests manifests)
  | .live, some path => .ok (.ofSaved path)
  | .live, none => s.settings.client.map fun client => .ofStore (s.around.fetch client)

/-- The two sides of an order, which may not be the same. -/
def sides (s : Session) (o : AuditOrder) : Told (ContractSource × SchemaSource Feed) := do
  if o.source = .manifest && o.contracts = .manifest then Told.fail sameSides
  let manifests : Manifests :=
    ⟨o.manifestDir.getD s.settings.manifestDir, s.settings.manifestTemplate⟩
  let contracts ← s.contractSource o manifests
  let schemas ← Told.quiet (s.schemaSource o manifests)
  pure (contracts, schemas)

/-- The tables that an order names. An empty name names none. -/
def targets (o : AuditOrder) : Option (List String) := (firstWord o.table none).map ([·])

/-- An audit of tables against the authoritative schema. -/
def audit (s : Session) (o : AuditOrder) : Outcome :=
  let artifacts := s.artifacts o.reportDir
  let sides := s.sides o
  match sides.result with
  | .error f =>
    if f.kind.isConfiguration then
      s.afterWriting sides.notes "Run failure report"
        (artifacts.writeRunFailure s.around.store f.message (targets o)) 1
        fun _ => .ofFailure f.message
    else broken s.around.store sides.notes f
  | .ok (contracts, schemas) =>
    let a : Audit Feed := ⟨contracts, schemas, artifacts⟩
    match a.run ⟨s.around.store, .new, sides.notes⟩ (targets o) with
    | (d, .ok summary) =>
      s.answered d.store d.notes summary.exitCode (.ofSummary summary artifacts.consistency)
    | (d, .error f) =>
      if f.kind.isExpected then
        s.answered d.store d.notes 1 (.ofFailure ("Audit aborted: " ++ f.message))
      else broken d.store d.notes f

/-! ### Snapshots and inspections -/

/-- The document of the store, or the one saved in a file. -/
def diagnostics (s : Session) (saved : Option Path) : Told Diagnostics :=
  match saved with
  | some path => Told.quiet ((Diagnostics.load s.around.store path).mapError (·.failure))
  | none =>
    match s.settings.client with
    | .ok client => s.around.fetch client
    | .error f => .fail f

/-- A snapshot of the whole store. -/
def snapshot (s : Session) (o : SnapshotOrder) : Outcome :=
  let artifacts := s.artifacts o.reportDir
  let fetched := s.diagnostics o.snapshotFile
  match fetched.result with
  | .ok d =>
    s.afterWriting fetched.notes "Schema snapshot"
      (artifacts.writeSnapshot s.around.store (some d) (some d.counts) none) 0 (.ofCounts d.counts)
  | .error f =>
    if f.kind.isExpected then
      s.afterWriting fetched.notes "Schema snapshot"
        (artifacts.writeSnapshot s.around.store none none (some f.message)) 1
        fun _ => .ofFailure ("Snapshot failed: " ++ f.message)
    else broken s.around.store fetched.notes f

/-- An inspection of one table. -/
def inspect (s : Session) (o : InspectOrder) : Outcome :=
  let artifacts := s.artifacts o.reportDir
  let fetched := s.diagnostics o.snapshotFile
  match fetched.result with
  | .ok d =>
    let i := d.inspect o.table
    s.afterWriting fetched.notes "Inspection report"
      (artifacts.writeInspection s.around.store o.table (some i) none) (if i.found then 0 else 1)
      (.ofInspection i)
  | .error f =>
    if f.kind.isExpected then
      s.afterWriting fetched.notes "Inspection report"
        (artifacts.writeInspection s.around.store o.table none (some f.message)) 1
        fun _ => .ofFailure ("Inspection failed: " ++ f.message)
    else broken s.around.store fetched.notes f

/-- A command with its words. -/
def command (s : Session) (c : Command) (words : List String) : Outcome :=
  let done (o : Except Refusal Outcome) : Outcome := match o with
    | .ok outcome => { outcome with notes := s.settings.loadedNote :: outcome.notes }
    | .error refusal => ⟨.refused refusal, "", [], [], s.around.store⟩
  match c with
  | .audit => done ((AuditOrder.ofWords words).map s.audit)
  | .snapshot => done ((SnapshotOrder.ofWords words).map s.snapshot)
  | .inspect => done ((InspectOrder.ofWords words).map s.inspect)

end Session

/-! ### The program -/

/-- The settings and the log style of a run. A level among the words counts before that of the settings. -/
def configure (around : Surroundings) (g : Globals) : Except Ending (Settings × LogStyle) := do
  let settings ← (Settings.load around.store around.environment []).mapError .settings
  let level := (g.logLevel.filter (· ≠ "")).getD settings.logLevel
  let style ← (LogStyle.ofLevel level settings.structured).mapError .level
  pure (settings, style)

/-- A run over the words of a command line. The program is set up before the words of the command are
read, so a fault of the settings is told first. -/
def run (around : Surroundings) (words : List String) : Outcome :=
  let ended (e : Ending) : Outcome := ⟨e, "", [], [], around.store⟩
  match Opening.ofWords words with
  | .error refusal => ended (.refused refusal)
  | .ok opening =>
    match configure around opening.globals with
    | .error e => ended e
    | .ok (settings, _) =>
      (Session.mk around settings opening.globals.json).command opening.command opening.words

/-- The log of a run at a time: the notes that the level asked for keeps. -/
def logText (around : Surroundings) (words : List String) (time : String) (o : Outcome) : String :=
  match Opening.ofWords words with
  | .error _ => ""
  | .ok opening =>
    match configure around opening.globals with
    | .error _ => ""
    | .ok (_, style) => style.text time (o.notes.map (·.record))

end SchemaAudit.CommandLine

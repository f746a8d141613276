import SchemaAudit.CommandLine.Run
import SchemaAudit.Display.Plain
import Std.Time.DateTime.Timestamp

/-!
The program on a real system. It reads the files that the words of the command line and the settings may
mean, runs over them, writes what has changed, and tells the answer. A module `a.b` with registries is the
JSON file `a/b.json`. Manifests are found through a listing: the variable `CONTRACTGUARD_FILES` names a file
with a path on each line. There is no way to a store here, so an audit needs a saved snapshot or manifests.
-/

namespace SchemaAudit.Program

/-- How the program is used. -/
def usage : String := "usage: contractguard [--json|--no-json] [--log-level LEVEL] COMMAND ...

commands:
  audit [TABLE] [--source live|manifest] [--contracts registry|manifest] [--registry MODULE:NAME]
        [--snapshot-file PATH] [--manifest-dir PATH] [--report-dir PATH] [--workers N]
  snapshot [--snapshot-file PATH] [--report-dir PATH]
  inspect TABLE [--snapshot-file PATH] [--report-dir PATH]
"

/-- The values that the environment has for settings. -/
def settingVariables : IO (List (String × String)) :=
  Settings.names.filterMapM fun name => do
    let key := (Settings.variablePrefix ++ name).toUpper
    return (← IO.getEnv key).map fun value => (key, value)

/-- The bytes of a file, if it can be read. -/
def bytesOf? (path : String) : IO (Option (List UInt8)) := do
  try
    return some (← IO.FS.readBinFile path).toList
  catch _ => return none

/-- A store with a file of the system, if it is there. -/
def withFile [StandIns] (s : FileStore) (path : String) : IO FileStore := do
  let p := Path.ofText path
  match ← bytesOf? p.text with
  | none => return s
  | some bytes =>
    let s := (s.ensureDirectories p.parent).1
    match s.place p with
    | .ok place => return s.put place (.file bytes)
    | .error _ => return s

/-- The paths that the words of a command line may mean. -/
def pathsAmong (words : List String) : List String :=
  words.flatMap fun word =>
    match CommandLine.splitOption word with
    | (_, some value) => [value]
    | (name, none) => [name]

/-- The lines of a file. -/
def linesOf [StandIns] (s : FileStore) (path : String) : List String :=
  match s.readText (.ofText path) with
  | .ok text => (Text.pieces '\n' text).map String.ofList
  | .error _ => []

/-- The name and the file of the module that an import path starts with. -/
def moduleFile? (importPath : String) : Option (String × String) :=
  (Text.cutAtChar ':' importPath.toList).map fun (name, _) =>
    (String.ofList name, String.ofList (name.map fun c => if c = '.' then '/' else c) ++ ".json")

/-- A module out of its file. -/
def moduleOf? [StandIns] (s : FileStore) (file : String) : Option (List (String × Attribute)) :=
  match s.readText (.ofText file) with
  | .error _ => none
  | .ok text =>
    match Json.parse text with
    | .error _ => none
    | .ok described => (Description.run (Description.attributes described)).toOption

/-- The import paths that a command line may mean. -/
def importPaths [StandIns] (s : FileStore) (environment : List (String × String)) (words : List String) :
    List String :=
  let set := match Settings.load s environment [] with
    | .ok settings => settings.registry.toList
    | .error _ => []
  pathsAmong words ++ set

/-- The time now. -/
def now : IO String := do
  let nanoseconds := (← Std.Time.Timestamp.now).toNanosecondsSinceUnixEpoch.val
  let micros := nanoseconds / 1000
  match Moment.ofSeconds (micros / 1000000) (micros % 1000000).toNat with
  | .ok moment => return moment.text "T"
  | .error _ => return ""

/-- Everything that a run may look at. -/
def surroundings [StandIns] (words : List String) : IO CommandLine.Surroundings := do
  let environment ← settingVariables
  let listing := (← IO.getEnv "CONTRACTGUARD_FILES").toList
  let named := ".env" :: listing ++ pathsAmong words ++ environment.map (·.2)
  let store ← named.foldlM withFile (FileStore.empty "work")
  let store ← (listing.flatMap (linesOf store)).foldlM withFile store
  let modules := (importPaths store environment words).filterMap moduleFile?
  let store ← (modules.map (·.2)).foldlM withFile store
  let library : Library := ⟨modules.filterMap fun (name, file) =>
    (moduleOf? store file).map fun attributes => (name, ⟨.file, attributes⟩)⟩
  let fetch (client : RpcClient) : Told Diagnostics :=
    client.fetch fun _ => .failed "there is no connection to a store"
  return ⟨store, environment, library, fetch, ← now⟩

/-- The path of a place in a store whose current directory is the given one. -/
def pathOf (here place : Place) : Path :=
  if here.isPrefixOf place then ⟨"", place.drop here.length⟩ else ⟨"/", place⟩

/-- Writes the files of a store that differ from those of an earlier one. -/
def save (before after : FileStore) : IO Unit := do
  for (place, bytes) in after.filesBelow [] do
    if before.node? place ≠ some (.file bytes) then
      let path := pathOf after.here place
      IO.FS.createDirAll path.parent.text
      IO.FS.writeBinFile path.text (ByteArray.mk bytes.toArray)

/-- Tells how a run ended, and gives the exit code. -/
def tell [StandIns] (ending : CommandLine.Ending) : IO UInt32 := do
  match ending with
  | .exit code => return code.toUInt32
  | .refused .help =>
    IO.print usage
    return 0
  | .refused .misuse =>
    IO.eprint usage
    return 2
  | .settings (.violations vs) =>
    for v in vs do
      IO.eprintln (".".intercalate v.location ++ ": " ++ v.cause.message)
    return 1
  | .settings (.notUtf8 e) =>
    IO.eprintln e.message
    return 1
  | .level e =>
    IO.eprintln e.message
    return 1
  | .failed f =>
    IO.eprintln (f.kind.name ++ ": " ++ f.message)
    return 1

/-- A run over the words of a command line, with all that is written and told of it. -/
def run [StandIns] (words : List String) : IO UInt32 := do
  let around ← surroundings words
  let outcome := CommandLine.run around words
  IO.eprint (CommandLine.logText around words (← now) outcome)
  save around.store outcome.store
  for item in outcome.console do
    for line in item.lines do
      IO.eprintln line
  IO.print outcome.output
  tell outcome.ending

end SchemaAudit.Program

/-- Runs the program over the words of its command line. -/
def main (words : List String) : IO UInt32 := SchemaAudit.Program.run words

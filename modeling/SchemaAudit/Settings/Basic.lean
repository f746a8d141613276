import SchemaAudit.File.Store
import SchemaAudit.Json.Shown
import SchemaAudit.Manifest.Reader
import SchemaAudit.Rpc.Client
import SchemaAudit.Settings.EnvFile
import SchemaAudit.Settings.Lenient
import SchemaAudit.Text.Case

/-!
Settings. Each has a default and may be given by hand, by the environment, or by a file of variables;
the first of these that gives it counts. Settings are read leniently, and everything wrong with them
is told at once.
-/

namespace SchemaAudit

/-- The stages at which an application runs. -/
inductive Stage where
  | dev
  | staging
  | prod
  deriving DecidableEq, Repr

/-- The name of a stage. -/
def Stage.name : Stage → String
  | dev => "dev"
  | staging => "staging"
  | prod => "prod"

/-- The settings of an audit. The key is what was given for it, commonly a text. -/
structure Settings where
  stage : Stage
  debug : Bool
  storeUrl : Option String
  storeKey : Option Json
  routine : String
  timeout : Number.Binary64
  registry : Option String
  manifestDir : Path
  manifestTemplate : String
  reportDir : Path
  workers : Int
  logLevel : String
  structured : Bool

/-- A value given by hand: a plain one, or one that is a secret already. -/
inductive Given where
  | plain (value : Json)
  | secret (value : Json)

/-- A given value where no secret is asked for: a secret is then of no known kind. -/
def Given.value : Given → Json
  | plain value => value
  | secret _ => .obj []

namespace Settings

open Checked

/-- What the names of settings start with in the environment. -/
def variablePrefix : String := "contractguard_"

/-- The names of the settings in order. -/
def names : List String := [
  "env", "debug", "supabase_url", "service_role_key", "diagnostics_rpc", "request_timeout_seconds",
  "contract_registry", "manifest_dir", "manifest_filename_template", "report_dir", "max_workers",
  "log_level", "structured_logging"]

/-- A text in small letters. -/
def small (s : String) : String := String.ofList (Text.lower s.toList)

/-! ### Sources -/

/-- Variables under their names in small letters; of names that become one the last counts. -/
def fold {α : Type} (given : List (String × α)) : List (String × α) :=
  Json.membersOf (given.map fun (name, value) => (small name, value))

/-- The settings among some variables. -/
def settingsAmong (given : List (String × String)) : List (String × Given) :=
  names.filterMap fun name =>
    (given.lookup (variablePrefix ++ name)).map fun value => (name, .plain (.str value))

/-- The settings in a file of variables. A variable with a value that is no setting counts as one that
nobody asks for, unless it is the bare name of a setting. -/
def settingsInFile (given : List (String × Option String)) : List (String × Given) :=
  let known := given.filterMap fun (name, value) => value.map fun v => (name, v)
  let strays := known.filter fun (name, value) =>
    value ≠ "" && !names.contains name && !names.any fun n => variablePrefix ++ n = name
  settingsAmong known ++ strays.map fun (name, value) => (name, .plain (.str value))

/-- Settings with others put over them. -/
def layered (upper lower : List (String × Given)) : List (String × Given) :=
  upper.foldl (fun all (name, value) => Json.setMember name value all) lower

/-! ### Reading -/

/-- A setting that may be left out. -/
def setting {α : Type} (fallback : α) (name : String) (read : Given → Checked α)
    (given : List (String × Given)) : Checked α :=
  match given.lookup name with
  | some value => (read value).under name
  | none => ok fallback

/-- A stage by its name. -/
def readStage (g : Given) : Checked Stage :=
  let stages : List Stage := [.dev, .staging, .prod]
  match g.value with
  | .str s =>
    match stages.find? fun stage => stage.name = s with
    | some stage => ok stage
    | none => wrong (.choice (stages.map (·.name)))
  | _ => wrong (.choice (stages.map (·.name)))

/-- A key: whatever is given is taken for a secret. -/
def readKey : Given → Checked (Option Json)
  | .secret value => ok (some value)
  | .plain .null => ok none
  | .plain value => ok (some value)

/-- A number of workers. -/
def readWorkers (g : Given) : Checked Int :=
  match Lenient.integer g.value with
  | ok n => if n < 1 then wrong (.refused "max_workers must be >= 1") else ok n
  | bad vs => bad vs

/-- What is given but is no setting. -/
def strays (given : List (String × Given)) : List Violation :=
  (given.filter fun (name, _) => !names.contains name).map fun (name, _) => ⟨[name], .extra⟩

/-- The settings themselves. -/
def readKnown (given : List (String × Given)) : Checked Settings :=
  let plain {α : Type} (read : Json → Checked α) (g : Given) : Checked α := read g.value
  Settings.mk
    <$> setting .dev "env" readStage given
    <*> setting false "debug" (plain Lenient.boolean) given
    <*> setting none "supabase_url" (plain optionalString) given
    <*> setting none "service_role_key" readKey given
    <*> setting RpcClient.defaultRoutine "diagnostics_rpc" (plain string) given
    <*> setting (.ofInt 30) "request_timeout_seconds" (plain Lenient.number) given
    <*> setting none "contract_registry" (plain optionalString) given
    <*> setting (.ofText "_docs/supabase") "manifest_dir" (plain Lenient.path) given
    <*> setting Manifests.defaultTemplate "manifest_filename_template" (plain string) given
    <*> setting (.ofText "reports") "report_dir" (plain Lenient.path) given
    <*> setting 8 "max_workers" readWorkers given
    <*> setting "INFO" "log_level" (plain string) given
    <*> setting false "structured_logging" (plain Lenient.boolean) given

/-- Settings out of all that is given. Nothing may be given that is no setting. -/
def read (given : List (String × Given)) : Checked Settings :=
  match readKnown given, strays given with
  | settings, [] => settings
  | settings, vs => bad (settings.violations ++ vs)

/-- Why settings cannot be loaded. -/
inductive LoadFault where
  | violations (vs : List Violation)
  | notUtf8 (e : Text.Utf8Error)
  deriving DecidableEq, Repr

/-- The path of the file of variables. -/
def filePath : Path := .ofText ".env"

/-- The variables of the file, if there is one. -/
def fileVariables [StandIns] (s : FileStore) (environment : List (String × String)) :
    Except LoadFault (List (String × Option String)) :=
  match s.readText filePath with
  | .ok text => .ok (EnvFile.assignments environment text)
  | .error (.notUtf8 e) => .error (.notUtf8 e)
  | .error (.file _) => .ok []

/-- The settings given by hand, by the environment and by the file. -/
def load [StandIns] (s : FileStore) (environment : List (String × String)) (overrides : List (String × Given)) :
    Except LoadFault Settings := do
  let inFile := settingsInFile (fold (← fileVariables s environment))
  let given := layered overrides (layered (settingsAmong (fold environment)) inFile)
  match read given with
  | ok settings => .ok settings
  | bad vs => .error (.violations vs)

/-- The note taken of settings. -/
def loadedNote (s : Settings) : Note :=
  .plain .info .settings s!"Loaded settings for environment: {s.stage.name}"

/-! ### Use -/

/-- Whether a value counts as something. -/
def isSomething : Json → Bool
  | .null => false
  | .bool b => b
  | .int n => n ≠ 0
  | .real x => !x.isZero
  | .str s => s ≠ ""
  | .arr xs => !xs.isEmpty
  | .obj ms => !ms.isEmpty

/-- A key as it may be shown. -/
def maskedKey (key : Json) : String := if isSomething key then "**********" else ""

/-- Whether the store can be asked. -/
def isStoreConfigured (s : Settings) : Bool := s.storeUrl.isSome && s.storeKey.isSome

/-- What is told when the store cannot be asked. -/
def storeNotConfigured : Failure := ⟨.configuration,
  "Live introspection requires CONTRACTGUARD_SUPABASE_URL and CONTRACTGUARD_SERVICE_ROLE_KEY."⟩

/-- The client of the store. -/
def client [StandIns] (s : Settings) : Except Failure RpcClient :=
  match s.storeUrl, s.storeKey with
  | some url, some key => .ok ⟨url, key.plain, s.routine, s.timeout⟩
  | _, _ => .error storeNotConfigured

end Settings

end SchemaAudit

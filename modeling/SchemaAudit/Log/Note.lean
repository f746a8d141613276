import SchemaAudit.Failure
import SchemaAudit.Json.Basic

/-!
Notes that an audit takes on its way, and activities that take them. An activity that fails has its
notes up to the failure.
-/

namespace SchemaAudit

/-- The levels of notes. -/
inductive Level where
  | debug
  | info
  | warning
  | error
  | critical
  deriving DecidableEq, Repr

/-- The name of a level. -/
def Level.name : Level → String
  | debug => "DEBUG"
  | info => "INFO"
  | warning => "WARNING"
  | error => "ERROR"
  | critical => "CRITICAL"

/-- The number of a level. -/
def Level.number : Level → Nat
  | debug => 10
  | info => 20
  | warning => 30
  | error => 40
  | critical => 50

/-- The parts of the program that take notes. -/
inductive Component where
  | settings
  | registry
  | ddl
  | manifest
  | rpc
  | feed
  | writer
  | audit
  deriving DecidableEq, Repr

/-- The name under which a part takes its notes. -/
def Component.logger : Component → String
  | settings => "contract_engine.config"
  | registry => "contract_engine.contracts.registry"
  | ddl => "contract_engine.manifest.ddl_parser"
  | manifest => "contract_engine.manifest.manifest_source"
  | rpc => "contract_engine.introspection.diagnostics_client"
  | feed => "contract_engine.introspection.live_source"
  | writer => "contract_engine.audit.report_writer"
  | audit => "contract_engine.audit.orchestrator"

/-- A note. Some of them hold an event besides their message. -/
structure Note where
  level : Level
  component : Component
  message : String
  event : Option Json

/-- A note without an event. -/
def Note.plain (level : Level) (component : Component) (message : String) : Note :=
  ⟨level, component, message, none⟩

/-- What an activity comes to, and the notes that it took. -/
structure Told (α : Type) where
  notes : List Note
  result : Except Failure α

namespace Told

/-- A result that needs no note. -/
def quiet {α : Type} (result : Except Failure α) : Told α := ⟨[], result⟩

/-- A failure. -/
def fail {α : Type} (f : Failure) : Told α := ⟨[], .error f⟩

/-- A note taken. -/
def note (n : Note) : Told Unit := ⟨[n], .ok ()⟩

/-- One activity after another that succeeded. -/
def andThen {α β : Type} (a : Told α) (f : α → Told β) : Told β :=
  match a.result with
  | .error e => ⟨a.notes, .error e⟩
  | .ok x => ⟨a.notes ++ (f x).notes, (f x).result⟩

instance : Monad Told where
  pure x := ⟨[], .ok x⟩
  bind := andThen

end Told

end SchemaAudit

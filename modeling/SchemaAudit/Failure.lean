/-!
What an operation tells when it fails: a kind and a message. An audit expects some kinds and reports
their message alone; all others are named beside their message.
-/

namespace SchemaAudit

/-- The kinds of failure. The first seven are expected. -/
inductive FailureKind where
  | audit
  | configuration
  | missingContract
  | emptyContract
  | connectivity
  | shape
  | parse
  | unexpected (name : String)
  deriving DecidableEq, Repr

/-- The name of a kind. -/
def FailureKind.name : FailureKind → String
  | audit => "AuditError"
  | configuration => "ConfigurationError"
  | missingContract => "MissingContractError"
  | emptyContract => "EmptyContractError"
  | connectivity => "ConnectivityError"
  | shape => "ShapeValidationError"
  | parse => "ParseError"
  | unexpected name => name

/-- The name of a kind with that of the module that defines it; the unexpected ones need none. -/
def FailureKind.fullName : FailureKind → String
  | unexpected name => name
  | kind => "contract_engine.errors." ++ kind.name

/-- Whether an audit expects a kind of failure. -/
def FailureKind.isExpected : FailureKind → Bool
  | unexpected _ => false
  | _ => true

/-- Whether a kind of failure is one of configuration. -/
def FailureKind.isConfiguration : FailureKind → Bool
  | configuration => true
  | missingContract => true
  | emptyContract => true
  | _ => false

/-- A failure as it is told. -/
structure Failure where
  kind : FailureKind
  message : String
  deriving DecidableEq, Repr

/-- A failure that nobody expects. -/
def Failure.unexpected (name message : String) : Failure := ⟨.unexpected name, message⟩

/-- A failure in the words of a report. -/
def Failure.reported (f : Failure) : String :=
  if f.kind.isExpected then f.message else f.kind.name ++ ": " ++ f.message

end SchemaAudit

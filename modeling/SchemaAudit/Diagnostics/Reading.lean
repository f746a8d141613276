import SchemaAudit.Diagnostics.Basic
import SchemaAudit.Shape
import SchemaAudit.Text.Unencodable

/-!
A diagnostics document read out of JSON. The reading is strict: no value is taken for another kind,
and one violation refuses the whole document. Members that are not asked for are passed over.
-/

namespace SchemaAudit

open Checked

variable [StandIns]

/-- Why a value is no diagnostics document. -/
inductive ShapeError where
  | notObject (kind : String)
  | violations (vs : List Violation)
  deriving DecidableEq, Repr

/-- A column row. -/
def ColumnRow.ofMembers (ms : List (String × Json)) : Checked ColumnRow :=
  ColumnRow.mk <$> member "table" string ms <*> member "column" string ms <*> member "type" string ms

/-- A constraint row. -/
def ConstraintRow.ofMembers (ms : List (String × Json)) : Checked ConstraintRow :=
  ConstraintRow.mk <$> member "table" string ms <*> member "constraint_name" string ms <*>
    member "type" string ms

/-- An index row. -/
def IndexRow.ofMembers (ms : List (String × Json)) : Checked IndexRow :=
  IndexRow.mk <$> member "table" string ms <*> member "index_name" string ms

/-- A policy row. Its definition must be there, but may be null. -/
def PolicyRow.ofMembers (ms : List (String × Json)) : Checked PolicyRow :=
  PolicyRow.mk <$> member "table" string ms <*> member "policy_name" string ms <*>
    member "command" string ms <*> member "definition" optionalString ms

/-- A trigger row. -/
def TriggerRow.ofMembers (ms : List (String × Json)) : Checked TriggerRow :=
  TriggerRow.mk <$> member "trigger_name" string ms <*> member "table" string ms <*>
    member "timing" string ms <*> member "event" string ms

/-- The kind of a routine. -/
def RoutineKind.ofJson : Json → Checked RoutineKind
  | .str s =>
    if s = RoutineKind.function.word then ok .function
    else if s = RoutineKind.procedure.word then ok .procedure
    else if (Text.outsideUtf8? s.toList).isSome then wrong .unencodable
    else wrong (.literal ["FUNCTION", "PROCEDURE"])
  | _ => wrong (.literal ["FUNCTION", "PROCEDURE"])

/-- A routine row. -/
def RoutineRow.ofMembers (ms : List (String × Json)) : Checked RoutineRow :=
  RoutineRow.mk <$> member "name" string ms <*> member "type" RoutineKind.ofJson ms

/-- A category of a document: a list of rows of one record. -/
def category {α : Type} (key row : String) (read : List (String × Json) → Checked α)
    (ms : List (String × Json)) : Checked (List α) :=
  member key (items .list (record row read)) ms

/-- A document out of the members of an object. -/
def Diagnostics.ofMembers (ms : List (String × Json)) : Checked Diagnostics :=
  Diagnostics.mk
    <$> category "schema_columns" "ColumnRow" ColumnRow.ofMembers ms
    <*> category "table_constraints" "ConstraintRow" ConstraintRow.ofMembers ms
    <*> category "indexes" "IndexRow" IndexRow.ofMembers ms
    <*> category "rls_policies" "RlsPolicyRow" PolicyRow.ofMembers ms
    <*> category "triggers" "TriggerRow" TriggerRow.ofMembers ms
    <*> category "functions_and_procedures" "RoutineRow" RoutineRow.ofMembers ms

/-- The document that a value is, or why it is none. -/
def Diagnostics.ofJson : Json → Except ShapeError Diagnostics
  | .obj ms =>
    match Diagnostics.ofMembers ms with
    | ok d => .ok d
    | bad vs => .error (.violations vs)
  | value => .error (.notObject value.kindName)

theorem Diagnostics.ofJson_obj (ms : List (String × Json)) : ofJson (.obj ms) = match ofMembers ms with
    | ok d => .ok d
    | bad vs => .error (.violations vs) := by
  rfl

/-- A violation on one line. -/
def Violation.line (v : Violation) : String := ".".intercalate v.location ++ ": " ++ v.cause.message

/-- At most this many violations are told. -/
def violationsTold : Nat := 5

/-- What a refusal says. -/
def ShapeError.message : ShapeError → String
  | notObject kind => s!"Diagnostics document must be a JSON object, got {kind}."
  | violations vs =>
    let told := "; ".intercalate ((vs.take violationsTold).map (·.line))
    s!"Diagnostics document does not match the expected shape ({vs.length} errors): {told}"

end SchemaAudit

import SchemaAudit.Annotation.Classify
import SchemaAudit.Record.Model
import SchemaAudit.Table

/-!
A registry of record models: which model describes the rows of which table, and the contract that a
model amounts to. A registry is a value; what later happens to the one it was taken from does not
reach it.
-/

namespace SchemaAudit

/-- What a table is registered with. -/
inductive Registered where
  /-- A record model. -/
  | model (m : Record.Model)
  /-- Nothing: the table counts as not registered. -/
  | nothing
  /-- Something that is no record model, with the words that describe it. -/
  | stray (description : String)

/-- A registry: tables in order, each once. -/
structure Registry where
  entries : List (String × Registered)

/-- Why a registry gives no contract for a table. -/
inductive ContractFault where
  | missing (table : String)
  | empty (table : String)
  /-- The table is registered with something that has no fields. -/
  | noFields (description : String)
  deriving DecidableEq, Repr

/-- What the lack of a contract says. -/
def ContractFault.message : ContractFault → String
  | missing table => s!"No contract schema registered for table '{table}'."
  | empty table => s!"Contract for table '{table}' declares no columns."
  | noFields description => description ++ " has no attribute 'model_fields'"

/-- The column of a field: named for its alias if there is one, typed by the token of its type, to
which the field's own options come first. -/
def Record.Field.column (table : String) (f : Record.Field) : Column :=
  ⟨table, f.columnName, (f.type.classify f.entries).spelling⟩

/-- The columns of a record model. -/
def Record.Model.columns [StandIns] (table : String) (m : Record.Model) : List Column :=
  m.fields.map (·.column table)

namespace Registry

/-- The registry of some pairs. A table that comes again keeps its place and has the later value. -/
def ofPairs (pairs : List (String × Registered)) : Registry := ⟨Json.membersOf pairs⟩

/-- The registered tables in order. -/
def tables (r : Registry) : List String := r.entries.map (·.1)

/-- The contract of a table. -/
def contractFor [StandIns] (r : Registry) (table : String) : Except ContractFault Contract :=
  match r.entries.lookup table with
  | none => .error (.missing table)
  | some .nothing => .error (.missing table)
  | some (.stray description) => .error (.noFields description)
  | some (.model m) =>
    let columns := m.columns table
    if columns.isEmpty then .error (.empty table) else .ok ⟨table, columns⟩

end Registry

end SchemaAudit

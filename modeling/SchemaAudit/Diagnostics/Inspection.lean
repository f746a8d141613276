import SchemaAudit.Table
import SchemaAudit.TypeToken

/-!
What a diagnostics document says of one table, and how many objects it holds of each kind.
-/

namespace SchemaAudit

/-- The snapshot of a table: the rows of that table, in the order of the document, types in normal
form. A table that the document does not know has an empty one. -/
def Diagnostics.snapshot (d : Diagnostics) (table : String) : Snapshot where
  table := table
  columns := (d.columns.filter (·.table = table)).map fun r =>
    ⟨r.table, r.column, normalizeType r.type⟩
  metadata := {
    constraints := d.constraints.filter (·.table = table)
    indexes := d.indexes.filter (·.table = table)
    policies := d.policies.filter (·.table = table)
    triggers := d.triggers.filter (·.table = table) }

/-- The structure of one table as the store reports it. -/
structure Inspection where
  table : String
  snapshot : Snapshot
  deriving DecidableEq, Repr

/-- The inspection of a table. -/
def Diagnostics.inspect (d : Diagnostics) (table : String) : Inspection := ⟨table, d.snapshot table⟩

namespace Inspection

/-- A table is found if it has a column. -/
def found (i : Inspection) : Bool := !i.snapshot.columns.isEmpty

/-- An inspection in one line. -/
def summaryLine (i : Inspection) : String :=
  if i.found then
    let m := i.snapshot.metadata
    s!"{i.table}: {i.snapshot.columns.length} columns, {m.constraints.length} constraints, {m.indexes.length} indexes, {m.policies.length} RLS policies, {m.triggers.length} triggers"
  else s!"{i.table}: NOT_FOUND (table absent from the store)"

/-- An inspection as JSON. -/
def toJson (i : Inspection) : Json :=
  .obj [("table_name", .str i.table), ("found", .bool i.found), ("snapshot", i.snapshot.toJson)]

end Inspection

/-- How many objects of each kind a document holds. -/
structure Counts where
  tables : Nat
  columns : Nat
  constraints : Nat
  indexes : Nat
  policies : Nat
  triggers : Nat
  functions : Nat
  procedures : Nat
  deriving DecidableEq, Repr

/-- The counts of a document. -/
def Diagnostics.counts (d : Diagnostics) : Counts where
  tables := d.tableNames.length
  columns := d.columns.length
  constraints := d.constraints.length
  indexes := d.indexes.length
  policies := d.policies.length
  triggers := d.triggers.length
  functions := d.routines.countP (·.kind = .function)
  procedures := d.routines.countP (·.kind = .procedure)

/-- Counts as JSON. -/
def Counts.toJson (c : Counts) : Json :=
  .obj [("tables", .int c.tables), ("columns", .int c.columns), ("constraints", .int c.constraints),
    ("indexes", .int c.indexes), ("rls_policies", .int c.policies), ("triggers", .int c.triggers),
    ("functions", .int c.functions), ("procedures", .int c.procedures)]

end SchemaAudit

import SchemaAudit.Json.Basic

/-!
The diagnostics document of a store: its columns, constraints, indexes, row policies, triggers and
stored routines, each category in the order in which the store reports it.
-/

namespace SchemaAudit

/-- A column of a table with the type that the store reports. -/
structure ColumnRow where
  table : String
  column : String
  type : String
  deriving DecidableEq, Repr

/-- A constraint of a table. -/
structure ConstraintRow where
  table : String
  name : String
  type : String
  deriving DecidableEq, Repr

/-- An index of a table. -/
structure IndexRow where
  table : String
  name : String
  deriving DecidableEq, Repr

/-- A row policy of a table; its definition may be absent. -/
structure PolicyRow where
  table : String
  name : String
  command : String
  definition : Option String
  deriving DecidableEq, Repr

/-- A trigger of a table. -/
structure TriggerRow where
  name : String
  table : String
  timing : String
  event : String
  deriving DecidableEq, Repr

/-- The kinds of stored routines. -/
inductive RoutineKind where
  | function
  | procedure
  deriving DecidableEq, Repr

/-- A stored routine. -/
structure RoutineRow where
  name : String
  kind : RoutineKind
  deriving DecidableEq, Repr

/-- A diagnostics document. -/
structure Diagnostics where
  columns : List ColumnRow
  constraints : List ConstraintRow
  indexes : List IndexRow
  policies : List PolicyRow
  triggers : List TriggerRow
  routines : List RoutineRow
  deriving DecidableEq, Repr

/-- A list with each element in its first place only. -/
def firsts {α : Type} [DecidableEq α] : List α → List α
  | [] => []
  | a :: as => a :: (firsts as).filter (· ≠ a)

/-- The tables that have a column, in the order of their first columns. -/
def Diagnostics.tableNames (d : Diagnostics) : List String := firsts (d.columns.map (·.table))

/-! ### Written as JSON -/

/-- The word for a kind of routine. -/
def RoutineKind.word : RoutineKind → String
  | function => "FUNCTION"
  | procedure => "PROCEDURE"

/-- A column as JSON. -/
def ColumnRow.toJson (r : ColumnRow) : Json :=
  .obj [("table", .str r.table), ("column", .str r.column), ("type", .str r.type)]

/-- A constraint as JSON. -/
def ConstraintRow.toJson (r : ConstraintRow) : Json :=
  .obj [("table", .str r.table), ("constraint_name", .str r.name), ("type", .str r.type)]

/-- An index as JSON. -/
def IndexRow.toJson (r : IndexRow) : Json :=
  .obj [("table", .str r.table), ("index_name", .str r.name)]

/-- A policy as JSON. -/
def PolicyRow.toJson (r : PolicyRow) : Json :=
  .obj [("table", .str r.table), ("policy_name", .str r.name), ("command", .str r.command),
    ("definition", .ofOption r.definition)]

/-- A trigger as JSON. -/
def TriggerRow.toJson (r : TriggerRow) : Json :=
  .obj [("trigger_name", .str r.name), ("table", .str r.table), ("timing", .str r.timing),
    ("event", .str r.event)]

/-- A routine as JSON. -/
def RoutineRow.toJson (r : RoutineRow) : Json :=
  .obj [("name", .str r.name), ("type", .str r.kind.word)]

/-- A document as JSON. -/
def Diagnostics.toJson (d : Diagnostics) : Json :=
  .obj [
    ("schema_columns", .arr (d.columns.map (·.toJson))),
    ("table_constraints", .arr (d.constraints.map (·.toJson))),
    ("indexes", .arr (d.indexes.map (·.toJson))),
    ("rls_policies", .arr (d.policies.map (·.toJson))),
    ("triggers", .arr (d.triggers.map (·.toJson))),
    ("functions_and_procedures", .arr (d.routines.map (·.toJson)))]

end SchemaAudit

import SchemaAudit.Diagnostics.Basic

/-!
Tables as the two sides of an audit see them: the columns that a contract expects, and the snapshot
of what the authoritative source has.
-/

namespace SchemaAudit

/-- A column as one side sees it. The type of a contract's column is the spelling of a token or of a
declared type; that of a snapshot's column is a store type in normal form. -/
structure Column where
  table : String
  name : String
  type : String
  deriving DecidableEq, Repr

/-- The columns that a table is expected to have, in the order of declaration. -/
structure Contract where
  table : String
  columns : List Column
  deriving DecidableEq, Repr

/-- What is reported of a table beside its columns. It is never compared. -/
structure Metadata where
  constraints : List ConstraintRow
  indexes : List IndexRow
  policies : List PolicyRow
  triggers : List TriggerRow
  deriving DecidableEq, Repr

/-- Nothing beside the columns. -/
def Metadata.none : Metadata := ⟨[], [], [], []⟩

/-- A table as the authoritative source has it. -/
structure Snapshot where
  table : String
  columns : List Column
  metadata : Metadata
  deriving DecidableEq, Repr

/-- A column as JSON. -/
def Column.toJson (c : Column) : Json :=
  .obj [("table", .str c.table), ("column", .str c.name), ("canonicalType", .str c.type)]

/-- Metadata as the members of a JSON object. -/
def Metadata.members (m : Metadata) : List (String × Json) := [
  ("constraints", .arr (m.constraints.map (·.toJson))),
  ("indexes", .arr (m.indexes.map (·.toJson))),
  ("rls_policies", .arr (m.policies.map (·.toJson))),
  ("triggers", .arr (m.triggers.map (·.toJson)))]

/-- A snapshot as JSON. -/
def Snapshot.toJson (s : Snapshot) : Json :=
  .obj [("table", .str s.table), ("columns", .arr (s.columns.map (·.toJson))),
    ("metadata", .obj s.metadata.members)]

end SchemaAudit

import SchemaAudit.Table
import SchemaAudit.TypeToken

/-!
The report of one table's audit, and the comparison that makes it: columns missing from the store,
columns that only the store has, and columns whose store type does not satisfy the contract.
-/

namespace SchemaAudit

/-- How an audit of a table ended. -/
inductive Status where
  | pass
  | fail
  | notFound
  deriving DecidableEq, Repr

/-- The word for a status. -/
def Status.word : Status → String
  | pass => "PASS"
  | fail => "FAIL"
  | notFound => "NOT_FOUND"

/-- A column on both sides whose store type does not satisfy the contract. -/
structure Mismatch where
  column : String
  expected : String
  actual : String
  deriving DecidableEq, Repr

/-- The report of one table. An error says why no comparison was made. -/
structure Report where
  table : String
  missing : List Column
  extraneous : List Column
  mismatched : List Mismatch
  status : Status
  error : Option String
  deriving DecidableEq, Repr

namespace Report

/-- How many columns drifted. -/
def driftCount (r : Report) : Nat :=
  r.missing.length + r.extraneous.length + r.mismatched.length

/-- A report in one line. An error counts before the status. -/
def summaryLine (r : Report) : String :=
  match r.error, r.status with
  | some error, _ => s!"{r.table}: FAIL ({error})"
  | none, .notFound => s!"{r.table}: NOT_FOUND (table absent from the authoritative source)"
  | none, .pass => s!"{r.table}: PASS (schema aligned with contract)"
  | none, .fail =>
    s!"{r.table}: FAIL ({r.missing.length} missing, {r.extraneous.length} extraneous, {r.mismatched.length} mismatched)"

/-- The report of a table whose audit failed. -/
def failed (table error : String) : Report := ⟨table, [], [], [], .fail, some error⟩

/-- The report of a table that the authoritative source does not have. -/
def notFound (table : String) : Report := ⟨table, [], [], [], .notFound, none⟩

/-! ### Comparison -/

/-- The type of a column in a snapshot; of two columns of one name the later one counts. -/
def actualType? (snapshot : Snapshot) (name : String) : Option String :=
  (snapshot.columns.reverse.find? (·.name = name)).map (·.type)

/-- The contract's columns that a snapshot lacks, in the contract's order. -/
def missingFrom (contract : Contract) (snapshot : Snapshot) : List Column :=
  contract.columns.filter fun c => (actualType? snapshot c.name).isNone

/-- The snapshot's columns that a contract does not name, in the snapshot's order. -/
def extraneousTo (contract : Contract) (snapshot : Snapshot) : List Column :=
  snapshot.columns.filter fun s => !contract.columns.any (·.name = s.name)

/-- The mismatch of a contract's column, if the snapshot has it with a type that does not do. -/
def mismatch? (snapshot : Snapshot) (c : Column) : Option Mismatch :=
  (actualType? snapshot c.name).bind fun actual =>
    if satisfies c.type actual then none else some ⟨c.name, c.type, actual⟩

/-- The mismatches of a contract's columns, in the contract's order. -/
def mismatches (contract : Contract) (snapshot : Snapshot) : List Mismatch :=
  contract.columns.filterMap (mismatch? snapshot)

/-- The report of a comparison. It passes if there is nothing in the three lists. -/
def ofDrift (contract : Contract) (snapshot : Snapshot) : Report :=
  let missing := missingFrom contract snapshot
  let extraneous := extraneousTo contract snapshot
  let mismatched := mismatches contract snapshot
  let aligned := missing.isEmpty && extraneous.isEmpty && mismatched.isEmpty
  ⟨contract.table, missing, extraneous, mismatched, if aligned then .pass else .fail, none⟩

/-- A comparison was asked for against a snapshot without columns. -/
structure EmptySnapshot where
  table : String
  deriving DecidableEq, Repr

/-- What that refusal says. -/
def EmptySnapshot.message (e : EmptySnapshot) : String :=
  s!"Cannot diff table '{e.table}' against an empty snapshot."

/-- The comparison of a contract with a snapshot that has columns. -/
def compare (contract : Contract) (snapshot : Snapshot) : Except EmptySnapshot Report :=
  if snapshot.columns.isEmpty then .error ⟨contract.table⟩ else .ok (ofDrift contract snapshot)

end Report

end SchemaAudit

import SchemaAudit.Report.Basic
import SchemaAudit.Shape

/-!
Reports as JSON, and reports read out of JSON. A reading takes a member under its written name or
under its plain one, the written name first.
-/

namespace SchemaAudit

open Checked

/-- A mismatch as JSON. -/
def Mismatch.toJson (m : Mismatch) : Json :=
  .obj [("column", .str m.column), ("expected", .str m.expected), ("actual", .str m.actual)]

namespace Report

/-- A report as the members of a JSON object. -/
def members (r : Report) : List (String × Json) := [
  ("tableName", .str r.table),
  ("missing", .arr (r.missing.map (·.toJson))),
  ("extraneous", .arr (r.extraneous.map (·.toJson))),
  ("mismatched", .arr (r.mismatched.map (·.toJson))),
  ("status", .str r.status.word),
  ("error", .ofOption r.error)]

/-- A report as JSON. -/
def toJson (r : Report) : Json := .obj r.members

end Report

/-- A column out of the members of an object. -/
def Column.ofMembers (ms : List (String × Json)) : Checked Column :=
  Column.mk <$> member "table" string ms <*> member "column" string ms <*>
    memberEither "canonicalType" "canonical_type" string ms

/-- A mismatch out of the members of an object. -/
def Mismatch.ofMembers (ms : List (String × Json)) : Checked Mismatch :=
  Mismatch.mk <$> member "column" string ms <*> member "expected" string ms <*>
    member "actual" string ms

/-- A status by its word. -/
def Status.ofJson : Json → Checked Status
  | .str s =>
    if s = Status.pass.word then ok .pass
    else if s = Status.fail.word then ok .fail
    else if s = Status.notFound.word then ok .notFound
    else wrong (.choice ["PASS", "FAIL", "NOT_FOUND"])
  | _ => wrong (.choice ["PASS", "FAIL", "NOT_FOUND"])

namespace Report

/-- A report out of the members of an object. -/
def ofMembers (ms : List (String × Json)) : Checked Report :=
  Report.mk
    <$> memberEither "tableName" "table_name" string ms
    <*> memberOr [] "missing" (items .sequence (record "ColumnDescriptor" Column.ofMembers)) ms
    <*> memberOr [] "extraneous" (items .sequence (record "ColumnDescriptor" Column.ofMembers)) ms
    <*> memberOr [] "mismatched" (items .sequence (record "MismatchedColumn" Mismatch.ofMembers)) ms
    <*> member "status" Status.ofJson ms
    <*> memberOr none "error" optionalString ms

/-- The report that a value is, or all that is wrong with it. -/
def ofJson (value : Json) : Checked Report := record "DiffReport" ofMembers value

end Report

end SchemaAudit

import SchemaAudit.Artifact.Document
import SchemaAudit.Proofs.Json.Lines
import SchemaAudit.Report.Json

/-! # Reports, written and read

The document of a report holds the report: reading it as a report gives back the one that was written, whatever its
texts are. -/

namespace SchemaAudit

open Checked

/-! ### Lists of records -/

theorem Checked.itemsFrom_map {α : Type} {read : Json → Checked α} {write : α → Json}
    (h : ∀ a, read (write a) = ok a) (position : Nat) (as : List α) :
    itemsFrom read position (as.map write) = ok as := by
  induction as generalizing position with
  | nil => rfl
  | cons a as ih =>
    rw [List.map_cons, itemsFrom, h, ih]
    rfl

theorem Checked.items_map {α : Type} {read : Json → Checked α} {write : α → Json} (cause : Violation.Cause)
    (h : ∀ a, read (write a) = ok a) (as : List α) : items cause read (.arr (as.map write)) = ok as :=
  itemsFrom_map h 0 as

/-! ### Members -/

theorem Checked.member_of_lookup {α : Type} {key : String} {read : Json → Checked α} {ms : List (String × Json)}
    {value : Json} {a : α} (hl : ms.lookup key = some value) (hr : read value = ok a) : member key read ms = ok a := by
  rw [member, hl]
  change (read value).under key = _
  rw [hr]
  rfl

theorem Checked.memberOr_of_lookup {α : Type} {fallback : α} {key : String} {read : Json → Checked α}
    {ms : List (String × Json)} {value : Json} {a : α} (hl : ms.lookup key = some value) (hr : read value = ok a) :
    memberOr fallback key read ms = ok a := by
  rw [memberOr, hl]
  change (read value).under key = _
  rw [hr]
  rfl

theorem Checked.memberEither_of_lookup {α : Type} {key other : String} {read : Json → Checked α}
    {ms : List (String × Json)} {value : Json} {a : α} (hl : ms.lookup key = some value) (hr : read value = ok a) :
    memberEither key other read ms = ok a := by
  rw [memberEither, hl]
  exact member_of_lookup hl hr

/-! ### Columns, mismatches and reports -/

theorem Column.ofMembers_toJson (c : Column) : record "ColumnDescriptor" Column.ofMembers c.toJson = ok c := rfl

theorem Mismatch.ofMembers_toJson (m : Mismatch) : record "MismatchedColumn" Mismatch.ofMembers m.toJson = ok m := rfl

theorem Status.ofJson_word (s : Status) : Status.ofJson (.str s.word) = ok s := by cases s <;> rfl

theorem Checked.optionalString_ofOption (s : Option String) : optionalString (Json.ofOption s) = ok s := by
  cases s <;> rfl

namespace Report

/-- A report is read out of members that hold its own ones, whatever stands beside them. -/
theorem ofMembers_of_lookup {r : Report} {ms : List (String × Json)}
    (h : ∀ m ∈ r.members, ms.lookup m.1 = some m.2) : ofMembers ms = ok r := by
  have own {key : String} {value : Json} (hm : (key, value) ∈ r.members) : ms.lookup key = some value := h _ hm
  have htable : memberEither "tableName" "table_name" string ms = ok r.table :=
    memberEither_of_lookup (h ("tableName", .str r.table) (by simp [members])) rfl
  have hmissing : memberOr [] "missing" (items .sequence (record "ColumnDescriptor" Column.ofMembers)) ms =
      ok r.missing :=
    memberOr_of_lookup (own (by simp [members])) (Checked.items_map .sequence Column.ofMembers_toJson r.missing)
  have hextraneous : memberOr [] "extraneous" (items .sequence (record "ColumnDescriptor" Column.ofMembers)) ms =
      ok r.extraneous :=
    memberOr_of_lookup (own (by simp [members])) (Checked.items_map .sequence Column.ofMembers_toJson r.extraneous)
  have hmismatched : memberOr [] "mismatched" (items .sequence (record "MismatchedColumn" Mismatch.ofMembers)) ms =
      ok r.mismatched :=
    memberOr_of_lookup (own (by simp [members])) (Checked.items_map .sequence Mismatch.ofMembers_toJson r.mismatched)
  have hstatus : member "status" Status.ofJson ms = ok r.status :=
    member_of_lookup (own (by simp [members])) (Status.ofJson_word r.status)
  have herror : memberOr none "error" optionalString ms = ok r.error :=
    memberOr_of_lookup (own (by simp [members])) (Checked.optionalString_ofOption r.error)
  rw [ofMembers, htable, hmissing, hextraneous, hmismatched, hstatus, herror]
  rfl

end Report

/-- The document of a report is read back as that report. -/
theorem Artifact.ofJson_report (stamp : String) (r : Report) (contractSource schemaSource : String) :
    Report.ofJson (Artifact.report stamp r contractSource schemaSource) = ok r := by
  refine Report.ofMembers_of_lookup fun m hm => ?_
  simp only [Report.members, List.mem_cons, List.not_mem_nil, or_false] at hm
  rcases hm with rfl | rfl | rfl | rfl | rfl | rfl <;> rfl

end SchemaAudit

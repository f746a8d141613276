import SchemaAudit.Proofs.Artifact.Structure
import SchemaAudit.Proofs.CommandLine.SavedFile

/-! # Files that hold no document

Of all that the writer puts down only a snapshot of the store has a list of the store's columns where a document of the
store has it. The other files are all JSON, whatever the texts in them are, so each of them is refused for its shape when
it is loaded: `Artifacts.load_of_undocumented`. So is the empty file that is left when a text has no bytes. -/

namespace SchemaAudit

open Json (Readable depthLimit)

variable {depth : Nat} {s : FileStore}

/-! ### Values without columns -/

/-- A value that has no columns of the store among its details. -/
def Json.LacksColumns (v : Json) : Prop :=
  ∀ ms, Diagnostics.details v = .obj ms → ms.lookup "schema_columns" = none

namespace Diagnostics

variable {path : Path}

theorem violations_of_missing {d : Demand} {ms : List (String × Json)} (h : ms.lookup d.key = none) :
    d.violations ms = [⟨[d.key], .missing⟩] := by
  rw [Demand.violations, h]

theorem wrongIn_ne_nil_of_lookup [StandIns] {ms : List (String × Json)} (h : ms.lookup "schema_columns" = none) :
    wrongIn ms ≠ [] := by
  have hmissing := violations_of_missing (d := .rows "schema_columns" "ColumnRow"
    [.string "table", .string "column", .string "type"]) h
  rw [wrongIn, demands, List.flatMap_cons, hmissing]
  exact List.cons_ne_nil _ _

theorem ofJson_of_lacksColumns [StandIns] {v : Json} (h : v.LacksColumns) : ∃ e, ofJson (details v) = .error e := by
  cases hread : ofJson (details v) with
  | error e => exact ⟨e, rfl⟩
  | ok d =>
    obtain ⟨ms, hms, hnone⟩ := ofJson_eq_ok_iff.mp ⟨d, hread⟩
    exact absurd hnone (wrongIn_ne_nil_of_lookup (h ms hms))

/-- A file that holds a value without columns is refused for its shape. -/
theorem load_of_lacksColumns [StandIns] {v : Json} (hjson : s.json? path = some v) (h : v.LacksColumns) :
    LoadEnding.misshapen.Tells (load s path) := by
  obtain ⟨text, htext, hparse⟩ := FileStore.json?_eq_some_iff.mp hjson
  obtain ⟨e, he⟩ := ofJson_of_lacksColumns h
  refine ⟨.shape e, ?_, rfl⟩
  rw [load_of_readText htext, ofText_of_parse_ok hparse, he]
  rfl

/-- So is a file with nothing in it. -/
theorem load_of_empty [StandIns] (h : s.readBytes path = .ok []) : LoadEnding.misshapen.Tells (load s path) := by
  have hread : s.readText path = .ok [] := FileStore.readText_of_readBytes h List.not_mem_nil
  rw [load_of_readText hread]
  exact ⟨_, rfl, rfl⟩

/-- What is told of a file of the wrong shape is met with words. -/
theorem reported_of_misshapen [StandIns] (h : LoadEnding.misshapen.Tells (load s path)) :
    ∃ fault, load s path = .error fault ∧ fault.failure.kind = .shape ∧ fault.Reported s path := by
  obtain ⟨answers, -⟩ := tells_load_iff.mp h
  obtain ⟨fault, hload, hkind⟩ := h
  exact ⟨fault, hload, hkind, SavedFault.reported_of_answers answers hload⟩

end Diagnostics

/-! ### Calls without a document of the store -/

/-- A call of the writer that has no document of the store to put down. -/
inductive Undocumented where
  | report (r : Report) (contractSource schemaSource : String)
  | runFailure (error : String) (tables : Option (List String))
  | failedSnapshot (error : Option String)
  | inspection (table : String) (i : Option Inspection) (error : Option String)

namespace Undocumented

/-- A store after a call, and what the call came to. -/
def apply [StandIns] (a : Artifacts) (s : FileStore) : Undocumented → FileStore × Except WriteFault Path
  | report r contractSource schemaSource => a.writeReport s r contractSource schemaSource
  | runFailure error tables => a.writeRunFailure s error tables
  | failedSnapshot error => a.writeSnapshot s none none error
  | inspection table i error => a.writeInspection s table i error

/-- The document that a call puts down. -/
def document (stamp : String) : Undocumented → Json
  | report r contractSource schemaSource => Artifact.report stamp r contractSource schemaSource
  | runFailure error tables => Artifact.runFailure stamp error tables
  | failedSnapshot error => Artifact.snapshot stamp none none error
  | inspection table i error => Artifact.inspection stamp table i error

/-- The path that a call writes to. -/
def path [StandIns] (a : Artifacts) : Undocumented → Except WriteFault Path
  | report r _ _ => a.reportPath r.table
  | runFailure _ _ => .ok a.runFailurePath
  | failedSnapshot _ => .ok a.snapshotPath
  | inspection table _ _ => a.inspectionPath table

/-- A call that the system does not refuse, and that leaves a file where its document goes: the document, or nothing of it
if it has a text without bytes. -/
structure LeavesFile [StandIns] (w : Undocumented) (a : Artifacts) (s : FileStore) (path : Path) : Prop where
  path : w.path a = .ok path
  unrefused : ∀ fault, (w.apply a s).2 = .error fault → ∃ outside, fault = .notUtf8 outside

variable {w : Undocumented} {a : Artifacts} {path : Path}

theorem apply_eq_keep [StandIns] (w : Undocumented) (a : Artifacts) (s : FileStore) :
    w.apply a s = Artifacts.keep s (w.path a) (w.document a.stamp) := by
  cases w <;> rfl

/-- Every file is one with a plain name in some directory. -/
theorem exists_child_of_path [StandIns] (h : w.path a = .ok path) : ∃ (p : Path) (name : String),
    Path.IsPlain name ∧ path = p.child name := by
  cases w with
  | report r contractSource schemaSource =>
    exact ⟨_, _, Artifact.isPlain_reportFile _, Artifacts.eq_of_reportPath h⟩
  | runFailure error tables =>
    cases h
    exact ⟨_, _, Artifacts.isPlain_runFailure, rfl⟩
  | failedSnapshot error =>
    cases h
    exact ⟨_, _, Artifacts.isPlain_snapshot, rfl⟩
  | inspection table i error =>
    exact ⟨_, _, Artifact.isPlain_inspectionFile _, StructureWrite.eq_of_inspectionPath h⟩

/-- A call leaves a file at least where it wrote one. -/
theorem leavesFile_of_written [StandIns] (h : (w.apply a s).2 = .ok path) : w.LeavesFile a s path := by
  refine ⟨?_, fun fault hfault => nomatch h.symm.trans hfault⟩
  rw [apply_eq_keep] at h
  exact Artifacts.path_of_keep h

/-- What a call leaves is its document, or nothing. -/
theorem LeavesFile.readBytes [StandIns] (h : w.LeavesFile a s path) :
    (w.apply a s).1.readBytes path = .ok (Text.encodeUtf8 (Artifact.text (w.document a.stamp))) ∨
      (w.apply a s).1.readBytes path = .ok [] := by
  obtain ⟨p, name, plain, rfl⟩ := exists_child_of_path h.path
  obtain ⟨saved, hsaved, ends⟩ := Artifacts.keep_saves plain s (w.document a.stamp) (p := p)
  have unrefused := h.unrefused
  rw [apply_eq_keep, h.path] at unrefused ⊢
  rw [hsaved] at unrefused
  generalize (Artifacts.keep s (.ok (p.child name)) (w.document a.stamp)).1 = s' at ends ⊢
  cases ends with
  | refused fault reason =>
    obtain ⟨outside, houtside⟩ := unrefused (.file fault) rfl
    cases houtside
  | spoilt made below place unencodable =>
    exact Or.inr (FileStore.readBytes_put place FileStore.append_singleton_ne_nil)
  | stopped made below place encodable stops =>
    obtain ⟨outside, houtside⟩ := unrefused (.stopped _) rfl
    cases houtside
  | written made below place encodable takes =>
    exact Or.inl (FileStore.readBytes_put place FileStore.append_singleton_ne_nil)

end Undocumented

/-! ### Their documents -/

namespace Artifact

theorem readable_failedSnapshot [StandIns] (stamp : String) (error : Option String) :
    Readable false (depth + 2) (snapshot stamp none none error) := by
  refine Json.readable_obj ["reportMetadata", "instructionsForAI", "auditStatus", "schemaDetails", "counts", "summary"]
    rfl (by decide) ?_
  simp only [List.forall_mem_cons]
  exact ⟨Json.readable_texts ["tool", "purpose", "generatedAt"] rfl (by decide) (by simp), Json.readable_strings _,
    Json.readable_str _, .null, .null, Json.readable_str _, nofun⟩

theorem readable_inspectionDetails [StandIns] (i : Inspection) : Readable false (depth + 3) (inspectionDetails i) := by
  refine Json.readable_obj ["columns", "constraints", "indexes", "rls_policies", "triggers"] rfl (by decide) ?_
  simp only [Metadata.members, List.forall_mem_cons]
  exact ⟨Json.readable_records (fun _ => Json.readable_texts ["column", "type"] rfl (by decide) (by simp)) _,
    Json.readable_records ConstraintRow.readable_toJson _, Json.readable_records IndexRow.readable_toJson _,
    Json.readable_records PolicyRow.readable_toJson _, Json.readable_records TriggerRow.readable_toJson _,
    List.forall_mem_nil _⟩

theorem readable_inspection [StandIns] (stamp table : String) (i : Option Inspection) (error : Option String) :
    Readable false (depth + 4) (inspection stamp table i error) := by
  have details : ∀ i : Option Inspection, Readable false (depth + 3) ((i.map inspectionDetails).getD .null)
    | none => .null
    | some i => readable_inspectionDetails i
  refine Json.readable_obj ["reportMetadata", "instructionsForAI", "auditStatus", "schemaDetails", "summary"]
    (by cases i <;> rfl) (by decide) ?_
  cases i with
  | none =>
    simp only [List.forall_mem_cons]
    exact ⟨Json.readable_texts ["tool", "purpose", "generatedAt", "targetTable"] rfl (by decide) (by simp),
      Json.readable_strings _, Json.readable_str _, details none, Json.readable_str _, nofun⟩
  | some i =>
    simp only [List.forall_mem_cons]
    exact ⟨Json.readable_texts ["tool", "purpose", "generatedAt", "targetTable"] rfl (by decide) (by simp),
      Json.readable_strings _, Json.readable_str _, details (some i), Json.readable_str _, nofun⟩

end Artifact

namespace Undocumented

theorem readable_document [StandIns] (w : Undocumented) (stamp : String) :
    Readable false depthLimit (w.document stamp) := by
  cases w with
  | report r contractSource schemaSource => exact Artifact.readable_report stamp r contractSource schemaSource
  | runFailure error tables => exact Artifact.readable_runFailure stamp error tables
  | failedSnapshot error => exact Artifact.readable_failedSnapshot stamp error
  | inspection table i error => exact Artifact.readable_inspection stamp table i error

/-- A report and a record have no details at all, a failed snapshot and a failed inspection have none to speak of, and
the details of an inspection call their columns otherwise. -/
theorem lacksColumns_document (w : Undocumented) (stamp : String) : (w.document stamp).LacksColumns := by
  intro ms hms
  cases w with
  | report r contractSource schemaSource =>
    cases hms
    rfl
  | runFailure error tables =>
    cases hms
    rfl
  | failedSnapshot error => cases hms
  | inspection table i error =>
    cases i with
    | none => cases hms
    | some i =>
      cases hms
      rfl

end Undocumented

/-- Only a snapshot of the store can be audited against. Whatever else a call of the writer leaves in its file, with
whatever texts in it, is refused for its shape when it is loaded; and that is met with words by every run and command
over the file. -/
theorem Artifacts.load_of_undocumented [StandIns] (a : Artifacts) (s : FileStore) (w : Undocumented) (path : Path)
    (left : w.LeavesFile a s path) :
    ∃ fault, Diagnostics.load (w.apply a s).1 path = .error fault ∧ fault.failure.kind = .shape ∧
      fault.Reported (w.apply a s).1 path := by
  refine Diagnostics.reported_of_misshapen ?_
  rcases left.readBytes with hbytes | hempty
  · have readable := w.readable_document a.stamp
    have htext := FileStore.readText_of_readBytes hbytes (Artifact.carriageReturn_not_mem_text readable)
    exact Diagnostics.load_of_lacksColumns
      (FileStore.json?_eq_some_iff.mpr ⟨_, htext, Artifact.parse_text readable⟩) (w.lacksColumns_document a.stamp)
  · exact Diagnostics.load_of_empty hempty

/-- The inspection of a table that bears the name of a category and failed with a text that looks like one. -/
def Undocumented.lookalike : Undocumented :=
  .inspection "schema_columns" none (some (String.ofList
    ['\x7b', '"', 's', 'c', 'h', 'e', 'm', 'a', '_', 'c', 'o', 'l', 'u', 'm', 'n', 's', '"', ':', '[', ']', '\x7d']))

/-- It is written, and its file is refused. -/
theorem Artifacts.load_of_lookalike : ∃ s',
    Undocumented.lookalike.apply nearby emptySchemaStore =
      (s', .ok (nearby.schema.child "schema-schema_columns.json")) ∧
    ∃ fault, Diagnostics.load s' (nearby.schema.child "schema-schema_columns.json") = .error fault ∧
      fault.failure.kind = .shape := by
  have hdoc : (Undocumented.lookalike.document nearby.stamp).InUtf8 :=
    Artifact.inUtf8_failedInspection (inUtf8_of_ascii (by decide)) (inUtf8_of_ascii (by decide))
      (inUtf8_of_ascii (by decide))
  have written := keep_of_made (Artifact.isPlain_inspectionFile "schema_columns")
    (FileStore.ensureDirectories_of_hasDirectory (s := emptySchemaStore) (p := nearby.schema)
      (d := ["w", "out", "schema"]) ⟨rfl, rfl⟩)
    (q := ["w", "out", "schema", "schema-schema_columns.json"]) rfl rfl hdoc
  have happly := (Undocumented.apply_eq_keep .lookalike nearby emptySchemaStore).trans written
  obtain ⟨fault, hload, hkind, -⟩ := load_of_undocumented nearby emptySchemaStore .lookalike _
    (Undocumented.leavesFile_of_written (congrArg Prod.snd happly))
  rw [happly] at hload
  exact ⟨_, happly, fault, hload, hkind⟩

end SchemaAudit

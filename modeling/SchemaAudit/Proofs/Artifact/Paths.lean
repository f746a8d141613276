import SchemaAudit.Proofs.Artifact.Structure
import SchemaAudit.Proofs.Artifact.Writer

/-! # Where the files of tables are

The file of a table's report or inspection is one step below the directory of its kind, whatever the table is called: its
name is made of the characters of keys, and the name of the table is told by the key in it (`files_of_table`). A name that
is outside UTF-8 has no key, and nothing is written for it. -/

namespace SchemaAudit

open Text (decodeUtf8 encodeUtf8 outsideUtf8? Percent.bytes)

namespace Artifact

variable {table : String} {c : Char}

theorem InKeys.marks (h : InKeys c) : c.isAlphanum = true ∨ c ∈ ['_', '.', '-', '~', '%'] := by
  simp only [InKeys, Text.Percent.isUnreserved, Bool.or_eq_true, decide_eq_true_eq] at h
  rcases h with ((((h | rfl) | rfl) | rfl) | rfl) | rfl
  · exact Or.inl h
  all_goals exact Or.inr (by decide)

/-- The codes of a key undone give the name in UTF-8. -/
theorem decodeUtf8_keyOf (h : table ≠ "") : decodeUtf8 (Percent.bytes (keyOf table)) = .ok table.toList := by
  rw [keyOf, if_neg h, bytes_flatMap_keyChar, Text.decodeUtf8_encodeUtf8]

/-- The name of a file that a directory keeps: of the characters of keys, and none of the two that lead elsewhere. -/
structure Kept (file : String) : Prop where
  characters : ∀ c ∈ file.toList, c.isAlphanum = true ∨ c ∈ ['_', '.', '-', '~', '%']
  ne_dot : file ≠ "."
  ne_dots : file ≠ ".."

theorem kept_reportFile (table : String) : Kept (reportFile table) where
  characters _ hc := (inKeys_of_mem_reportFile hc).marks
  ne_dot := (isPlain_reportFile table).ne_dot
  ne_dots := (isPlain_reportFile table).ne_dots

theorem kept_inspectionFile (table : String) : Kept (inspectionFile table) where
  characters _ hc := (inKeys_of_mem_inspectionFile hc).marks
  ne_dot := (isPlain_inspectionFile table).ne_dot
  ne_dots := (isPlain_inspectionFile table).ne_dots

end Artifact

namespace Artifacts

variable {a : Artifacts} {s : FileStore} {table : String}

/-- A call that saved a document in one file of a directory, or could not: what it leaves, and what it tells. -/
structure KeepsIn [StandIns] (s : FileStore) (directory : Path) (file : String) (document : Json)
    (outcome : FileStore × Except WriteFault Path) : Prop where
  tells : ∀ path, outcome.2 = .ok path → path = ⟨directory.root, directory.parts ++ [file]⟩
  leaves : ∃ saved, FileStore.SaveEnds s directory file (Artifact.text document) outcome.1 saved ∧
    (saved = .ok () ↔ ∃ path, outcome.2 = .ok path)

theorem keepsIn_keep [StandIns]
    {directory : Path} {file : String} (hfile : Path.IsPlain file) (s : FileStore) (document : Json) :
    KeepsIn s directory file document (keep s (.ok (directory.child file)) document) := by
  obtain ⟨saved, hsaved, hends⟩ := keep_saves (p := directory) hfile s document
  refine ⟨fun path hpath => ?_, saved, hends, ?_⟩
  · rw [← Path.child_of_plain directory hfile]
    exact (Except.ok.inj (path_of_keep hpath)).symm
  · rw [hsaved]
    cases saved with
    | error fault => exact iff_of_false nofun fun ⟨_, h⟩ => nomatch h
    | ok => exact iff_of_true rfl ⟨_, rfl⟩

/-- The files of a table with a key. -/
structure Files [StandIns] (a : Artifacts) (table key report inspection : String) : Prop where
  key_eq : Artifact.key table = .ok key
  key_characters : ∀ c ∈ key.toList, c.isAlphanum = true ∨ c ∈ ['_', '.', '-', '~', '%']
  key_undone : table ≠ "" → decodeUtf8 (Percent.bytes key.toList) = .ok table.toList
  key_unshared : table = "" → ∀ other, Artifact.key other = .ok key → other = ""
  report_kept : Artifact.Kept report
  reportPath_eq : a.reportPath table = .ok ⟨a.consistency.root, a.consistency.parts ++ [report]⟩
  writeReport : ∀ s (r : Report) contractSource schemaSource, r.table = table →
    KeepsIn s a.consistency report (Artifact.report a.stamp r contractSource schemaSource)
      (a.writeReport s r contractSource schemaSource)
  inspection_kept : Artifact.Kept inspection
  inspectionPath_eq : a.inspectionPath table = .ok ⟨a.schema.root, a.schema.parts ++ [inspection]⟩
  writeInspection : ∀ s i error, KeepsIn s a.schema inspection (Artifact.inspection a.stamp table i error)
    (a.writeInspection s table i error)

theorem files_of_inUtf8 [StandIns] (a : Artifacts) (h : outsideUtf8? table.toList = none) :
    Files a table (String.ofList (Artifact.keyOf table)) (Artifact.reportFile table) (Artifact.inspectionFile table) := by
  have hreport : a.reportPath table = .ok (a.consistency.child (Artifact.reportFile table)) := by
    rw [Artifacts.reportPath_eq, h]
  have hinspection : a.inspectionPath table = .ok (a.schema.child (Artifact.inspectionFile table)) := by
    rw [StructureWrite.inspectionPath_eq, h, StructureWrite.fileOf]
  have hkey : Artifact.key table = .ok (String.ofList (Artifact.keyOf table)) := by rw [Artifact.key_eq, h]
  have hreportPlain := Artifact.isPlain_reportFile table
  have hinspectionPlain := Artifact.isPlain_inspectionFile table
  refine ⟨hkey, fun c hc => ?_, fun hne => ?_, fun hempty other hother => ?_, Artifact.kept_reportFile table, ?_,
    fun s r contractSource schemaSource hr => ?_, Artifact.kept_inspectionFile table, ?_, fun s i error => ?_⟩
  · rw [String.toList_ofList] at hc
    exact (Artifact.inKeys_of_mem_keyOf hc).marks
  · rw [String.toList_ofList]
    exact Artifact.decodeUtf8_keyOf hne
  · rw [Artifact.key_eq] at hother
    cases hu : outsideUtf8? other.toList with
    | some outside =>
      rw [hu] at hother
      cases hother
    | none =>
      rw [hu] at hother
      rw [← hempty]
      exact Artifact.keyOf_injective (String.ofList_inj.mp (Except.ok.inj hother))
  · rw [hreport, Path.child_of_plain _ hreportPlain]
  · rw [Artifacts.writeReport, hr, hreport]
    exact keepsIn_keep hreportPlain s _
  · rw [hinspection, Path.child_of_plain _ hinspectionPlain]
  · rw [Artifacts.writeInspection, hinspection]
    exact keepsIn_keep hinspectionPlain s _

/-- The files of every table stay in their directories. A name of characters always has them: that is the choice of no
stand-ins. Under any other choice a name has them unless half a pair stands in it, and then nothing is written for it. -/
theorem files_of_table (a : Artifacts) (table : String) :
    (∃ key report inspection, @Files .none a table key report inspection) ∧
    ∀ [StandIns], (outsideUtf8? table.toList = none → ∃ key report inspection, Files a table key report inspection) ∧
      ∀ outside, outsideUtf8? table.toList = some outside →
        Artifact.key table = .error (.notUtf8 outside) ∧
        (∀ s (r : Report) contractSource schemaSource, r.table = table →
          a.writeReport s r contractSource schemaSource = (s, .error (.notUtf8 outside))) ∧
        ∀ s i error, a.writeInspection s table i error = (s, .error (.notUtf8 outside)) := by
  refine ⟨⟨_, _, _, @files_of_inUtf8 table .none a ((@inUtf8_iff .none table).mp (inUtf8_none table))⟩, fun {_} =>
    ⟨fun h => ⟨_, _, _, files_of_inUtf8 a h⟩, fun outside h => ⟨?_, fun s r contractSource schemaSource hr => ?_,
      fun s i error => ?_⟩⟩⟩
  · rw [Artifact.key_eq, h]
  · rw [writeReport, hr, reportPath_eq, h]
    rfl
  · rw [writeInspection, StructureWrite.inspectionPath_eq, h]
    rfl

theorem files_of_climbing : ∃ report inspection, Files ⟨⟨"", ["r"]⟩, ""⟩ "../é/" "..%2F%C3%A9%2F" report inspection := by
  obtain ⟨key, report, inspection, files⟩ := (files_of_table ⟨⟨"", ["r"]⟩, ""⟩ "../é/").2.1 (by decide)
  have hkey : Artifact.key "../é/" = .ok "..%2F%C3%A9%2F" := by decide
  cases hkey.symm.trans files.key_eq
  exact ⟨report, inspection, files⟩

end Artifacts

end SchemaAudit

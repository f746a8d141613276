import SchemaAudit.Artifact.Writer
import SchemaAudit.Proofs.Artifact.Document
import SchemaAudit.Proofs.Artifact.Key
import SchemaAudit.Proofs.File.Saving

/-! # One document written

A report is saved in the directory of reports under the name for its table, and not at all if the table has no key; the
record of a failed run is saved beside the reports. What the save leaves is told by `FileStore.SaveEnds`. -/

namespace SchemaAudit

/-- A call that wrote its file, or that the system refused. -/
def WrittenOrRefused (outcome : Except WriteFault Path) : Prop :=
  ∀ fault, outcome = .error fault → fault.isRefusal = true

theorem writtenOrRefused_of_ok {outcome : Except WriteFault Path} {path : Path} (h : outcome = .ok path) :
    WrittenOrRefused outcome := by
  rw [h]
  exact nofun

/-- A call that wrote its whole file, or that the system refused before its file was open. -/
def WholeOrRefused (outcome : Except WriteFault Path) : Prop :=
  ∀ fault, outcome = .error fault → ∃ refusal path, fault = .file (.refused refusal path)

theorem WholeOrRefused.writtenOrRefused {outcome : Except WriteFault Path} (h : WholeOrRefused outcome) :
    WrittenOrRefused outcome := by
  intro fault hfault
  obtain ⟨refusal, path, rfl⟩ := h fault hfault
  rfl

namespace Artifacts

variable {a : Artifacts} {s : FileStore} {table : String}

/-! ### Where a report goes -/

theorem isPlain_runFailure : Path.IsPlain "_run-failure.json" :=
  ⟨by decide, by decide, by decide, by decide⟩

theorem reportPath_eq [StandIns] (a : Artifacts) (table : String) : a.reportPath table =
    match Text.outsideUtf8? table.toList with
    | some outside => .error (.notUtf8 outside)
    | none => .ok (a.consistency.child (Artifact.reportFile table)) := by
  rw [reportPath, Artifact.key_eq]
  cases Text.outsideUtf8? table.toList with
  | some outside => rfl
  | none =>
    refine congrArg Except.ok (congrArg a.consistency.child ?_)
    rw [Artifact.reportFile, String.ofList_append, String.ofList_toList]
    rfl

theorem eq_of_reportPath [StandIns] {path : Path} (h : a.reportPath table = .ok path) :
    path = a.consistency.child (Artifact.reportFile table) := by
  rw [reportPath_eq] at h
  split at h
  · cases h
  · cases h
    rfl

theorem outsideUtf8?_of_reportPath [StandIns] {path : Path} (h : a.reportPath table = .ok path) :
    Text.outsideUtf8? table.toList = none := by
  rw [reportPath_eq] at h
  split at h
  · cases h
  · assumption

theorem keep_ok [StandIns] {path : Path} {document : Json} : keep s (.ok path) document =
    ((s.save path (Artifact.text document)).1, (s.save path (Artifact.text document)).2.map fun _ => path) := by
  rw [keep]
  rcases s.save path (Artifact.text document) with ⟨s', fault | ⟨⟨⟩⟩⟩
  · rfl
  · rfl

/-- A document is kept at the path that is given for it. -/
theorem path_of_keep [StandIns] {given : Except WriteFault Path} {path : Path} {document : Json}
    (h : (keep s given document).2 = .ok path) : given = .ok path := by
  cases given with
  | error fault => cases h
  | ok own =>
    rw [keep_ok] at h
    cases hsave : (s.save own (Artifact.text document)).2 with
    | error fault =>
      rw [hsave] at h
      cases h
    | ok =>
      rw [hsave] at h
      exact h

/-- A document kept under a plain name is saved there. -/
theorem keep_saves [StandIns] {p : Path} {name : String} (hn : Path.IsPlain name) (s : FileStore) (document : Json) :
    ∃ saved, (keep s (.ok (p.child name)) document).2 = saved.map (fun _ => p.child name) ∧
      FileStore.SaveEnds s p name (Artifact.text document) (keep s (.ok (p.child name)) document).1 saved := by
  rw [keep_ok]
  exact ⟨_, rfl, FileStore.saveEnds_of_save hn rfl⟩

/-- A report is saved under the name for its table, or not at all if the table has no key. -/
theorem writeReport_cases [StandIns]
    (a : Artifacts) (s : FileStore) (r : Report) (contractSource schemaSource : String) :
    (∃ outside, Text.outsideUtf8? r.table.toList = some outside ∧
      a.writeReport s r contractSource schemaSource = (s, .error (.notUtf8 outside))) ∨
    (Text.outsideUtf8? r.table.toList = none ∧ ∃ saved,
      (a.writeReport s r contractSource schemaSource).2 =
        saved.map (fun _ => a.consistency.child (Artifact.reportFile r.table)) ∧
      FileStore.SaveEnds s a.consistency (Artifact.reportFile r.table)
        (Artifact.text (Artifact.report a.stamp r contractSource schemaSource))
        (a.writeReport s r contractSource schemaSource).1 saved) := by
  rw [writeReport, reportPath_eq]
  cases hu : Text.outsideUtf8? r.table.toList with
  | some outside => exact Or.inl ⟨outside, rfl, rfl⟩
  | none =>
    exact Or.inr ⟨rfl, keep_saves (Artifact.isPlain_reportFile _) s _⟩

theorem writeRunFailure_saves [StandIns]
    (a : Artifacts) (s : FileStore) (error : String) (tables : Option (List String)) :
    ∃ saved, (a.writeRunFailure s error tables).2 = saved.map (fun _ => a.runFailurePath) ∧
      FileStore.SaveEnds s a.consistency "_run-failure.json"
        (Artifact.text (Artifact.runFailure a.stamp error tables)) (a.writeRunFailure s error tables).1 saved :=
  keep_saves isPlain_runFailure s _

end Artifacts

end SchemaAudit

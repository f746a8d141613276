import SchemaAudit.Proofs.Artifact.Sequence
import SchemaAudit.Proofs.File.Gathering

/-! # Reports gathered in their directory

The reports of tables are the files of a folder, so writing them in any order leads to the same files. A report is
written in any of these stores if it is written in the first one, and refused if it is refused there
(`writeReport_gathered`). -/

namespace SchemaAudit.Artifacts

variable [StandIns]

variable {a : Artifacts} {report : String → Report} {contractSource schemaSource table : String} {s₀ s : FileStore}
  {tables : List String} {path : Path}

/-- The reports of tables in their directory. -/
def reports (a : Artifacts) (report : String → Report) (contractSource schemaSource : String) : Folder String where
  path := a.consistency
  name := Artifact.reportFile
  text table := Artifact.text (Artifact.report a.stamp (report table) contractSource schemaSource)
  plain := Artifact.isPlain_reportFile
  distinct := Artifact.reportFile_injective

theorem writeReport_eq_save (htable : (report table).table = table) (hu : Text.outsideUtf8? table.toList = none) :
    a.writeReport s (report table) contractSource schemaSource =
      (((a.reports report contractSource schemaSource).save s table).1,
        ((a.reports report contractSource schemaSource).save s table).2.map fun _ =>
          a.consistency.child (Artifact.reportFile table)) := by
  rw [writeReport, reportPath_eq, htable, hu]
  dsimp only
  rw [keep_ok]
  rfl

theorem outsideUtf8?_of_writtenOrRefused
    (hw : WrittenOrRefused (a.writeReport s (report table) contractSource schemaSource).2)
    (htable : (report table).table = table) : Text.outsideUtf8? table.toList = none := by
  cases hu : Text.outsideUtf8? table.toList with
  | none => rfl
  | some outside =>
    have hfault : (a.writeReport s (report table) contractSource schemaSource).2 = .error (.notUtf8 outside) := by
      rw [writeReport, reportPath_eq, htable, hu]
      rfl
    cases hw _ hfault

/-- A report that has a place is written to it. -/
theorem writeReport_of_spot {q : Place}
    (hw : WholeOrRefused (a.writeReport s (report table) contractSource schemaSource).2)
    (htable : (report table).table = table) (hspot : (a.reports report contractSource schemaSource).Spot s table q) :
    (a.writeReport s (report table) contractSource schemaSource).2 =
      .ok (a.consistency.child (Artifact.reportFile table)) ∧
    Text.outsideUtf8? ((a.reports report contractSource schemaSource).text table) = none := by
  have hu := outsideUtf8?_of_writtenOrRefused hw.writtenOrRefused htable
  rw [writeReport_eq_save htable hu] at hw ⊢
  rcases (a.reports report contractSource schemaSource).save_cases s table with
    ⟨fault, hno, -⟩ | ⟨q, outside, -, hfault⟩ | ⟨q, -, encodable, htaking⟩
  · exact absurd hspot (hno q)
  · obtain ⟨refusal, path, hrefused⟩ := hw (.notUtf8 outside) (by rw [hfault]; rfl)
    cases hrefused
  · rw [htaking] at hw ⊢
    refine ⟨?_, encodable⟩
    unfold FileStore.taking at hw ⊢
    split at hw
    · obtain ⟨refusal, path, hrefused⟩ := hw _ rfl
      cases hrefused
    · rfl

/-- One more report. It is written or refused, and what it comes to is what it comes to in the first store. -/
theorem writeReport_gathered (h : (a.reports report contractSource schemaSource).Gathered s₀ tables s)
    (htable : (report table).table = table)
    (hw : WholeOrRefused (a.writeReport s₀ (report table) contractSource schemaSource).2) :
    (a.reports report contractSource schemaSource).Gathered s₀ (tables ++ [table])
        (a.writeReport s (report table) contractSource schemaSource).1 ∧
      WholeOrRefused (a.writeReport s (report table) contractSource schemaSource).2 := by
  have hu := outsideUtf8?_of_writtenOrRefused hw.writtenOrRefused htable
  have encodes : (a.reports report contractSource schemaSource).Encodes s₀ table :=
    fun q hq => (writeReport_of_spot hw htable hq).2
  rw [writeReport_eq_save htable hu] at hw ⊢
  refine ⟨h.save encodes, fun fault hfault => ?_⟩
  rcases h.save_result table with heq | ⟨cause, cause', hcause, hcause', hrefused⟩
  · rw [heq] at hfault
    exact hw fault hfault
  · -- a path that the system could not be told of would have been told of in the first store
    have hs : a.consistency.IsSendable := by
      refine Classical.byContradiction fun hs => ?_
      obtain ⟨unsent, hunsent⟩ := FileStore.save_of_not_isSendable (Artifact.isPlain_reportFile table) hs s₀
        ((a.reports report contractSource schemaSource).text table)
      change (a.reports report contractSource schemaSource).save s₀ table = _ at hunsent
      rw [hunsent] at hw
      obtain ⟨refusal, path, hrefusal⟩ := hw _ rfl
      cases hrefusal
    obtain ⟨refusal, refused, rfl⟩ := hrefused hs
    rw [hcause'] at hfault
    cases hfault
    exact ⟨_, _, rfl⟩

end SchemaAudit.Artifacts

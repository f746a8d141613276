import SchemaAudit.Proofs.Audit.Tables
import SchemaAudit.Proofs.Diagnostics.Saved

/-! # Runs that are called off

A run whose schema source cannot be made ready comes to none of its tables. A failure that is expected is recorded with
the tables that the run was for, and told: `Audit.calledOff_iff`. Any other is told at once, and nothing is written. -/

namespace SchemaAudit

open Json (Readable)

variable [StandIns]

variable {depth : Nat} {stamp error : String} {tables : List String}

/-! ### The record of a run -/

theorem Artifact.readable_runFailure (stamp error : String) (tables : Option (List String)) :
    Readable false (depth + 3) (runFailure stamp error tables) := by
  refine Json.readable_obj ["reportMetadata", "instructionsForAI", "status", "targetTables", "error", "summary"] rfl
    (by decide) fun m hm => ?_
  simp only [List.mem_cons, List.not_mem_nil, or_false] at hm
  rcases hm with rfl | rfl | rfl | rfl | rfl | rfl
  · exact Json.readable_texts ["tool", "purpose", "generatedAt"] rfl (by decide) (by simp)
  · exact Json.readable_strings _
  · exact Json.readable_str _
  · cases tables with
    | none => exact Readable.null
    | some tables => exact Json.readable_strings tables
  · exact Json.readable_str _
  · exact Json.readable_str _

/-- The record of a run has the words of the failure and the names of the tables, and the time stamp, besides its own
texts. -/
theorem Artifact.inUtf8_runFailure (hstamp : InUtf8 stamp) (herror : InUtf8 error)
    (htables : ∀ table ∈ tables, InUtf8 table) : (runFailure stamp error (some tables)).InUtf8 := by
  have hlines : ∀ line ∈ runFailureInstructions, InUtf8 line := by
    simp only [runFailureInstructions, List.forall_mem_cons]
    exact ⟨inUtf8_of_ascii (by decide), inUtf8_of_ascii (by decide), nofun⟩
  have hsummary : InUtf8 s!"Audit run aborted: {error}" := by
    simp only [inUtf8_append]
    exact ⟨inUtf8_of_ascii (by decide), herror⟩
  refine Json.inUtf8_obj ?_
  simp only [List.forall_mem_cons]
  refine ⟨⟨inUtf8_of_ascii (by decide), Json.inUtf8_obj ?_⟩,
    ⟨inUtf8_of_ascii (by decide), Json.inUtf8_records fun line hl => Json.inUtf8_str (hlines line hl)⟩,
    ⟨inUtf8_of_ascii (by decide), Json.inUtf8_str (inUtf8_of_ascii (by decide))⟩,
    ⟨inUtf8_of_ascii (by decide), Json.inUtf8_records fun table ht => Json.inUtf8_str (htables table ht)⟩,
    ⟨inUtf8_of_ascii (by decide), Json.inUtf8_str herror⟩, ⟨inUtf8_of_ascii (by decide), Json.inUtf8_str hsummary⟩,
    nofun⟩
  simp only [List.append_nil, List.forall_mem_cons]
  exact ⟨⟨inUtf8_of_ascii (by decide), Json.inUtf8_str (inUtf8_of_ascii (by decide))⟩,
    ⟨inUtf8_of_ascii (by decide), Json.inUtf8_str (inUtf8_of_ascii (by decide))⟩,
    ⟨inUtf8_of_ascii (by decide), Json.inUtf8_str hstamp⟩, nofun⟩

namespace Artifacts

variable {w : Artifacts} {s s' : FileStore} {path : Path}

theorem isSendable_runFailurePath_iff : w.runFailurePath.IsSendable ↔ w.directory.IsSendable := by
  rw [runFailurePath, Path.isSendable_child_of_ascii_iff isPlain_runFailure (by decide), isSendable_consistency_iff]

/-- A record in UTF-8 is written or refused by the system. -/
theorem writeRunFailure_writtenOrRefused (hd : w.directory.IsSendable) (hstamp : InUtf8 w.stamp)
    (herror : InUtf8 error) (htables : ∀ table ∈ tables, InUtf8 table) (s : FileStore) :
    WrittenOrRefused (w.writeRunFailure s error (some tables)).2 :=
  keep_writtenOrRefused isPlain_runFailure (isSendable_runFailurePath_iff.mpr hd)
    (Artifact.inUtf8_runFailure hstamp herror htables) s

/-- The file of the record holds it. -/
theorem json?_of_writeRunFailure {tables : Option (List String)}
    (h : w.writeRunFailure s error tables = (s', .ok path)) :
    s'.json? w.runFailurePath = some (Artifact.runFailure w.stamp error tables) := by
  obtain ⟨rfl, hjson⟩ := json?_of_keep isPlain_runFailure (Artifact.readable_runFailure w.stamp error tables) h
  exact hjson

end Artifacts

namespace Audit

variable {σ : Type} {a : Audit σ} {d : Desk σ} {given : Option (List String)} {f : Failure}

/-! ### Calling off -/

/-- A run that was called off: it told why, and recorded it as far as the system let it. -/
structure CalledOff (a : Audit σ) (d : Desk σ) (given : Option (List String)) (tables : List String) (f : Failure) :
    Prop where
  told : (a.run d given).2 = .error f
  store : (a.run d given).1.store = (a.artifacts.writeRunFailure d.store f.message (some tables)).1
  recorded : ∀ path, (a.artifacts.writeRunFailure d.store f.message (some tables)).2 = .ok path →
    (a.run d given).1.store.json? a.artifacts.runFailurePath =
      some (Artifact.runFailure a.artifacts.stamp f.message (some tables))

theorem abort_of_unexpected (h : f.kind.isExpected = false) (d : Desk σ) (tables : List String) :
    a.abort d tables f = (d, f) := by
  rw [abort, h]
  rfl

/-- What is told of a run is the failure that called it off, if the record was written or the system refused it, and else
why the record could not be written, which nobody expects. -/
theorem abort_of_expected (h : f.kind.isExpected = true) (d : Desk σ) (tables : List String) :
    (a.abort d tables f).1.store = (a.artifacts.writeRunFailure d.store f.message (some tables)).1 ∧
    ((WrittenOrRefused (a.artifacts.writeRunFailure d.store f.message (some tables)).2 ∧ (a.abort d tables f).2 = f) ∨
      (¬ WrittenOrRefused (a.artifacts.writeRunFailure d.store f.message (some tables)).2 ∧
        (a.abort d tables f).2.kind.isExpected = false)) := by
  unfold abort
  rw [if_pos h]
  dsimp only [Desk.noting]
  rcases a.artifacts.writeRunFailure d.store f.message (some tables) with ⟨s, fault | path⟩
  · dsimp only
    split
    · rename_i hrefusal
      refine ⟨rfl, Or.inl ⟨fun fault' heq => ?_, rfl⟩⟩
      cases heq
      exact hrefusal
    · rename_i hrefusal
      refine ⟨rfl, Or.inr ⟨fun hw => hrefusal (hw fault rfl), ?_⟩⟩
      cases fault <;> rfl
  · exact ⟨rfl, Or.inl ⟨writtenOrRefused_of_ok rfl, rfl⟩⟩

/-- A run with a failure that is expected writes the record of it, and tells it if that ends well. -/
theorem run_of_expected (htarget : (a.target d.store given).result = .ok tables)
    (hprepare : (a.schemas.prepare d.store d.memory).2.result = .error f) (h : f.kind.isExpected = true) :
    (a.run d given).1.store = (a.artifacts.writeRunFailure d.store f.message (some tables)).1 ∧
    ((WrittenOrRefused (a.artifacts.writeRunFailure d.store f.message (some tables)).2 ∧
        (a.run d given).2 = .error f) ∨
      (¬ WrittenOrRefused (a.artifacts.writeRunFailure d.store f.message (some tables)).2 ∧
        ∃ f', f'.kind.isExpected = false ∧ (a.run d given).2 = .error f')) := by
  have habort := abort_of_expected (a := a) h (a.asked d given) tables
  rw [store_asked] at habort
  rw [run, runWith_of_failure htarget hprepare]
  obtain ⟨hwritten, ⟨hw, htold⟩ | ⟨hw, htold⟩⟩ := habort
  · exact ⟨hwritten, Or.inl ⟨hw, by rw [htold]⟩⟩
  · exact ⟨hwritten, Or.inr ⟨hw, _, htold, rfl⟩⟩

/-- A run with a failure that is expected is called off by it exactly if its record is written or refused. -/
theorem calledOff_iff (htarget : (a.target d.store given).result = .ok tables)
    (hprepare : (a.schemas.prepare d.store d.memory).2.result = .error f) (h : f.kind.isExpected = true) :
    a.CalledOff d given tables f ↔
      WrittenOrRefused (a.artifacts.writeRunFailure d.store f.message (some tables)).2 := by
  obtain ⟨hstore, ⟨hw, htold⟩ | ⟨hw, f', hf', htold⟩⟩ := run_of_expected htarget hprepare h
  · refine ⟨fun _ => hw, fun _ => ⟨htold, hstore, fun path hpath => ?_⟩⟩
    rw [hstore]
    exact Artifacts.json?_of_writeRunFailure (Prod.ext rfl hpath)
  · refine ⟨fun hoff => ?_, fun hw' => absurd hw' hw⟩
    cases htold.symm.trans hoff.told
    cases hf'.symm.trans h

/-- A run with any other failure writes nothing. -/
theorem run_of_unexpected (htarget : (a.target d.store given).result = .ok tables)
    (hprepare : (a.schemas.prepare d.store d.memory).2.result = .error f) (h : f.kind.isExpected = false) :
    (a.run d given).2 = .error f ∧ (a.run d given).1.store = d.store := by
  rw [run, runWith_of_failure htarget hprepare, abort_of_unexpected h]
  exact ⟨rfl, store_asked⟩

end Audit

end SchemaAudit

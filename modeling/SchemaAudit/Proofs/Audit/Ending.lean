import SchemaAudit.Proofs.Audit.Isolation

/-! # How the audit of a table ends

The report of a table has one of four endings, and which one it is depends on what the two sources tell: a source
fails, the snapshot is empty, the comparison passes, or it finds drift (`Report.Ends`, `Audit.reportOf_cases`). A
failure counts before an empty snapshot and that before any comparison, so a comparison with an empty snapshot is never
asked for. The report is handed on exactly if it can be written or the system refuses it (`Audit.auditTable_ends`). -/

namespace SchemaAudit

/-- The endings of the audit of a table. -/
inductive Ending where
  | failed
  | absent
  | aligned
  | drifted
  deriving DecidableEq, Repr

/-- What a report says for each ending. -/
def Report.Ends (r : Report) : Ending → Prop
  | .failed => r.status = .fail ∧ r.error.isSome = true ∧ r.driftCount = 0
  | .absent => r.status = .notFound ∧ r.error = none ∧ r.driftCount = 0
  | .aligned => r.status = .pass ∧ r.error = none ∧ r.driftCount = 0
  | .drifted => r.status = .fail ∧ r.error = none ∧ 0 < r.driftCount

namespace Report

variable {r : Report} {e e' : Ending} {contract : Contract} {snapshot : Snapshot} {table error : String}

/-! ### Single reports -/

/-- No report has two endings. -/
theorem Ends.unique (h : r.Ends e) (h' : r.Ends e') : e = e' := by
  cases e <;> cases e' <;> simp_all [Ends]

theorem ends_failed (table error : String) : (failed table error).Ends .failed := ⟨rfl, rfl, rfl⟩

theorem ends_notFound (table : String) : (notFound table).Ends .absent := ⟨rfl, rfl, rfl⟩

theorem driftCount_ofDrift_eq_zero_iff :
    (ofDrift contract snapshot).driftCount = 0 ↔ (ofDrift contract snapshot).status = .pass := by
  rw [status_ofDrift_eq_pass_iff]
  simp only [driftCount, ofDrift, Nat.add_eq_zero_iff, List.length_eq_zero_iff, and_assoc]

/-- A comparison finds nothing or something, and fails only in the second case. -/
theorem ends_ofDrift (contract : Contract) (snapshot : Snapshot) :
    (ofDrift contract snapshot).Ends .aligned ∨ (ofDrift contract snapshot).Ends .drifted := by
  rcases status_ofDrift contract snapshot with hpass | hfail
  · exact Or.inl ⟨hpass, rfl, driftCount_ofDrift_eq_zero_iff.mpr hpass⟩
  · refine Or.inr ⟨hfail, rfl, Nat.pos_of_ne_zero fun hzero => ?_⟩
    rw [driftCount_ofDrift_eq_zero_iff, hfail] at hzero
    cases hzero

/-- The line of a report names its table and then its status, as long as an error goes with failing. -/
theorem summaryLine_of_ends (h : r.Ends e) :
    ∃ detail, r.summaryLine = r.table ++ (": " ++ r.status.word ++ " (") ++ detail ++ ")" := by
  cases e with
  | failed =>
    obtain ⟨hstatus, herror, -⟩ := h
    obtain ⟨error, herror⟩ := Option.isSome_iff_exists.mp herror
    refine ⟨error, ?_⟩
    rw [summaryLine, herror, hstatus]
    rfl
  | absent =>
    obtain ⟨hstatus, herror, -⟩ := h
    refine ⟨"table absent from the authoritative source", ?_⟩
    rw [summaryLine, herror, hstatus]
    simp only [String.append_assoc]
    rfl
  | aligned =>
    obtain ⟨hstatus, herror, -⟩ := h
    refine ⟨"schema aligned with contract", ?_⟩
    rw [summaryLine, herror, hstatus]
    simp only [String.append_assoc]
    rfl
  | drifted =>
    obtain ⟨hstatus, herror, -⟩ := h
    refine ⟨s!"{r.missing.length} missing, {r.extraneous.length} extraneous, {r.mismatched.length} mismatched", ?_⟩
    rw [summaryLine, herror, hstatus]
    simp only [String.append_assoc]
    rfl

end Report

namespace Audit

variable {σ : Type} {a : Audit σ} {d : Desk σ} {table : String}

/-! ### What the sources tell -/

/-- The two sides of a table's audit, or the failure of the first source that fails. -/
def sides (a : Audit σ) (d : Desk σ) (table : String) : Except Failure (Contract × Snapshot) := do
  let contract ← (a.contracts.contractFor d.store table).result
  let snapshot ← (a.schemas.snapshotFor d.store d.memory table).result
  pure (contract, snapshot)

theorem sides_eq_ok_iff {contract : Contract} {snapshot : Snapshot} : a.sides d table = .ok (contract, snapshot) ↔
    (a.contracts.contractFor d.store table).result = .ok contract ∧
      (a.schemas.snapshotFor d.store d.memory table).result = .ok snapshot := by
  unfold sides
  cases (a.contracts.contractFor d.store table).result with
  | error f => simp [bind, Except.bind]
  | ok c =>
    cases (a.schemas.snapshotFor d.store d.memory table).result with
    | error f => simp [bind, Except.bind]
    | ok s => simp [bind, Except.bind, pure, Except.pure]

/-- One of the sources fails for a table. -/
def Fails (a : Audit σ) (d : Desk σ) (table : String) (f : Failure) : Prop :=
  (a.contracts.contractFor d.store table).result = .error f ∨
    (a.schemas.snapshotFor d.store d.memory table).result = .error f

theorem fails_of_sides {f : Failure} (h : a.sides d table = .error f) : a.Fails d table f := by
  unfold sides at h
  cases hc : (a.contracts.contractFor d.store table).result with
  | error g =>
    rw [hc] at h
    cases h
    exact Or.inl hc
  | ok contract =>
    rw [hc] at h
    cases hs : (a.schemas.snapshotFor d.store d.memory table).result with
    | error g =>
      rw [hs] at h
      cases h
      exact Or.inr hs
    | ok snapshot =>
      rw [hs] at h
      cases h

theorem exists_fails_iff : (∃ f, a.Fails d table f) ↔ ∃ f, a.sides d table = .error f := by
  constructor
  · rintro ⟨f, hf⟩
    cases hsides : a.sides d table with
    | error g => exact ⟨g, rfl⟩
    | ok both =>
      obtain ⟨hc, hs⟩ := sides_eq_ok_iff.mp hsides
      rcases hf with hf | hf
      · cases hc.symm.trans hf
      · cases hs.symm.trans hf
  · rintro ⟨f, hf⟩
    exact ⟨f, fails_of_sides hf⟩

/-- The report of a table by what the sources tell: a failure comes first, then an empty snapshot, and only a snapshot
with columns is ever compared. -/
theorem reportOf_cases (a : Audit σ) (d : Desk σ) (table : String) :
    (∃ f, a.sides d table = .error f ∧ a.reportOf d table = .failed table f.reported) ∨
    ∃ contract snapshot, a.sides d table = .ok (contract, snapshot) ∧
      ((snapshot.columns = [] ∧ a.reportOf d table = .notFound table) ∨
        (snapshot.columns ≠ [] ∧ a.reportOf d table = .ofDrift contract snapshot)) := by
  unfold reportOf verdict sides
  rw [compareTable, Told.result_bind]
  cases (a.contracts.contractFor d.store table).result with
  | error f => exact Or.inl ⟨f, rfl, rfl⟩
  | ok contract =>
    simp only [Except.bind, Told.result_bind]
    cases (a.schemas.snapshotFor d.store d.memory table).result with
    | error f => exact Or.inl ⟨f, rfl, rfl⟩
    | ok snapshot =>
      refine Or.inr ⟨contract, snapshot, rfl, ?_⟩
      dsimp only
      cases hempty : snapshot.columns with
      | nil => exact Or.inl ⟨rfl, rfl⟩
      | cons column columns =>
        refine Or.inr ⟨List.cons_ne_nil column columns, ?_⟩
        simp only [List.isEmpty_cons, Bool.false_eq_true, if_false, Told.quiet, Report.compare, hempty]
        rfl

/-! ### Endings -/

theorem exists_ends (a : Audit σ) (d : Desk σ) (table : String) : ∃ e, (a.reportOf d table).Ends e := by
  rcases a.reportOf_cases d table with ⟨f, -, hr⟩ | ⟨contract, snapshot, -, ⟨-, hr⟩ | ⟨-, hr⟩⟩
  · exact ⟨.failed, hr ▸ Report.ends_failed table f.reported⟩
  · exact ⟨.absent, hr ▸ Report.ends_notFound table⟩
  · rcases Report.ends_ofDrift contract snapshot with haligned | hdrifted
    · exact ⟨.aligned, hr ▸ haligned⟩
    · exact ⟨.drifted, hr ▸ hdrifted⟩

theorem ends_failed_iff : (a.reportOf d table).Ends .failed ↔ ∃ f, a.Fails d table f := by
  rw [exists_fails_iff]
  rcases a.reportOf_cases d table with ⟨f, hsides, hr⟩ | ⟨contract, snapshot, hsides, hr⟩
  · exact ⟨fun _ => ⟨f, hsides⟩, fun _ => hr ▸ Report.ends_failed table f.reported⟩
  · constructor
    · rintro ⟨-, herror, -⟩
      rcases hr with ⟨-, hr⟩ | ⟨-, hr⟩
      · rw [hr] at herror
        cases herror
      · rw [hr] at herror
        cases herror
    · rintro ⟨f, hf⟩
      cases hsides.symm.trans hf

theorem ends_absent_iff : (a.reportOf d table).Ends .absent ↔
    ∃ contract snapshot, (a.contracts.contractFor d.store table).result = .ok contract ∧
      (a.schemas.snapshotFor d.store d.memory table).result = .ok snapshot ∧ snapshot.columns = [] := by
  simp only [← and_assoc, ← sides_eq_ok_iff]
  -- The report is known in each case, and no report has two endings.
  rcases a.reportOf_cases d table with
    ⟨f, hsides, hr⟩ | ⟨contract, snapshot, hsides, ⟨hempty, hr⟩ | ⟨hcolumns, hr⟩⟩
  · rw [hr, hsides]
    exact ⟨fun h => (nomatch h.unique (Report.ends_failed table f.reported)), fun ⟨_, _, h, _⟩ => (nomatch h)⟩
  · rw [hr]
    exact ⟨fun _ => ⟨contract, snapshot, hsides, hempty⟩, fun _ => Report.ends_notFound table⟩
  · rw [hr]
    constructor
    · intro h
      rcases Report.ends_ofDrift contract snapshot with haligned | hdrifted
      · cases h.unique haligned
      · cases h.unique hdrifted
    · rintro ⟨_, snapshot', hsides', hempty⟩
      cases hsides.symm.trans hsides'
      exact absurd hempty hcolumns

/-- Every error in a report is what one of the sources failed with. -/
theorem fails_of_error {e : String} (h : (a.reportOf d table).error = some e) :
    ∃ f, a.Fails d table f ∧ e = f.reported := by
  rcases a.reportOf_cases d table with ⟨f, hsides, hr⟩ | ⟨contract, snapshot, -, ⟨-, hr⟩ | ⟨-, hr⟩⟩
  · rw [hr] at h
    cases h
    exact ⟨f, fails_of_sides hsides, rfl⟩
  · rw [hr] at h
    cases h
  · rw [hr] at h
    cases h

theorem table_reportOf
    (named : ∀ contract, (a.contracts.contractFor d.store table).result = .ok contract → contract.table = table) :
    (a.reportOf d table).table = table := by
  rcases a.reportOf_cases d table with ⟨f, -, hr⟩ | ⟨contract, snapshot, hsides, ⟨-, hr⟩ | ⟨-, hr⟩⟩
  · rw [hr]
    rfl
  · rw [hr]
    rfl
  · rw [hr]
    exact named contract (sides_eq_ok_iff.mp hsides).1

/-! ### Audits -/

/-- An audit whose own texts are in UTF-8, for a directory that the system can be told of. -/
structure Tellable [StandIns] (a : Audit σ) : Prop where
  directory : a.artifacts.directory.IsSendable
  stamp : InUtf8 a.artifacts.stamp
  contracts : InUtf8 a.contracts.name
  schemas : InUtf8 a.schemas.name

/-- The audit of a table hands on one report, exactly if that can be written or the system refuses it; a report in
UTF-8 is always handed on. The report is that of the table. It has exactly one of four endings: it fails with an error
and nothing else exactly if a source failed, and with that source's words; the table is absent exactly if the sources
told a contract and an empty snapshot; else the report passes without drift or fails with some. Its line names the
table and the status. -/
theorem auditTable_ends [StandIns]
    (named : ∀ contract, (a.contracts.contractFor d.store table).result = .ok contract → contract.table = table) :
    (∀ r, (a.auditTable d table).2 = .ok r ↔ r = a.reportOf d table ∧ WrittenOrRefused (a.written d table)) ∧
    (a.Tellable → (a.reportOf d table).InUtf8 → (a.auditTable d table).2 = .ok (a.reportOf d table)) ∧
    (a.reportOf d table).table = table ∧
    (∃ e, (a.reportOf d table).Ends e ∧ ∀ e', (a.reportOf d table).Ends e' → e' = e) ∧
    ((a.reportOf d table).Ends .failed ↔ ∃ f, a.Fails d table f) ∧
    (∀ e, (a.reportOf d table).error = some e → ∃ f, a.Fails d table f ∧ e = f.reported) ∧
    ((a.reportOf d table).Ends .absent ↔ ∃ contract snapshot,
      (a.contracts.contractFor d.store table).result = .ok contract ∧
        (a.schemas.snapshotFor d.store d.memory table).result = .ok snapshot ∧ snapshot.columns = []) ∧
    ∃ detail, (a.reportOf d table).summaryLine =
      table ++ (": " ++ (a.reportOf d table).status.word ++ " (") ++ detail ++ ")" := by
  have returned (r : Report) : (a.auditTable d table).2 = .ok r ↔
      r = a.reportOf d table ∧ WrittenOrRefused (a.written d table) := by
    rw [auditTable_eq_ok_iff]
    constructor
    · rintro ⟨rfl, hw⟩
      exact ⟨rfl, hw⟩
    · rintro ⟨rfl, hw⟩
      exact ⟨rfl, hw⟩
  have htable := table_reportOf named
  obtain ⟨e, he⟩ := a.exists_ends d table
  refine ⟨returned, fun htell hutf8 => ?_, htable, ⟨e, he, fun _ h => h.unique he⟩, ends_failed_iff,
    fun _ h => fails_of_error h, ends_absent_iff, ?_⟩
  · exact (returned _).mpr ⟨rfl,
      Artifacts.writtenOrRefused htell.directory htell.stamp htell.contracts htell.schemas hutf8 d.store⟩
  · obtain ⟨detail, hline⟩ := Report.summaryLine_of_ends he
    exact ⟨detail, by rw [hline, htable]⟩

/-- A registry with one table whose column holds words, against a column of numbers. -/
def mistyped [StandIns] : Audit Feed := ofRegistryAndDocument
  ⟨[("t", .model ⟨[⟨"T", none, [⟨"mood", .literal [.str "good"], none⟩]⟩]⟩)]⟩
  ⟨[⟨"t", "mood", " INTEGER"⟩], [], [], [], [], []⟩ Artifacts.nearby

/-- Where that column is read already. -/
def mistypedDesk : Desk Feed :=
  ⟨Artifacts.nearbyStore, .holding ⟨[⟨"t", "mood", " INTEGER"⟩], [], [], [], [], []⟩, []⟩

theorem tellable_mistyped [StandIns] : mistyped.Tellable :=
  ⟨Path.isSendable_of_ascii rfl rfl, inUtf8_of_ascii (by decide), inUtf8_of_ascii (by decide),
    inUtf8_of_ascii (by decide)⟩

/-- Two audits of one run: of a table whose column drifted, and of one that has no contract. -/
theorem auditTable_mistyped :
    (mistyped.auditTable mistypedDesk "t").2 =
      .ok ⟨"t", [], [], [⟨"mood", "enum_like", "integer"⟩], .fail, none⟩ ∧
    (mistyped.reportOf mistypedDesk "u").Ends .failed := by
  have hreport : mistyped.reportOf mistypedDesk "t" =
      ⟨"t", [], [], [⟨"mood", "enum_like", "integer"⟩], .fail, none⟩ := by decide
  obtain ⟨-, returned, -⟩ := auditTable_ends (a := mistyped) (d := mistypedDesk) (named_ofRegistry _ _ "t")
  obtain ⟨-, -, -, -, failed, -⟩ := auditTable_ends (a := mistyped) (d := mistypedDesk) (named_ofRegistry _ _ "u")
  refine ⟨?_, failed.mpr ⟨_, Or.inl rfl⟩⟩
  rw [hreport] at returned
  refine returned tellable_mistyped ⟨inUtf8_of_ascii (by decide), nofun, fun m hm => ?_, nofun⟩
  cases List.mem_singleton.mp hm
  exact ⟨inUtf8_of_ascii (by decide), inUtf8_of_ascii (by decide), inUtf8_of_ascii (by decide)⟩

end Audit

end SchemaAudit

import SchemaAudit.Audit.Run
import SchemaAudit.Proofs.Artifact.Writer
import SchemaAudit.Proofs.Report.Comparison

/-! # Audits of tables

The audit of a table passes when its contract and its snapshot are there and agree (`status_verdict_eq_pass_iff`), and
it comes to an end when its report is written or refused (`auditTable_eq_ok_iff`). The audits of several tables keep the
memory of the schema source, so that each of them finds what the first one found. -/

namespace SchemaAudit

variable {σ : Type}

/-! ### Activities -/

theorem Told.result_bind {α β : Type} (x : Told α) (f : α → Told β) :
    (x >>= f).result = x.result.bind fun a => (f a).result := by
  change (Told.andThen x f).result = _
  unfold Told.andThen
  cases x.result with
  | error e => rfl
  | ok a => rfl

theorem Told.result_pure {α : Type} (a : α) : (pure a : Told α).result = .ok a := rfl

/-- A source whose contracts carry the names of their tables. -/
def ContractSource.Named (c : ContractSource) : Prop :=
  ∀ s table contract, (c.contractFor s table).result = .ok contract → contract.table = table

namespace Audit

variable {a : Audit σ} {d : Desk σ} {s : FileStore} {memory : σ} {table : String} {r : Report} {f : Failure}
  {given : Option (List String)} {tables : List String}

/-! ### The verdict on one table -/

theorem status_verdict_eq_pass_iff {outcome : Told Report} :
    (verdict table outcome).status = .pass ↔ ∃ r, outcome.result = .ok r ∧ r.status = .pass := by
  unfold verdict
  cases outcome.result with
  | ok r => simp
  | error f => simp [Report.failed]

/-- A table passes exactly if its contract and its snapshot are there and the comparison of the two passes. -/
theorem compareTable_passes_iff : (verdict table (a.compareTable s memory table)).status = .pass ↔
    ∃ contract snapshot, (a.contracts.contractFor s table).result = .ok contract ∧
      (a.schemas.snapshotFor s memory table).result = .ok snapshot ∧ Report.Passes contract snapshot := by
  rw [status_verdict_eq_pass_iff, compareTable, Told.result_bind]
  cases (a.contracts.contractFor s table).result with
  | error f => simp [Except.bind]
  | ok contract =>
    simp only [Except.bind, Told.result_bind, Except.ok.injEq]
    cases (a.schemas.snapshotFor s memory table).result with
    | error f => simp
    | ok snapshot =>
      simp only [Except.ok.injEq]
      unfold Report.Passes Report.compare
      cases hempty : snapshot.columns.isEmpty with
      | true => simp_all [Told.result_pure, Report.notFound]
      | false => simp_all [Told.quiet, FileStore.mapError_eq_ok_iff]

theorem compareTable_cases (a : Audit σ) (s : FileStore) (memory : σ) (table : String) :
    (∃ f, (a.compareTable s memory table).result = .error f) ∨
    (a.compareTable s memory table).result = .ok (.notFound table) ∨
    ∃ contract snapshot, (a.contracts.contractFor s table).result = .ok contract ∧
      (a.compareTable s memory table).result = .ok (Report.ofDrift contract snapshot) := by
  rw [compareTable, Told.result_bind]
  cases hc : (a.contracts.contractFor s table).result with
  | error f => exact Or.inl ⟨f, rfl⟩
  | ok contract =>
    simp only [Except.bind, Told.result_bind]
    cases (a.schemas.snapshotFor s memory table).result with
    | error f => exact Or.inl ⟨f, rfl⟩
    | ok snapshot =>
      dsimp only
      cases hempty : snapshot.columns.isEmpty with
      | true => exact Or.inr (Or.inl rfl)
      | false =>
        refine Or.inr (Or.inr ⟨contract, snapshot, rfl, ?_⟩)
        simp only [Bool.false_eq_true, if_false, Told.quiet, Report.compare, hempty]
        rfl

/-- A report is that of its table, whatever it comes to. -/
theorem table_verdict (named : a.contracts.Named) : (verdict table (a.compareTable s memory table)).table = table := by
  unfold verdict
  rcases a.compareTable_cases s memory table with ⟨f, hf⟩ | hnone | ⟨contract, snapshot, hcontract, hok⟩
  · rw [hf]
    rfl
  · rw [hnone]
    rfl
  · rw [hok]
    exact named s table contract hcontract

/-- A report that passes has nothing in it but the name of its table. -/
theorem verdict_of_pass (named : a.contracts.Named)
    (h : (verdict table (a.compareTable s memory table)).status = .pass) :
    verdict table (a.compareTable s memory table) = ⟨table, [], [], [], .pass, none⟩ := by
  unfold verdict at h ⊢
  rcases a.compareTable_cases s memory table with ⟨f, hf⟩ | hnone | ⟨contract, snapshot, hcontract, hok⟩
  · rw [hf] at h
    cases h
  · rw [hnone] at h
    cases h
  · rw [hok] at h ⊢
    obtain ⟨hmissing, hextraneous, hmismatches⟩ := Report.status_ofDrift_eq_pass_iff.mp h
    dsimp only at h ⊢
    rw [Report.ofDrift, hmissing, hextraneous, hmismatches, named s table contract hcontract]
    rfl

/-! ### Reports written on the way -/

theorem persist_eq [StandIns] (a : Audit σ) (d : Desk σ) (r : Report) : (a.persist d r).1.store =
    (a.artifacts.writeReport d.store r a.contracts.name a.schemas.name).1 ∧ (a.persist d r).1.memory = d.memory := by
  unfold persist
  rcases a.artifacts.writeReport d.store r a.contracts.name a.schemas.name with ⟨s, fault | path⟩
  · dsimp only
    split
    · exact ⟨rfl, rfl⟩
    · exact ⟨rfl, rfl⟩
  · exact ⟨rfl, rfl⟩

theorem persist_eq_ok_iff [StandIns] : (a.persist d r).2 = .ok () ↔
    WrittenOrRefused (a.artifacts.writeReport d.store r a.contracts.name a.schemas.name).2 := by
  unfold persist WrittenOrRefused
  rcases a.artifacts.writeReport d.store r a.contracts.name a.schemas.name with ⟨s, fault | path⟩
  · dsimp only
    split
    · simp_all
    · simp_all
  · simp

theorem concludeTable_kept (table : String) (report : Report) (p : Desk σ × Except Failure Unit) :
    (concludeTable table report p).1.store = p.1.store ∧ (concludeTable table report p).1.memory = p.1.memory := by
  rcases p with ⟨d, f | ⟨⟨⟩⟩⟩
  · exact ⟨rfl, rfl⟩
  · exact ⟨rfl, rfl⟩

theorem concludeTable_eq_ok_iff {report : Report} {p : Desk σ × Except Failure Unit} :
    (concludeTable table report p).2 = .ok r ↔ r = report ∧ p.2 = .ok () := by
  rcases p with ⟨d, f | ⟨⟨⟩⟩⟩
  · simp [concludeTable]
  · simp [concludeTable, eq_comm]

/-- What the audit of a table leaves: the store after its report was written, and the memory as it was. -/
theorem auditTable_kept [StandIns] (a : Audit σ) (d : Desk σ) (table : String) :
    (a.auditTable d table).1.store = (a.artifacts.writeReport d.store
      (verdict table (a.compareTable d.store d.memory table)) a.contracts.name a.schemas.name).1 ∧
    (a.auditTable d table).1.memory = d.memory := by
  obtain ⟨hstore, hmemory⟩ := a.persist_eq (d.noting (verdictNotes table (a.compareTable d.store d.memory table)))
    (verdict table (a.compareTable d.store d.memory table))
  unfold auditTable
  obtain ⟨hstore', hmemory'⟩ := concludeTable_kept table (verdict table (a.compareTable d.store d.memory table))
    (a.persist (d.noting (verdictNotes table (a.compareTable d.store d.memory table)))
      (verdict table (a.compareTable d.store d.memory table)))
  exact ⟨hstore'.trans hstore, hmemory'.trans hmemory⟩

/-- The audit of a table ends with its report if that is written or refused, and only then. -/
theorem auditTable_eq_ok_iff [StandIns] : (a.auditTable d table).2 = .ok r ↔
    r = verdict table (a.compareTable d.store d.memory table) ∧
    WrittenOrRefused (a.artifacts.writeReport d.store r a.contracts.name a.schemas.name).2 := by
  unfold auditTable
  rw [concludeTable_eq_ok_iff, persist_eq_ok_iff]
  constructor
  · rintro ⟨rfl, hw⟩
    exact ⟨rfl, hw⟩
  · rintro ⟨rfl, hw⟩
    exact ⟨rfl, hw⟩

/-! ### Tables one after another -/

theorem auditTables_cons_eq_ok_iff [StandIns] {tables : List String} {reports : List Report} :
    (a.auditTables d (table :: tables)).2 = .ok reports ↔ ∃ r rs, (a.auditTable d table).2 = .ok r ∧
      (a.auditTables (a.auditTable d table).1 tables).2 = .ok rs ∧ reports = r :: rs := by
  rw [auditTables]
  rcases a.auditTable d table with ⟨d', f | r⟩
  · exact ⟨(nomatch ·), fun ⟨_, _, h, _⟩ => nomatch h⟩
  · dsimp only
    rcases a.auditTables d' tables with ⟨d'', f | rs⟩
    · exact ⟨(nomatch ·), fun ⟨_, _, _, h, _⟩ => nomatch h⟩
    · constructor
      · intro h
        cases h
        exact ⟨r, rs, rfl, rfl, rfl⟩
      · rintro ⟨_, _, hr, hrs, rfl⟩
        cases hr
        cases hrs
        rfl

/-- A table that passes in some store, its report written or refused there. -/
def PassesIn [StandIns] (a : Audit σ) (memory : σ) (table : String) (s : FileStore) : Prop :=
  (verdict table (a.compareTable s memory table)).status = .pass ∧
    WrittenOrRefused (a.artifacts.writeReport s (verdict table (a.compareTable s memory table)) a.contracts.name
      a.schemas.name).2

theorem passesIn_of_auditTables [StandIns] {tables : List String} {reports : List Report}
    (h : (a.auditTables d tables).2 = .ok reports) (hp : ∀ r ∈ reports, r.status = .pass) :
    ∀ table ∈ tables, ∃ s, a.PassesIn d.memory table s := by
  induction tables generalizing d reports with
  | nil => exact fun _ ht => nomatch ht
  | cons table tables ih =>
    obtain ⟨r, rs, hr, hrs, rfl⟩ := auditTables_cons_eq_ok_iff.mp h
    obtain ⟨rfl, hw⟩ := auditTable_eq_ok_iff.mp hr
    rw [List.forall_mem_cons] at hp
    have htail := ih hrs hp.2
    rw [(a.auditTable_kept d table).2] at htail
    exact List.forall_mem_cons.mpr ⟨⟨d.store, hp.1, hw⟩, htail⟩

/-- Tables that pass in every store pass one after another. -/
theorem auditTables_of_passesIn [StandIns]
    {tables : List String} (h : ∀ table ∈ tables, ∀ s, a.PassesIn d.memory table s) :
    ∃ reports, (a.auditTables d tables).2 = .ok reports ∧ ∀ r ∈ reports, r.status = .pass := by
  induction tables generalizing d with
  | nil => exact ⟨[], rfl, nofun⟩
  | cons table tables ih =>
    rw [List.forall_mem_cons] at h
    obtain ⟨hstatus, hw⟩ := h.1 d.store
    have hr := auditTable_eq_ok_iff.mpr ⟨rfl, hw⟩
    obtain ⟨rs, hrs, hp⟩ := ih (d := (a.auditTable d table).1) (by rw [(a.auditTable_kept d table).2]; exact h.2)
    exact ⟨_, auditTables_cons_eq_ok_iff.mpr ⟨_, rs, hr, hrs, rfl⟩, List.forall_mem_cons.mpr ⟨hstatus, hp⟩⟩

/-! ### The stages of a run -/

/-- The tables that a run is for. -/
def target (a : Audit σ) (s : FileStore) (given : Option (List String)) : Told (List String) :=
  match given with
  | some tables => pure tables
  | none => a.contracts.tables s

/-- A desk once the tables are known and the schema source was asked to make itself ready. -/
def asked (a : Audit σ) (d : Desk σ) (given : Option (List String)) : Desk σ :=
  { d.noting (a.target d.store given).notes with memory := (a.schemas.prepare d.store d.memory).1 }.noting
    (a.schemas.prepare d.store d.memory).2.notes

theorem store_asked : (a.asked d given).store = d.store := rfl

/-- A run asks for its tables, then its schema source to make itself ready, and then goes one way or the other. -/
theorem runWith_eq [StandIns]
    {β : Type} (a : Audit σ) (d : Desk σ) (given : Option (List String)) (failed : Desk σ → Failure → β)
    (prepared : Desk σ → List String → β) : a.runWith d given failed prepared =
    match (a.target d.store given).result with
    | .error f => failed (d.noting (a.target d.store given).notes) f
    | .ok tables =>
      match (a.schemas.prepare d.store d.memory).2.result with
      | .error f => failed (a.abort (a.asked d given) tables f).1 (a.abort (a.asked d given) tables f).2
      | .ok () => prepared (a.asked d given) tables := rfl

/-- A run that cannot tell its tables fails before anything else. -/
theorem runWith_of_no_target [StandIns] {β : Type} (htarget : (a.target d.store given).result = .error f)
    (failed : Desk σ → Failure → β) (prepared : Desk σ → List String → β) :
    a.runWith d given failed prepared = failed (d.noting (a.target d.store given).notes) f := by
  rw [runWith_eq, htarget]

/-- A run whose source cannot be made ready does nothing but call itself off. -/
theorem runWith_of_failure [StandIns] {β : Type} (htarget : (a.target d.store given).result = .ok tables)
    (hprepare : (a.schemas.prepare d.store d.memory).2.result = .error f) (failed : Desk σ → Failure → β)
    (prepared : Desk σ → List String → β) : a.runWith d given failed prepared =
      failed (a.abort (a.asked d given) tables f).1 (a.abort (a.asked d given) tables f).2 := by
  rw [runWith_eq, htarget]
  dsimp only
  rw [hprepare]

theorem runWith_of_success [StandIns] {β : Type} (htarget : (a.target d.store given).result = .ok tables)
    (hprepare : (a.schemas.prepare d.store d.memory).2.result = .ok ()) (failed : Desk σ → Failure → β)
    (prepared : Desk σ → List String → β) : a.runWith d given failed prepared = prepared (a.asked d given) tables := by
  rw [runWith_eq, htarget]
  dsimp only
  rw [hprepare]

/-- A run whose sources are ready comes to the reports of its tables; without tables there are none. -/
theorem runPrepared_result [StandIns] (a : Audit σ) (d : Desk σ) (tables : List String) : (a.runPrepared d tables).2 =
    (a.auditTables (d.noting [startNote tables]) tables).2.map Summary.mk := by
  unfold runPrepared
  cases tables with
  | nil => rfl
  | cons table tables =>
    rw [if_neg (by simp)]
    rcases a.auditTables (d.noting [startNote (table :: tables)]) (table :: tables) with ⟨d', f | reports⟩
    · rfl
    · rfl

end Audit

theorem Summary.exitCode_eq_zero_iff {s : Summary} : s.exitCode = 0 ↔ ∀ r ∈ s.reports, r.status = .pass := by
  unfold exitCode failed
  rw [ite_eq_right_iff, List.countP_pos_iff]
  simp

end SchemaAudit

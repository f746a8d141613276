import Mathlib.Data.List.Nodup
import SchemaAudit.Proofs.Artifact.Encoding
import SchemaAudit.Proofs.Audit.Tables

/-! # The exit code of an audit of a registry

An audit of a registry against a document ends with exit code zero exactly if every table is aligned and every report
can be told to the system: `Audit.exitCode_eq_zero_iff_aligned`. Alignment is spelled out in terms of the models' fields
and the document's rows alone (`Aligned`), and `passes_iff_aligned` takes it through the contract, the snapshot and
the comparison. A table whose report can be neither written nor refused makes the whole run fail, aligned or not. -/

namespace SchemaAudit

/-- A table registered with a model whose columns are those of the document, each satisfied by its type there. -/
structure Aligned [StandIns] (r : Registry) (d : Diagnostics) (table : String) (m : Record.Model) : Prop where
  registered : r.entries.lookup table = some (.model m)
  fields : m.fields ≠ []
  names : ∀ name, (∃ f ∈ m.fields, f.columnName = name) ↔ ∃ row ∈ d.columns, row.table = table ∧ row.column = name
  types : ∀ f ∈ m.fields, ∀ row ∈ d.columns, row.table = table → row.column = f.columnName →
    satisfies (f.type.classify f.entries).spelling (normalizeType row.type) = true

/-- A document in which no table has two columns of one name. -/
def Diagnostics.Distinct (d : Diagnostics) : Prop := (d.columns.map fun row => (row.table, row.column)).Nodup

variable {r : Registry} {d : Diagnostics} {table : String} {m : Record.Model}

/-! ### From models and rows to contracts and snapshots -/

theorem Registry.contractFor_eq_ok_iff [StandIns] {c : Contract} : r.contractFor table = .ok c ↔
    ∃ m, r.entries.lookup table = some (.model m) ∧ m.fields ≠ [] ∧ c = ⟨table, m.columns table⟩ := by
  unfold contractFor
  cases hl : r.entries.lookup table with
  | none => simp
  | some entry =>
    cases entry with
    | nothing => simp
    | stray description => simp
    | model m =>
      have hempty : (m.columns table).isEmpty = true ↔ m.fields = [] := by simp [Record.Model.columns]
      dsimp only
      split
      · rename_i hnone
        simp only [reduceCtorEq, false_iff]
        rintro ⟨m', hm', hne, -⟩
        cases hm'
        exact hne (hempty.mp hnone)
      · rename_i hsome
        constructor
        · intro h
          cases h
          exact ⟨m, rfl, mt hempty.mpr hsome, rfl⟩
        · rintro ⟨m', hm', -, rfl⟩
          cases hm'
          rfl

theorem mem_snapshot_columns {col : Column} : col ∈ (d.snapshot table).columns ↔
    ∃ row ∈ d.columns, row.table = table ∧ ⟨row.table, row.column, normalizeType row.type⟩ = col := by
  simp only [Diagnostics.snapshot, List.mem_map, List.mem_filter, decide_eq_true_eq, and_assoc]

theorem mem_model_columns [StandIns] {col : Column} : col ∈ m.columns table ↔ ∃ f ∈ m.fields, f.column table = col :=
  List.mem_map

/-- A row of a document is what its snapshot has under the row's name. -/
theorem actualType?_snapshot (distinct : d.Distinct) {row : ColumnRow} (hrow : row ∈ d.columns)
    (htable : row.table = table) :
    Report.actualType? (d.snapshot table) row.column = some (normalizeType row.type) := by
  refine Report.actualType?_eq_of_unique ⟨_, mem_snapshot_columns.mpr ⟨row, hrow, htable, rfl⟩, rfl⟩ ?_
  intro col hcol hname
  obtain ⟨row', hrow', htable', rfl⟩ := mem_snapshot_columns.mp hcol
  rw [List.inj_on_of_nodup_map distinct hrow' hrow (by rw [htable', htable]; exact congrArg _ hname)]

/-- The comparison of a registered model with a document passes exactly if the table is aligned. -/
theorem passes_iff_aligned [StandIns] (distinct : d.Distinct) :
    (∃ contract, r.contractFor table = .ok contract ∧ Report.Passes contract (d.snapshot table)) ↔
      ∃ m, Aligned r d table m := by
  constructor
  · rintro ⟨contract, hcontract, hpasses⟩
    obtain ⟨m, hm, hfields, rfl⟩ := Registry.contractFor_eq_ok_iff.mp hcontract
    obtain ⟨-, htypes, hnames⟩ := Report.passes_iff.mp hpasses
    refine ⟨m, hm, hfields, fun name => ⟨?_, ?_⟩, fun f hf row hrow htable hname => ?_⟩
    · rintro ⟨f, hf, rfl⟩
      obtain ⟨type, htype, -⟩ := htypes _ (mem_model_columns.mpr ⟨f, hf, rfl⟩)
      obtain ⟨col, hcol, hname, -⟩ := Report.mem_of_actualType? htype
      obtain ⟨row, hrow, htable, rfl⟩ := mem_snapshot_columns.mp hcol
      exact ⟨row, hrow, htable, hname⟩
    · rintro ⟨row, hrow, htable, rfl⟩
      obtain ⟨own, hown, hname⟩ := hnames _ (mem_snapshot_columns.mpr ⟨row, hrow, htable, rfl⟩)
      obtain ⟨f, hf, rfl⟩ := mem_model_columns.mp hown
      exact ⟨f, hf, hname⟩
    · obtain ⟨type, htype, hsat⟩ := htypes _ (mem_model_columns.mpr ⟨f, hf, rfl⟩)
      have hrowType := actualType?_snapshot distinct hrow htable
      rw [hname] at hrowType
      cases hrowType.symm.trans htype
      exact hsat
  · rintro ⟨m, hm⟩
    refine ⟨⟨table, m.columns table⟩, Registry.contractFor_eq_ok_iff.mpr ⟨m, hm.registered, hm.fields, rfl⟩, ?_⟩
    refine Report.passes_iff.mpr ⟨?_, fun col hcol => ?_, fun col hcol => ?_⟩
    · obtain ⟨f, hf⟩ := List.exists_mem_of_ne_nil _ hm.fields
      obtain ⟨row, hrow, htable, -⟩ := (hm.names f.columnName).mp ⟨f, hf, rfl⟩
      exact List.ne_nil_of_mem (mem_snapshot_columns.mpr ⟨row, hrow, htable, rfl⟩)
    · obtain ⟨f, hf, rfl⟩ := mem_model_columns.mp hcol
      obtain ⟨row, hrow, htable, hname⟩ := (hm.names f.columnName).mp ⟨f, hf, rfl⟩
      have hrowType := actualType?_snapshot distinct hrow htable
      rw [hname] at hrowType
      exact ⟨_, hrowType, hm.types f hf row hrow htable hname⟩
    · obtain ⟨row, hrow, htable, rfl⟩ := mem_snapshot_columns.mp hcol
      obtain ⟨f, hf, hname⟩ := (hm.names row.column).mpr ⟨row, hrow, htable, rfl⟩
      exact ⟨_, mem_model_columns.mpr ⟨f, hf, rfl⟩, hname⟩

/-! ### Runs -/

/-- The audit of a registry against a document. -/
def Audit.ofRegistryAndDocument [StandIns] (r : Registry) (d : Diagnostics) (w : Artifacts) : Audit Feed :=
  ⟨.ofRegistry r, .ofDocument d, w⟩

namespace Audit

variable {w : Artifacts} {s : FileStore} {notes : List Note} {targets : List String}

theorem compareTable_passes_iff_aligned [StandIns] (distinct : d.Distinct) :
    (verdict table ((ofRegistryAndDocument r d w).compareTable s (.holding d) table)).status = .pass ↔
      ∃ m, Aligned r d table m := by
  rw [compareTable_passes_iff, ← passes_iff_aligned distinct]
  constructor
  · rintro ⟨contract, snapshot, hcontract, hsnapshot, hpasses⟩
    cases hsnapshot
    refine ⟨contract, ?_, hpasses⟩
    change (r.contractFor table).mapError _ = _ at hcontract
    cases hc : r.contractFor table with
    | error f =>
      rw [hc] at hcontract
      cases hcontract
    | ok c =>
      rw [hc] at hcontract
      cases hcontract
      rfl
  · rintro ⟨contract, hcontract, hpasses⟩
    refine ⟨contract, d.snapshot table, ?_, rfl, hpasses⟩
    change (r.contractFor table).mapError _ = _
    rw [hcontract]
    rfl

/-- What an audit does once its document is there: one table after another. -/
theorem run_ofRegistryAndDocument [StandIns]
    (r : Registry) (d : Diagnostics) (w : Artifacts) (s : FileStore) (notes : List Note)
    (targets : List String) : ∃ dk : Desk Feed, dk.memory = .holding d ∧
    ((ofRegistryAndDocument r d w).run ⟨s, .holding d, notes⟩ (some targets)).2 =
      ((ofRegistryAndDocument r d w).auditTables dk targets).2.map Summary.mk :=
  ⟨_, rfl, runPrepared_result _ _ targets⟩

theorem named_ofRegistry [StandIns] (r : Registry) : (ContractSource.ofRegistry r).Named := by
  intro s table contract h
  change (r.contractFor table).mapError _ = _ at h
  cases hc : r.contractFor table with
  | error f =>
    rw [hc] at h
    cases h
  | ok c =>
    rw [hc] at h
    cases h
    obtain ⟨m, -, -, rfl⟩ := Registry.contractFor_eq_ok_iff.mp hc
    rfl

/-- An audit of a registry against a document comes to a summary, with exit code zero. -/
def ExitsWithZero [StandIns] (r : Registry) (d : Diagnostics) (w : Artifacts) (s : FileStore) (notes : List Note)
    (targets : List String) : Prop :=
  ∃ summary, ((ofRegistryAndDocument r d w).run ⟨s, .holding d, notes⟩ (some targets)).2 = .ok summary ∧
    summary.exitCode = 0

theorem exitsWithZero_iff [StandIns] (distinct : d.Distinct) (stamp : InUtf8 w.stamp) :
    ExitsWithZero r d w s notes targets ↔
      ∀ table ∈ targets, (∃ m, Aligned r d table m) ∧ InUtf8 table ∧ w.directory.IsSendable := by
  obtain ⟨dk, hmemory, hrun⟩ := run_ofRegistryAndDocument r d w s notes targets
  rw [ExitsWithZero, hrun]
  constructor
  · rintro ⟨summary, hsummary, hexit⟩
    cases hreports : ((ofRegistryAndDocument r d w).auditTables dk targets).2 with
    | error f =>
      rw [hreports] at hsummary
      cases hsummary
    | ok reports =>
      rw [hreports] at hsummary
      cases hsummary
      intro table htable
      obtain ⟨s', hstatus, hw⟩ := passesIn_of_auditTables hreports (Summary.exitCode_eq_zero_iff.mp hexit) table htable
      rw [hmemory] at hstatus hw
      refine ⟨(compareTable_passes_iff_aligned distinct).mp hstatus, Classical.byContradiction fun hno => ?_⟩
      have hnamed : (verdict table ((ofRegistryAndDocument r d w).compareTable s' (.holding d) table)).table = table :=
        table_verdict (named_ofRegistry r)
      obtain ⟨fault, hfault, hkind⟩ := Artifacts.not_writtenOrRefused (hnamed.symm ▸ hno) s'
      rw [hw fault hfault] at hkind
      cases hkind
  · intro h
    have hpasses (table : String) (htable : table ∈ targets) (s' : FileStore) :
        (ofRegistryAndDocument r d w).PassesIn dk.memory table s' := by
      obtain ⟨haligned, htext, hdirectory⟩ := h table htable
      have hstatus := (compareTable_passes_iff_aligned (w := w) (s := s') distinct).mpr haligned
      rw [hmemory]
      refine ⟨hstatus, ?_⟩
      rw [verdict_of_pass (named_ofRegistry r) hstatus]
      exact Artifacts.writtenOrRefused hdirectory stamp (inUtf8_of_ascii (by decide)) (inUtf8_of_ascii (by decide))
        ⟨htext, by simp, by simp, by simp⟩ s'
    obtain ⟨reports, hreports, hp⟩ := auditTables_of_passesIn hpasses
    exact ⟨⟨reports⟩, by rw [hreports]; rfl, Summary.exitCode_eq_zero_iff.mpr hp⟩

/-- An audit of a registry against a document has exit code zero exactly if every table is aligned and every report can be
written or refused: the name of its table is in UTF-8, and the path of the directory can be handed to the system. Names
of characters are in UTF-8 without more: that is the choice of no stand-ins. -/
theorem exitCode_eq_zero_iff_aligned (r : Registry) (w : Artifacts) (s : FileStore) (notes : List Note)
    (targets : List String) (distinct : d.Distinct) :
    (∀ [StandIns], InUtf8 w.stamp → (ExitsWithZero r d w s notes targets ↔
      ∀ table ∈ targets, (∃ m, Aligned r d table m) ∧ InUtf8 table ∧ w.directory.IsSendable)) ∧
    (@ExitsWithZero .none r d w s notes targets ↔
      ∀ table ∈ targets, (∃ m, @Aligned .none r d table m) ∧ @Path.IsSendable .none w.directory) := by
  refine ⟨fun {_} stamp => exitsWithZero_iff distinct stamp, ?_⟩
  refine (@exitsWithZero_iff _ _ _ _ _ _ .none distinct (inUtf8_none _)).trans (forall₂_congr fun table _ => ?_)
  exact and_congr_right fun _ => and_iff_right (inUtf8_none table)

/-- A registry of one model with one field that holds one of two words. -/
def moods (table : String) : Registry :=
  ⟨[(table, .model ⟨[⟨"T", none, [⟨"mood", .literal [.str "good", .str "bad"], none⟩]⟩]⟩)]⟩

/-- A document with a column of type text for it. -/
def moodsStored (table : String) : Diagnostics := ⟨[⟨table, "mood", " TEXT"⟩], [], [], [], [], []⟩

theorem distinct_moodsStored (table : String) : (moodsStored table).Distinct := List.nodup_singleton _

theorem aligned_moods [StandIns] (table : String) : ∃ m, Aligned (moods table) (moodsStored table) table m := by
  refine ⟨_, List.lookup_cons_self, List.cons_ne_nil _ _, fun name => ⟨?_, ?_⟩, ?_⟩
  · rintro ⟨f, hf, rfl⟩
    cases List.mem_singleton.mp hf
    exact ⟨_, List.mem_singleton_self _, rfl, rfl⟩
  · rintro ⟨row, hrow, -, rfl⟩
    cases List.mem_singleton.mp hrow
    exact ⟨_, List.mem_singleton_self _, rfl⟩
  · intro f hf row hrow _ _
    cases List.mem_singleton.mp hf
    cases List.mem_singleton.mp hrow
    have stored : normalizeType " TEXT" = "text" := by decide +kernel
    have satisfied : satisfies "text" "text" = true := by decide +kernel
    rw [stored]
    exact satisfied

/-- An aligned table with a plain name, and one whose name is a character of the last plane. -/
theorem exitCode_eq_zero_of_text :
    ExitsWithZero (moods "t") (moodsStored "t") Artifacts.nearby (.empty "w") [] ["t"] ∧
    @ExitsWithZero .none (moods (String.singleton (Char.ofNat 0x10d800)))
      (moodsStored (String.singleton (Char.ofNat 0x10d800))) Artifacts.nearby (.empty "w") []
      [String.singleton (Char.ofNat 0x10d800)] := by
  constructor
  · refine ((exitCode_eq_zero_iff_aligned _ _ _ _ _ (distinct_moodsStored "t")).1 (inUtf8_of_ascii (by decide))).mpr ?_
    intro table htable
    cases List.mem_singleton.mp htable
    exact ⟨aligned_moods "t", inUtf8_of_ascii (by decide), Path.isSendable_of_ascii rfl rfl⟩
  · refine (exitCode_eq_zero_iff_aligned _ _ _ _ _ (distinct_moodsStored _)).2.mpr fun table htable => ?_
    cases List.mem_singleton.mp htable
    exact ⟨@aligned_moods .none _, @Path.isSendable_of_ascii _ .none rfl rfl⟩

end Audit

end SchemaAudit

import Mathlib.Data.List.Perm.Basic
import Mathlib.Data.Set.Card
import SchemaAudit.Diagnostics.Inspection

/-! # A document as the sum of its tables

The snapshots of the tables that a document names share out its columns: each column is in one of them, once, and in the
order of the document. The rows of the other categories are shared out likewise, but for those of tables without a
column, which no snapshot of a named table has (`partitioned`). So what is counted table by table never exceeds what is
counted in the document, and falls short of it by the rows of unnamed tables alone. -/

namespace SchemaAudit

variable {α : Type}

/-! ### First places -/

theorem mem_firsts [DecidableEq α] {a : α} {as : List α} : a ∈ firsts as ↔ a ∈ as := by
  induction as with
  | nil => rfl
  | cons b as ih =>
    by_cases h : a = b
    · simp [firsts, h]
    · simp [firsts, h, ih]

theorem nodup_firsts [DecidableEq α] (as : List α) : (firsts as).Nodup := by
  induction as with
  | nil => exact List.nodup_nil
  | cons a as ih =>
    rw [firsts, List.nodup_cons]
    exact ⟨by simp, ih.filter _⟩

/-! ### Rows by key -/

section Keys

variable {keys : List String}

/-- The rows of one key and then those of each of the others are the rows of all of them. -/
theorem flatMap_filter_key_perm (key : α → String) (unique : keys.Nodup) (rows : List α) :
    (keys.flatMap fun k => rows.filter (key · = k)).Perm (rows.filter (key · ∈ keys)) := by
  induction keys with
  | nil => simp
  | cons k keys ih =>
    obtain ⟨hnew, hrest⟩ := List.nodup_cons.mp unique
    have hown : (rows.filter (key · ∈ k :: keys)).filter (key · = k) = rows.filter (key · = k) := by
      rw [List.filter_filter]
      refine List.filter_congr fun r _ => ?_
      by_cases h : key r = k <;> simp [h]
    have hothers : (rows.filter (key · ∈ k :: keys)).filter (fun r => !decide (key r = k)) = rows.filter (key · ∈ keys) := by
      rw [List.filter_filter]
      refine List.filter_congr fun r _ => ?_
      by_cases h : key r = k
      · simp [h, hnew]
      · simp [h]
    rw [List.flatMap_cons]
    refine ((ih hrest).append_left _).trans ?_
    rw [← hown, ← hothers]
    exact List.filter_append_perm _ _

/-- Counted key by key, the rows are those that have one of the keys. -/
theorem sum_length_filter_key (key : α → String) (unique : keys.Nodup) (rows : List α) :
    (keys.map fun k => (rows.filter (key · = k)).length).sum = (rows.filter (key · ∈ keys)).length := by
  rw [← (flatMap_filter_key_perm key unique rows).length_eq, List.length_flatMap]

end Keys

/-! ### Tables -/

/-- A column of the document as it stands in a snapshot. -/
def ColumnRow.normal (r : ColumnRow) : Column := ⟨r.table, r.column, normalizeType r.type⟩

namespace Diagnostics

variable {d : Diagnostics} {t : String}

theorem mem_tableNames : t ∈ d.tableNames ↔ ∃ r ∈ d.columns, r.table = t := by
  rw [tableNames, mem_firsts, List.mem_map]

theorem nodup_tableNames (d : Diagnostics) : d.tableNames.Nodup := nodup_firsts _

theorem columns_snapshot (d : Diagnostics) (t : String) :
    (d.snapshot t).columns = (d.columns.map ColumnRow.normal).filter (·.table = t) := by
  rw [List.filter_map]
  rfl

theorem found_iff : (d.inspect t).found = true ↔ t ∈ d.tableNames := by
  have hfound : (d.inspect t).found = !(d.snapshot t).columns.isEmpty := rfl
  rw [hfound, columns_snapshot, Bool.not_eq_true', List.isEmpty_eq_false_iff_exists_mem, mem_tableNames]
  simp [ColumnRow.normal]

/-- Of a category of rows each snapshot has those of its table, in order. Those of the named tables are together at most
as many as are counted, and as many exactly if all rows belong to named tables. -/
structure SharedOut (d : Diagnostics) (rows : List α) (table : α → String) (part : Snapshot → List α)
    (count : Nat) : Prop where
  part_eq : ∀ t, part (d.snapshot t) = rows.filter (table · = t)
  count_eq : count = rows.length
  sum_le : (d.tableNames.map fun t => (part (d.snapshot t)).length).sum ≤ count
  sum_eq_iff : (d.tableNames.map fun t => (part (d.snapshot t)).length).sum = count ↔
    ∀ r ∈ rows, ∃ c ∈ d.columns, c.table = table r

theorem sharedOut {rows : List α} {table : α → String} {part : Snapshot → List α}
    (h : ∀ t, part (d.snapshot t) = rows.filter (table · = t)) : d.SharedOut rows table part rows.length := by
  have hsum : (d.tableNames.map fun t => (part (d.snapshot t)).length).sum =
      (rows.filter (table · ∈ d.tableNames)).length := by
    simp only [h]
    exact sum_length_filter_key table d.nodup_tableNames rows
  refine ⟨h, rfl, ?_, ?_⟩
  · rw [hsum]
    exact List.length_filter_le _ _
  · rw [hsum, List.length_filter_eq_length_iff]
    simp only [decide_eq_true_eq, mem_tableNames]

theorem columns_perm (d : Diagnostics) :
    (d.tableNames.flatMap fun t => (d.snapshot t).columns).Perm (d.columns.map ColumnRow.normal) := by
  have hall : ∀ c ∈ d.columns.map ColumnRow.normal, decide (c.table ∈ d.tableNames) = true := by
    intro c hc
    obtain ⟨r, hr, rfl⟩ := List.mem_map.mp hc
    exact decide_eq_true (mem_tableNames.mpr ⟨r, hr, rfl⟩)
  have hperm := flatMap_filter_key_perm Column.table d.nodup_tableNames (d.columns.map ColumnRow.normal)
  rw [List.filter_eq_self.mpr hall] at hperm
  simpa only [columns_snapshot] using hperm

theorem functions_add_procedures (d : Diagnostics) : d.counts.functions + d.counts.procedures = d.routines.length := by
  have hkind : ∀ r : RoutineRow, decide (r.kind = .procedure) = decide ¬ decide (r.kind = .function) = true := by
    intro r
    cases r.kind <;> rfl
  simp only [counts, hkind]
  exact (List.length_eq_countP_add_countP _).symm

theorem ncard_found (d : Diagnostics) : {t | (d.inspect t).found = true}.ncard = d.counts.tables := by
  have hset : {t | (d.inspect t).found = true} = (d.tableNames.toFinset : Set String) := by
    ext t
    simp [found_iff]
  rw [hset, Set.ncard_coe_finset, List.toFinset_card_of_nodup d.nodup_tableNames]
  rfl

/-- A document names each table once, and names those that are found. The columns of their snapshots are together all
columns of the document, each snapshot having its own in order; constraints, indexes, policies and triggers are shared
out to the tables that they belong to. The counts are those of the tables together, but for rows of tables that are not
found. -/
theorem partitioned (d : Diagnostics) :
    d.tableNames.Nodup ∧
    (∀ t, (d.inspect t).found = true ↔ t ∈ d.tableNames) ∧
    {t | (d.inspect t).found = true}.ncard = d.counts.tables ∧
    (∀ t, (d.snapshot t).columns = (d.columns.map ColumnRow.normal).filter (·.table = t)) ∧
    (d.tableNames.flatMap fun t => (d.snapshot t).columns).Perm (d.columns.map ColumnRow.normal) ∧
    (d.tableNames.map fun t => (d.snapshot t).columns.length).sum = d.counts.columns ∧
    d.SharedOut d.constraints (·.table) (·.metadata.constraints) d.counts.constraints ∧
    d.SharedOut d.indexes (·.table) (·.metadata.indexes) d.counts.indexes ∧
    d.SharedOut d.policies (·.table) (·.metadata.policies) d.counts.policies ∧
    d.SharedOut d.triggers (·.table) (·.metadata.triggers) d.counts.triggers ∧
    d.counts.functions + d.counts.procedures = d.routines.length := by
  have hsum : (d.tableNames.map fun t => (d.snapshot t).columns.length).sum = d.counts.columns := by
    rw [← List.length_flatMap, d.columns_perm.length_eq, List.length_map]
    rfl
  exact ⟨d.nodup_tableNames, fun t => found_iff, d.ncard_found, d.columns_snapshot, d.columns_perm, hsum,
    sharedOut fun t => rfl, sharedOut fun t => rfl, sharedOut fun t => rfl, sharedOut fun t => rfl,
    d.functions_add_procedures⟩

end Diagnostics

end SchemaAudit

import Mathlib.Data.List.Nodup
import SchemaAudit.Proofs.Report.Comparison

/-! # Reports as plans of repair

What a report lists is what has to be done to the store: extraneous columns are dropped, mismatched ones get the type
that is expected, missing ones are added. A part of these changes lets the comparison pass exactly if it is all of them
(`passes_apply_iff`), so the report lists enough, and nothing of it can be left out (`repair_complete_and_minimal`). -/

namespace SchemaAudit

/-- Changes to the columns of a table. -/
structure Repair where
  dropped : List Column
  retyped : List Mismatch
  added : List Column

/-- The changes that a report lists. -/
def Report.repair (r : Report) : Repair := ⟨r.extraneous, r.mismatched, r.missing⟩

namespace Repair

/-- A column with the type that is expected of it, if it is to be changed. -/
def retype (p : Repair) (col : Column) : Column :=
  match p.retyped.find? (·.column = col.name) with
  | some m => { col with type := m.expected }
  | none => col

/-- A snapshot after some changes: columns are dropped, then retyped, then added at the end. -/
def apply (p : Repair) (s : Snapshot) : Snapshot :=
  { s with columns := (s.columns.filter (· ∉ p.dropped)).map p.retype ++ p.added }

/-- All changes of one repair are among those of another. -/
structure Within (p q : Repair) : Prop where
  dropped : p.dropped ⊆ q.dropped
  retyped : p.retyped ⊆ q.retyped
  added : p.added ⊆ q.added

theorem Within.refl (p : Repair) : p.Within p := ⟨List.Subset.refl _, List.Subset.refl _, List.Subset.refl _⟩

variable {p : Repair} {s : Snapshot} {col : Column} {m : Mismatch}

theorem retype_name (p : Repair) (col : Column) : (p.retype col).name = col.name := by
  unfold retype
  split
  · rfl
  · rfl

theorem mem_columns_apply : col ∈ (p.apply s).columns ↔
    (∃ own ∈ s.columns, own ∉ p.dropped ∧ p.retype own = col) ∨ col ∈ p.added := by
  simp only [apply, List.mem_append, List.mem_map, List.mem_filter, decide_eq_true_eq, and_assoc]

/-- A column that no change is meant for stays as it is. -/
theorem retype_of_unlisted (h : ∀ m ∈ p.retyped, m.column ≠ col.name) : p.retype col = col := by
  have hnone : p.retyped.find? (·.column = col.name) = none :=
    List.find?_eq_none.mpr fun m hm => by simpa using h m hm
  rw [retype, hnone]

/-- A column that one change is meant for gets the type of that change. -/
theorem type_retype_of_listed (hm : m ∈ p.retyped) (hname : m.column = col.name)
    (unique : ∀ m' ∈ p.retyped, m'.column = m.column → m' = m) : (p.retype col).type = m.expected := by
  have hsome : (p.retyped.find? (·.column = col.name)).isSome = true :=
    List.find?_isSome.mpr ⟨m, hm, by simpa using hname⟩
  obtain ⟨m', hm'⟩ := Option.isSome_iff_exists.mp hsome
  have hname' : m'.column = col.name := by simpa using List.find?_some hm'
  rw [retype, hm', unique m' (List.mem_of_find?_eq_some hm') (hname'.trans hname.symm)]

end Repair

theorem satisfies_refl (type : String) : satisfies type type = true :=
  satisfies_iff.mpr (Or.inr (Or.inr (Or.inr (startsWith_iff.mpr (List.prefix_refl _)))))

namespace Report

variable {c : Contract} {s : Snapshot} {p : Repair} {col own : Column} {m m' : Mismatch}

/-! ### What a comparison lists -/

theorem actualType?_eq_none_iff {name : String} :
    actualType? s name = none ↔ ∀ own ∈ s.columns, own.name ≠ name := by
  rw [← Option.not_isSome_iff_eq_none, actualType?_isSome_iff]
  simp only [not_exists, not_and, ne_eq]

theorem mem_missingFrom :
    col ∈ missingFrom c s ↔ col ∈ c.columns ∧ ∀ own ∈ s.columns, own.name ≠ col.name := by
  rw [missingFrom, List.mem_filter, Option.isNone_iff_eq_none, actualType?_eq_none_iff]

theorem mem_extraneousTo : own ∈ extraneousTo c s ↔ own ∈ s.columns ∧ ∀ col ∈ c.columns, col.name ≠ own.name := by
  simp only [extraneousTo, List.mem_filter, Bool.not_eq_true', List.any_eq_false, decide_eq_true_eq, ne_eq]

theorem mem_mismatches : m ∈ mismatches c s ↔ ∃ col ∈ c.columns, ∃ actual, actualType? s col.name = some actual ∧
    satisfies col.type actual = false ∧ m = ⟨col.name, col.type, actual⟩ := by
  simp only [mismatches, List.mem_filterMap, mismatch?, Option.bind_eq_some_iff, Option.ite_none_left_eq_some,
    Bool.not_eq_true, Option.some.injEq, eq_comm (a := m)]

/-- Of a contract without repeated names no column is listed twice. -/
theorem eq_of_mem_mismatches (distinct : (c.columns.map (·.name)).Nodup) (hm : m ∈ mismatches c s)
    (hm' : m' ∈ mismatches c s) (h : m'.column = m.column) : m' = m := by
  obtain ⟨col, hcol, actual, hactual, -, rfl⟩ := mem_mismatches.mp hm
  obtain ⟨col', hcol', actual', hactual', -, rfl⟩ := mem_mismatches.mp hm'
  cases List.inj_on_of_nodup_map distinct hcol' hcol h
  cases hactual.symm.trans hactual'
  rfl

theorem actualType?_of_mem (distinct : (s.columns.map (·.name)).Nodup) (h : own ∈ s.columns) :
    actualType? s own.name = some own.type :=
  actualType?_eq_of_unique ⟨own, h, rfl⟩ fun _ hcol hname => by
    rw [List.inj_on_of_nodup_map distinct hcol h hname]

/-! ### After a part of the changes -/

section Part

variable (part : p.Within (ofDrift c s).repair)
include part

/-- A column that both sides name is kept, and is still the only one of its name. -/
theorem actualType?_apply_of_shared (distinct : (s.columns.map (·.name)).Nodup) (hcol : col ∈ c.columns)
    (hown : own ∈ s.columns) (hname : own.name = col.name) :
    actualType? (p.apply s) col.name = some (p.retype own).type := by
  have hkept : own ∉ p.dropped := fun hd => (mem_extraneousTo.mp (part.dropped hd)).2 col hcol hname.symm
  refine actualType?_eq_of_unique ⟨p.retype own, Repair.mem_columns_apply.mpr (Or.inl ⟨own, hown, hkept, rfl⟩),
    (p.retype_name own).trans hname⟩ fun y hy hy' => ?_
  rcases Repair.mem_columns_apply.mp hy with ⟨own', hown', -, rfl⟩ | hadded
  · rw [p.retype_name, ← hname] at hy'
    rw [List.inj_on_of_nodup_map distinct hown' hown hy']
  · exact absurd (hname.trans hy'.symm) ((mem_missingFrom.mp (part.added hadded)).2 own hown)

/-- A missing column is there exactly if it is added, and then it has the type that is expected. -/
theorem actualType?_apply_of_missing (distinct : (c.columns.map (·.name)).Nodup) (h : col ∈ missingFrom c s) :
    actualType? (p.apply s) col.name = if col ∈ p.added then some col.type else none := by
  obtain ⟨hcol, hmissing⟩ := mem_missingFrom.mp h
  have only : ∀ y ∈ (p.apply s).columns, y.name = col.name → y ∈ p.added ∧ y = col := by
    intro y hy hname
    rcases Repair.mem_columns_apply.mp hy with ⟨own, hown, -, rfl⟩ | hadded
    · exact absurd ((p.retype_name own).symm.trans hname) (hmissing own hown)
    · exact ⟨hadded, List.inj_on_of_nodup_map distinct (mem_missingFrom.mp (part.added hadded)).1 hcol hname⟩
  split
  · rename_i hadded
    refine actualType?_eq_of_unique ⟨col, Repair.mem_columns_apply.mpr (Or.inr hadded), rfl⟩ fun y hy hname => ?_
    rw [(only y hy hname).2]
  · rename_i hadded
    refine actualType?_eq_none_iff.mpr fun y hy hname => hadded ?_
    obtain ⟨hy, rfl⟩ := only y hy hname
    exact hy

variable (distinct : (c.columns.map (·.name)).Nodup) (distinct_own : (s.columns.map (·.name)).Nodup)
include distinct distinct_own

/-- All changes together leave nothing to be listed. -/
theorem passes_apply_of_within (hne : c.columns ≠ []) (all : (ofDrift c s).repair.Within p) :
    Passes c (p.apply s) := by
  have types : ∀ col ∈ c.columns, ∃ type, actualType? (p.apply s) col.name = some type ∧
      satisfies col.type type = true := by
    intro col hcol
    by_cases hthere : ∃ own ∈ s.columns, own.name = col.name
    · obtain ⟨own, hown, hname⟩ := hthere
      refine ⟨_, actualType?_apply_of_shared part distinct_own hcol hown hname, ?_⟩
      have hactual := actualType?_of_mem distinct_own hown
      rw [hname] at hactual
      cases hsat : satisfies col.type own.type with
      | true =>
        -- A change meant for the column would list it as mismatched.
        rw [Repair.retype_of_unlisted fun m hm hcolumn => ?_]
        · exact hsat
        · obtain ⟨col', hcol', actual, hactual', hnot, rfl⟩ := mem_mismatches.mp (part.retyped hm)
          cases List.inj_on_of_nodup_map distinct hcol' hcol (hcolumn.trans hname)
          cases hactual.symm.trans hactual'
          cases hsat.symm.trans hnot
      | false =>
        have hlisted : ⟨col.name, col.type, own.type⟩ ∈ mismatches c s :=
          mem_mismatches.mpr ⟨col, hcol, own.type, hactual, hsat, rfl⟩
        rw [Repair.type_retype_of_listed (all.retyped hlisted) hname.symm fun m' hm' =>
          eq_of_mem_mismatches distinct hlisted (part.retyped hm')]
        exact satisfies_refl col.type
    · simp only [not_exists, not_and] at hthere
      have hmissing : col ∈ missingFrom c s := mem_missingFrom.mpr ⟨hcol, hthere⟩
      rw [actualType?_apply_of_missing part distinct hmissing, if_pos (all.added hmissing)]
      exact ⟨col.type, rfl, satisfies_refl col.type⟩
  refine passes_iff.mpr ⟨?_, types, fun col hcol => ?_⟩
  · obtain ⟨col, hcol⟩ := List.exists_mem_of_ne_nil _ hne
    obtain ⟨type, htype, -⟩ := types col hcol
    obtain ⟨y, hy, -⟩ := mem_of_actualType? htype
    exact List.ne_nil_of_mem hy
  · rcases Repair.mem_columns_apply.mp hcol with ⟨own, hown, hkept, rfl⟩ | hadded
    · have hnamed : ¬ own ∈ extraneousTo c s := fun hlisted => hkept (all.dropped hlisted)
      simp only [mem_extraneousTo, not_and, not_forall, Decidable.not_not] at hnamed
      obtain ⟨col, hcol, hname⟩ := hnamed hown
      exact ⟨col, hcol, hname.trans (p.retype_name own).symm⟩
    · exact ⟨col, (mem_missingFrom.mp (part.added hadded)).1, rfl⟩

/-- Whatever is left undone is still listed. -/
theorem within_of_passes_apply (h : Passes c (p.apply s)) : (ofDrift c s).repair.Within p := by
  obtain ⟨-, types, names⟩ := passes_iff.mp h
  refine ⟨fun own hown => ?_, fun m hm => ?_, fun col hcol => ?_⟩
  · by_contra hkept
    obtain ⟨hown, hextraneous⟩ := mem_extraneousTo.mp hown
    obtain ⟨col, hcol, hname⟩ := names _ (Repair.mem_columns_apply.mpr (Or.inl ⟨own, hown, hkept, rfl⟩))
    exact hextraneous col hcol (hname.trans (p.retype_name own))
  · by_contra hleft
    obtain ⟨col, hcol, actual, hactual, hnot, rfl⟩ := mem_mismatches.mp hm
    obtain ⟨own, hown, hname, rfl⟩ := mem_of_actualType? hactual
    have hunlisted : ∀ m' ∈ p.retyped, m'.column ≠ own.name := fun m' hm' hcolumn =>
      hleft (eq_of_mem_mismatches distinct hm (part.retyped hm') (hcolumn.trans hname) ▸ hm')
    have htype := actualType?_apply_of_shared part distinct_own hcol hown hname
    rw [Repair.retype_of_unlisted hunlisted] at htype
    obtain ⟨type, htype', hsat⟩ := types col hcol
    cases htype.symm.trans htype'
    cases hsat.symm.trans hnot
  · by_contra hleft
    obtain ⟨type, htype, -⟩ := types col (mem_missingFrom.mp hcol).1
    rw [actualType?_apply_of_missing part distinct hcol, if_neg hleft] at htype
    cases htype

/-- A part of the changes lets the comparison pass exactly if it is all of them. -/
theorem passes_apply_iff (hne : c.columns ≠ []) : Passes c (p.apply s) ↔ (ofDrift c s).repair.Within p :=
  ⟨within_of_passes_apply part distinct distinct_own, passes_apply_of_within part distinct distinct_own hne⟩

end Part

/-! ### The whole plan -/

/-- What a report lists is a plan that is complete and minimal: with all its changes made the comparison passes, and
with only a part of them made there is no column left or the comparison fails. -/
theorem repair_complete_and_minimal (hne : c.columns ≠ []) (distinct : (c.columns.map (·.name)).Nodup)
    (hs : s.columns ≠ []) (distinct_own : (s.columns.map (·.name)).Nodup) : ∃ r, compare c s = .ok r ∧
      Passes c (r.repair.apply s) ∧
      ∀ p : Repair, p.Within r.repair → ¬ r.repair.Within p →
        (p.apply s).columns = [] ∨ ∃ r', compare c (p.apply s) = .ok r' ∧ r'.status = .fail := by
  refine ⟨ofDrift c s, ?_, (passes_apply_iff (.refl _) distinct distinct_own hne).mpr (.refl _),
    fun p part proper => ?_⟩
  · rw [compare, if_neg (by simpa using hs)]
  · have hnot : ¬ Passes c (p.apply s) := mt (passes_apply_iff part distinct distinct_own hne).mp proper
    rcases List.eq_nil_or_concat (p.apply s).columns with hempty | ⟨before, last, hlast⟩
    · exact Or.inl hempty
    · have hmade : compare c (p.apply s) = .ok (ofDrift c (p.apply s)) := by
        rw [compare, hlast, if_neg (by simp)]
      refine Or.inr ⟨_, hmade, ?_⟩
      rcases status_ofDrift c (p.apply s) with hpass | hfail
      · exact absurd ⟨_, hmade, hpass⟩ hnot
      · exact hfail

/-- A report with one entry of each kind: all three changes align the table, and without the added column it still
fails. -/
theorem repair_complete_and_minimal_mixed :
    Passes ⟨"t", [⟨"t", "id", "integer"⟩, ⟨"t", "name", "text"⟩]⟩
      ⟨"t", [⟨"t", "id", "integer"⟩, ⟨"t", "name", "text"⟩], .none⟩ ∧
    ∃ r', compare ⟨"t", [⟨"t", "id", "integer"⟩, ⟨"t", "name", "text"⟩]⟩ ⟨"t", [⟨"t", "id", "integer"⟩], .none⟩ = .ok r' ∧
      r'.status = .fail := by
  obtain ⟨r, hr, hpasses, hminimal⟩ := @repair_complete_and_minimal
    ⟨"t", [⟨"t", "id", "integer"⟩, ⟨"t", "name", "text"⟩]⟩
    ⟨"t", [⟨"t", "old", "text"⟩, ⟨"t", "id", "uuid"⟩], .none⟩ (by decide) (by decide) (by decide) (by decide)
  have hlisted : r.repair = ⟨[⟨"t", "old", "text"⟩], [⟨"id", "integer", "uuid"⟩], [⟨"t", "name", "text"⟩]⟩ := by
    cases hr
    rfl
  rw [hlisted] at hpasses hminimal
  refine ⟨hpasses, (hminimal ⟨[⟨"t", "old", "text"⟩], [⟨"id", "integer", "uuid"⟩], []⟩ ⟨List.Subset.refl _,
    List.Subset.refl _, List.nil_subset _⟩ fun h => ?_).resolve_left (List.cons_ne_nil _ _)⟩
  cases h.added List.mem_cons_self

end Report

end SchemaAudit

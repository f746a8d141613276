import Mathlib.Logic.Basic
import SchemaAudit.Proofs.Report.Comparison

/-! # What a passing comparison vouches for

A snapshot may have several columns of one name: the store may report a table of that name twice, and a declaration may
repeat a column. A comparison looks at the last of them only. So a pass vouches for the last column of each name
(`passes_iff_latest`), and a column that another one of its name stands behind may have any type at all
(`passes_of_overlaid`). Where names are distinct nothing is overlaid, and a pass vouches for every column. -/

namespace SchemaAudit

namespace Snapshot

variable {s : Snapshot} {col : Column}

/-- A column that no other one of its name stands behind. -/
def Latest (s : Snapshot) (col : Column) : Prop :=
  ∃ before after, s.columns = before ++ col :: after ∧ ∀ later ∈ after, later.name ≠ col.name

/-- A column that another one of its name stands behind. -/
def Overlaid (s : Snapshot) (col : Column) : Prop :=
  ∃ before after, s.columns = before ++ col :: after ∧ ∃ later ∈ after, later.name = col.name

theorem Latest.mem (h : s.Latest col) : col ∈ s.columns := by
  obtain ⟨before, after, hsplit, -⟩ := h
  exact hsplit ▸ List.mem_append_right _ List.mem_cons_self

theorem Overlaid.mem (h : s.Overlaid col) : col ∈ s.columns := by
  obtain ⟨before, after, hsplit, -⟩ := h
  exact hsplit ▸ List.mem_append_right _ List.mem_cons_self

theorem latest_or_overlaid (h : col ∈ s.columns) : s.Latest col ∨ s.Overlaid col := by
  obtain ⟨before, after, hsplit⟩ := List.append_of_mem h
  by_cases hlater : ∃ later ∈ after, later.name = col.name
  · exact Or.inr ⟨before, after, hsplit, hlater⟩
  · simp only [not_exists, not_and] at hlater
    exact Or.inl ⟨before, after, hsplit, hlater⟩

theorem not_overlaid_of_distinct (distinct : (s.columns.map (·.name)).Nodup) : ¬ s.Overlaid col := by
  rintro ⟨before, after, hsplit, later, hlater, hname⟩
  rw [hsplit, List.map_append, List.map_cons] at distinct
  have fresh : col.name ∉ after.map (·.name) := (List.nodup_cons.mp (List.nodup_append.mp distinct).2.1).1
  exact fresh (List.mem_map.mpr ⟨later, hlater, hname⟩)

end Snapshot

namespace Report

variable {c : Contract} {s : Snapshot} {col own : Column} {name type : String}

/-! ### The column that is looked at -/

/-- The type that a comparison sees under a name is that of the last column of the name. -/
theorem actualType?_eq_some_iff :
    actualType? s name = some type ↔ ∃ own, s.Latest own ∧ own.name = name ∧ own.type = type := by
  simp only [actualType?, Option.map_eq_some_iff, List.find?_eq_some_iff_append, decide_eq_true_eq,
    Bool.not_eq_true', decide_eq_false_iff_not]
  constructor
  · rintro ⟨own, ⟨rfl, behind, front, hsplit, hother⟩, rfl⟩
    refine ⟨own, ⟨front.reverse, behind.reverse, ?_, fun later hlater => hother later (List.mem_reverse.mp hlater)⟩,
      rfl, rfl⟩
    rw [List.reverse_eq_iff.mp hsplit, List.reverse_append, List.reverse_cons, ← List.append_cons]
  · rintro ⟨own, ⟨front, behind, hsplit, hother⟩, rfl, rfl⟩
    refine ⟨own, ⟨rfl, behind.reverse, front.reverse, ?_, fun later hlater => hother later (List.mem_reverse.mp hlater)⟩,
      rfl⟩
    rw [hsplit, List.reverse_append, List.reverse_cons, ← List.append_cons]

/-- A comparison passes exactly if both sides name the same columns and the last one of each name satisfies the
contract. -/
theorem passes_iff_latest (hs : s.columns ≠ []) : Passes c s ↔
    (∀ col ∈ c.columns, ∃ own, s.Latest own ∧ own.name = col.name ∧ satisfies col.type own.type = true) ∧
    ∀ own ∈ s.columns, ∃ col ∈ c.columns, col.name = own.name := by
  rw [passes_iff, and_iff_right hs]
  refine and_congr_left' (forall₂_congr fun col _ => ?_)
  constructor
  · rintro ⟨type, htype, hsat⟩
    obtain ⟨own, hown, hname, rfl⟩ := actualType?_eq_some_iff.mp htype
    exact ⟨own, hown, hname, hsat⟩
  · rintro ⟨own, hown, hname, hsat⟩
    exact ⟨own.type, actualType?_eq_some_iff.mpr ⟨own, hown, hname, rfl⟩, hsat⟩

/-- What is last of its name in a snapshot that passes satisfies the contract. -/
theorem satisfies_of_latest (h : Passes c s) (hcol : col ∈ c.columns) (hown : s.Latest own)
    (hname : own.name = col.name) : satisfies col.type own.type = true := by
  obtain ⟨-, types, -⟩ := passes_iff.mp h
  obtain ⟨type, htype, hsat⟩ := types col hcol
  cases htype.symm.trans (actualType?_eq_some_iff.mpr ⟨own, hown, hname, rfl⟩)
  exact hsat

/-- All columns of a snapshot that passes satisfy the contract if the overlaid ones do. -/
theorem satisfied_iff_overlaid (h : Passes c s) :
    (∀ col ∈ c.columns, ∀ own ∈ s.columns, own.name = col.name → satisfies col.type own.type = true) ↔
      ∀ col ∈ c.columns, ∀ own, s.Overlaid own → own.name = col.name → satisfies col.type own.type = true := by
  refine forall₂_congr fun col hcol => ⟨fun all own hown => all own hown.mem, fun overlaid own hown hname => ?_⟩
  rcases Snapshot.latest_or_overlaid hown with hlast | hover
  · exact satisfies_of_latest h hcol hlast hname
  · exact overlaid own hover hname

/-- A column put before all others is not looked at if one of its name is there. -/
theorem passes_of_overlaid (h : Passes c s) (hcol : col ∈ c.columns) (type : String) :
    Passes c { s with columns := ⟨s.table, col.name, type⟩ :: s.columns } := by
  obtain ⟨hs, types, names⟩ := passes_iff.mp h
  refine passes_iff.mpr ⟨List.cons_ne_nil _ _, fun other hother => ?_, fun own hown => ?_⟩
  · obtain ⟨actual, hactual, hsat⟩ := types other hother
    refine ⟨actual, ?_, hsat⟩
    obtain ⟨own, ⟨before, after, hsplit, hlast⟩, hname, htype⟩ := actualType?_eq_some_iff.mp hactual
    refine actualType?_eq_some_iff.mpr ⟨own, ⟨⟨s.table, col.name, type⟩ :: before, after, ?_, hlast⟩, hname, htype⟩
    rw [hsplit, List.cons_append]
  · rcases List.mem_cons.mp hown with rfl | hown
    · exact ⟨col, hcol, rfl⟩
    · exact names own hown

/-! ### All of it -/

/-- A comparison passes exactly if both sides name the same columns and the last one of each name satisfies the contract.
Then all columns of the snapshot satisfy it exactly if the overlaid ones do. They do where names are distinct, but a
column that is overlaid may have any type. -/
theorem pass_vouches_for_latest (hs : s.columns ≠ []) : ∃ r, compare c s = .ok r ∧
    (r.status = .pass ↔
      (∀ col ∈ c.columns, ∃ own, s.Latest own ∧ own.name = col.name ∧ satisfies col.type own.type = true) ∧
      ∀ own ∈ s.columns, ∃ col ∈ c.columns, col.name = own.name) ∧
    (r.status = .pass →
      ((∀ col ∈ c.columns, ∀ own ∈ s.columns, own.name = col.name → satisfies col.type own.type = true) ↔
        ∀ col ∈ c.columns, ∀ own, s.Overlaid own → own.name = col.name → satisfies col.type own.type = true)) ∧
    ((s.columns.map (·.name)).Nodup → r.status = .pass →
      ∀ col ∈ c.columns, ∀ own ∈ s.columns, own.name = col.name → satisfies col.type own.type = true) ∧
    (r.status = .pass → ∀ col ∈ c.columns, ∀ type, ∃ r',
      compare c { s with columns := ⟨s.table, col.name, type⟩ :: s.columns } = .ok r' ∧ r'.status = .pass) := by
  refine ⟨ofDrift c s, compare_of_ne_nil hs, ?_⟩
  rw [← passes_iff_status hs]
  refine ⟨passes_iff_latest hs, satisfied_iff_overlaid, fun distinct h => ?_, fun h col hcol type => ?_⟩
  · exact (satisfied_iff_overlaid h).mpr fun _ _ own hown => absurd hown (Snapshot.not_overlaid_of_distinct distinct)
  · exact passes_of_overlaid h hcol type

/-- A store that reports a table of one name twice, once with another type: the first of the two columns does not
satisfy the contract, and the comparison passes. -/
theorem pass_vouches_for_latest_twice :
    (∃ r', compare ⟨"t", [⟨"t", "id", "uuid"⟩]⟩ ⟨"t", [⟨"t", "id", "text"⟩, ⟨"t", "id", "uuid"⟩], .none⟩ = .ok r' ∧
      r'.status = .pass) ∧
    Snapshot.Overlaid ⟨"t", [⟨"t", "id", "text"⟩, ⟨"t", "id", "uuid"⟩], .none⟩ ⟨"t", "id", "text"⟩ ∧
    satisfies "uuid" "text" = false := by
  obtain ⟨r, hr, -, -, -, unseen⟩ := @pass_vouches_for_latest ⟨"t", [⟨"t", "id", "uuid"⟩]⟩
    ⟨"t", [⟨"t", "id", "uuid"⟩], .none⟩ (by decide)
  cases hr
  exact ⟨unseen rfl ⟨"t", "id", "uuid"⟩ List.mem_cons_self "text", ⟨[], _, rfl, _, List.mem_cons_self, rfl⟩, by decide⟩

end Report

end SchemaAudit

import Mathlib.Data.List.Perm.Basic
import SchemaAudit.Proofs.Report.Repair

/-! # Comparisons and the order of columns

Which columns a comparison lists is no matter of their order, only the order of its lists is: missing and mismatched
columns come as the contract has them, extraneous ones as the snapshot has them. With the two sides exchanged, what was
missing is extraneous and the other way round, so that both sides have as many columns left. All this needs distinct
names: of two columns of one name the later one counts, and which one that is depends on the order. -/

namespace SchemaAudit

/-- The entries of one list in the order of another one. -/
structure Arranged {α : Type} (entries order arranged : List α) : Prop where
  same : arranged.Perm entries
  ordered : arranged.Sublist order

namespace Report

variable {c c' : Contract} {s s' : Snapshot} {col : Column} {table : String} {metadata : Metadata}

/-- The status is a matter of which entries are listed. -/
theorem status_ofDrift_of_perm (missing : (missingFrom c' s').Perm (missingFrom c s))
    (extraneous : (extraneousTo c' s').Perm (extraneousTo c s)) (mismatched : (mismatches c' s').Perm (mismatches c s)) :
    (ofDrift c' s').status = (ofDrift c s).status := by
  simp only [ofDrift, missing.isEmpty_eq, extraneous.isEmpty_eq, mismatched.isEmpty_eq]

/-! ### Another order of the snapshot -/

section Snapshot

variable (distinct : (s.columns.map (·.name)).Nodup) (h : s'.columns.Perm s.columns)
include distinct h

theorem actualType?_of_perm (name : String) : actualType? s' name = actualType? s name := by
  by_cases hthere : ∃ own ∈ s.columns, own.name = name
  · obtain ⟨own, hown, rfl⟩ := hthere
    have distinct' : (s'.columns.map (·.name)).Nodup := (h.map _).nodup_iff.mpr distinct
    rw [actualType?_of_mem distinct hown, actualType?_of_mem distinct' (h.mem_iff.mpr hown)]
  · simp only [not_exists, not_and] at hthere
    rw [actualType?_eq_none_iff.mpr hthere,
      actualType?_eq_none_iff.mpr fun own hown => hthere own (h.mem_iff.mp hown)]

theorem missingFrom_of_perm_snapshot : missingFrom c s' = missingFrom c s := by
  simp only [missingFrom, actualType?_of_perm distinct h]

theorem mismatches_of_perm_snapshot : mismatches c s' = mismatches c s := by
  have hcolumn : mismatch? s' = mismatch? s := funext fun col => by
    rw [mismatch?, mismatch?, actualType?_of_perm distinct h]
  rw [mismatches, mismatches, hcolumn]

omit distinct in
theorem arranged_extraneousTo : Arranged (extraneousTo c s) s'.columns (extraneousTo c s') :=
  ⟨h.filter _, List.filter_sublist⟩

end Snapshot

/-! ### Another order of the contract -/

section Contract

variable (h : c'.columns.Perm c.columns)
include h

theorem extraneousTo_of_perm_contract : extraneousTo c' s = extraneousTo c s := by
  simp only [extraneousTo, h.any_eq]

theorem arranged_missingFrom : Arranged (missingFrom c s) c'.columns (missingFrom c' s) :=
  ⟨h.filter _, List.filter_sublist⟩

omit h in
theorem column_of_mismatch? {m : Mismatch} (hm : mismatch? s col = some m) : m.column = col.name := by
  simp only [mismatch?, Option.bind_eq_some_iff, Option.ite_none_left_eq_some, Option.some.injEq] at hm
  obtain ⟨actual, -, -, rfl⟩ := hm
  rfl

omit h in
/-- Mismatches keep the names of their columns in order. -/
theorem columns_of_mismatches (c : Contract) (s : Snapshot) :
    ((mismatches c s).map (·.column)).Sublist (c.columns.map (·.name)) := by
  unfold mismatches
  induction c.columns with
  | nil => exact List.Sublist.slnil
  | cons col rest ih =>
    cases hm : mismatch? s col with
    | none =>
      rw [List.filterMap_cons_none hm]
      exact ih.cons _
    | some m =>
      rw [List.filterMap_cons_some hm, List.map_cons, List.map_cons, column_of_mismatch? hm]
      exact ih.cons_cons _

end Contract

/-! ### The sides exchanged -/

theorem isNone_actualType? (s : Snapshot) (name : String) :
    (actualType? s name).isNone = !s.columns.any (·.name = name) := by
  rw [Bool.eq_iff_iff, Option.isNone_iff_eq_none, actualType?_eq_none_iff]
  simp only [Bool.not_eq_true', List.any_eq_false, decide_eq_true_eq, ne_eq]

theorem missingFrom_exchanged (c : Contract) (s : Snapshot) :
    missingFrom ⟨table, s.columns⟩ ⟨table, c.columns, metadata⟩ = extraneousTo c s := by
  simp only [missingFrom, extraneousTo, isNone_actualType?]

theorem extraneousTo_exchanged (c : Contract) (s : Snapshot) :
    extraneousTo ⟨table, s.columns⟩ ⟨table, c.columns, metadata⟩ = missingFrom c s := by
  simp only [missingFrom, extraneousTo, isNone_actualType?]

/-- The columns of one side that the other side names, too. -/
def shared (own other : List Column) : List Column := own.filter fun x => other.any (·.name = x.name)

theorem length_of_missingFrom (c : Contract) (s : Snapshot) :
    c.columns.length = (shared c.columns s.columns).length + (missingFrom c s).length := by
  simp only [missingFrom, isNone_actualType?]
  exact List.length_eq_length_filter_add _

theorem length_of_extraneousTo (c : Contract) (s : Snapshot) :
    s.columns.length = (shared s.columns c.columns).length + (extraneousTo c s).length :=
  List.length_eq_length_filter_add _

theorem mem_names_shared {own other : List Column} {name : String} :
    name ∈ (shared own other).map (·.name) ↔ name ∈ own.map (·.name) ∧ name ∈ other.map (·.name) := by
  simp only [shared, List.mem_map, List.mem_filter, List.any_eq_true, decide_eq_true_eq]
  constructor
  · rintro ⟨x, ⟨hx, y, hy, hyx⟩, rfl⟩
    exact ⟨⟨x, hx, rfl⟩, y, hy, hyx⟩
  · rintro ⟨⟨x, hx, rfl⟩, y, hy, hyx⟩
    exact ⟨x, ⟨hx, y, hy, hyx⟩, rfl⟩

/-- Sides without repeated names share as many columns as seen from either. -/
theorem length_shared {own other : List Column} (distinct : (own.map (·.name)).Nodup)
    (distinct_other : (other.map (·.name)).Nodup) : (shared own other).length = (shared other own).length := by
  have nodup {l l' : List Column} (hl : (l.map (·.name)).Nodup) : ((shared l l').map (·.name)).Nodup :=
    hl.sublist (List.filter_sublist.map _)
  have hperm : ((shared own other).map (·.name)).Perm ((shared other own).map (·.name)) :=
    (List.perm_ext_iff_of_nodup (nodup distinct) (nodup distinct_other)).mpr fun name => by
      rw [mem_names_shared, mem_names_shared, and_comm]
  simpa only [List.length_map] using hperm.length_eq

/-! ### All of it -/

/-- In another order of the snapshot's columns a comparison has the same status and lists the same missing and
mismatched columns, and the same extraneous ones in that order. In another order of the contract's columns it has the
same status and lists the same extraneous columns, and the same missing and mismatched ones in that order. With the
sides exchanged missing and extraneous columns change places, and both sides have as many columns besides them. -/
theorem arranged_and_exchanged (hs : s.columns ≠ []) (distinct : (c.columns.map (·.name)).Nodup)
    (distinct_own : (s.columns.map (·.name)).Nodup) : ∃ r, compare c s = .ok r ∧
      (∀ s' : Snapshot, s'.columns.Perm s.columns → ∃ r', compare c s' = .ok r' ∧ r'.status = r.status ∧
        r'.missing = r.missing ∧ r'.mismatched = r.mismatched ∧
        Arranged r.extraneous s'.columns r'.extraneous) ∧
      (∀ c' : Contract, c'.columns.Perm c.columns → ∃ r', compare c' s = .ok r' ∧ r'.status = r.status ∧
        r'.extraneous = r.extraneous ∧ Arranged r.missing c'.columns r'.missing ∧
        r'.mismatched.Perm r.mismatched ∧
        Arranged (r.mismatched.map (·.column)) (c'.columns.map (·.name)) (r'.mismatched.map (·.column))) ∧
      (c.columns ≠ [] → ∀ table metadata, ∃ r',
        compare ⟨table, s.columns⟩ ⟨table, c.columns, metadata⟩ = .ok r' ∧
          r'.missing = r.extraneous ∧ r'.extraneous = r.missing) ∧
      (c.columns.length : Int) - r.missing.length = s.columns.length - r.extraneous.length := by
  refine ⟨ofDrift c s, compare_of_ne_nil hs, fun s' h => ?_, fun c' h => ?_, fun hc table metadata => ?_, ?_⟩
  · have hs' : s'.columns ≠ [] := fun hnil => hs (hnil ▸ h).nil_eq.symm
    have missing := missingFrom_of_perm_snapshot (c := c) distinct_own h
    have mismatched := mismatches_of_perm_snapshot (c := c) distinct_own h
    have extraneous := arranged_extraneousTo (c := c) h
    exact ⟨ofDrift c s', compare_of_ne_nil hs',
      status_ofDrift_of_perm (missing ▸ .refl _) extraneous.same (mismatched ▸ .refl _), missing, mismatched,
      extraneous⟩
  · have extraneous := extraneousTo_of_perm_contract (s := s) h
    have missing := arranged_missingFrom (s := s) h
    have mismatched : (mismatches c' s).Perm (mismatches c s) := h.filterMap _
    exact ⟨ofDrift c' s, compare_of_ne_nil hs,
      status_ofDrift_of_perm missing.same (extraneous ▸ .refl _) mismatched, extraneous, missing, mismatched,
      mismatched.map _, columns_of_mismatches c' s⟩
  · exact ⟨_, compare_of_ne_nil hc, missingFrom_exchanged c s, extraneousTo_exchanged c s⟩
  · have hc := length_of_missingFrom c s
    have hs := length_of_extraneousTo c s
    have hshared := length_shared distinct distinct_own
    dsimp only [ofDrift]
    omega

/-- A store that lists its columns the other way round: only the extraneous ones come in another order. -/
theorem arranged_and_exchanged_reversed : ∃ r',
    compare ⟨"t", [⟨"t", "z", "text"⟩, ⟨"t", "b", "integer"⟩, ⟨"t", "a", "boolean"⟩]⟩
      ⟨"t", [⟨"t", "x", "uuid"⟩, ⟨"t", "b", "bigint"⟩, ⟨"t", "a", "text"⟩, ⟨"t", "y", "text"⟩], .none⟩ = .ok r' ∧
    r'.status = .fail ∧ r'.missing = [⟨"t", "z", "text"⟩] ∧ r'.mismatched = [⟨"a", "boolean", "text"⟩] ∧
    Arranged [⟨"t", "y", "text"⟩, ⟨"t", "x", "uuid"⟩]
      [⟨"t", "x", "uuid"⟩, ⟨"t", "b", "bigint"⟩, ⟨"t", "a", "text"⟩, ⟨"t", "y", "text"⟩] r'.extraneous := by
  obtain ⟨r, hr, reordered, -⟩ := @arranged_and_exchanged
    ⟨"t", [⟨"t", "z", "text"⟩, ⟨"t", "b", "integer"⟩, ⟨"t", "a", "boolean"⟩]⟩
    ⟨"t", [⟨"t", "y", "text"⟩, ⟨"t", "a", "text"⟩, ⟨"t", "b", "bigint"⟩, ⟨"t", "x", "uuid"⟩], .none⟩
    (by decide) (by decide) (by decide)
  cases hr
  exact reordered ⟨"t", [⟨"t", "x", "uuid"⟩, ⟨"t", "b", "bigint"⟩, ⟨"t", "a", "text"⟩, ⟨"t", "y", "text"⟩], .none⟩
    (by decide)

end Report

end SchemaAudit

import Mathlib.Tactic.MkIffOfInductiveProp
import SchemaAudit.Proofs.Display.Drafts
import SchemaAudit.Proofs.Display.Markup

/-! # Escaped data

The names of tables and the errors of a run are put on the console escaped. The columns and types of its drift, and all
that an inspection shows, are put there as they are: they are escaped exactly if they need no escape
(`Literal`). -/

namespace SchemaAudit

/-! ### Data that stands for itself -/

/-- A report whose drift needs no escape. -/
@[mk_iff]
structure Report.LiteralDrift (r : Report) : Prop where
  columns : ∀ c ∈ r.missing ++ r.extraneous, Display.Literal c.name ∧ Display.Literal c.type
  mismatched : ∀ m ∈ r.mismatched,
    Display.Literal m.column ∧ Display.Literal m.expected ∧ Display.Literal m.actual

@[mk_iff]
structure Metadata.Literal (m : Metadata) : Prop where
  constraints : ∀ c ∈ m.constraints, Display.Literal c.name ∧ Display.Literal c.type
  indexes : ∀ i ∈ m.indexes, Display.Literal i.name
  policies : ∀ p ∈ m.policies,
    Display.Literal p.name ∧ Display.Literal p.command ∧ ∀ text, p.definition = some text → Display.Literal text
  triggers : ∀ t ∈ m.triggers, Display.Literal t.name ∧ Display.Literal t.timing ∧ Display.Literal t.event

/-- An inspection that needs no escape. Of a table that is not found only the name is shown. -/
@[mk_iff]
structure Inspection.Literal (i : Inspection) : Prop where
  table : Display.Literal i.table
  columns : ∀ c ∈ i.snapshot.columns, Display.Literal c.name ∧ Display.Literal c.type
  others : i.found = true → i.snapshot.metadata.Literal

namespace Display

variable {f : String → String}

/-! ### Where it makes no difference -/

theorem length_textOf_le (ps : List Piece) : (textOf id ps).length ≤ (textOf escape ps).length := by
  induction ps with
  | nil => exact Nat.le_refl _
  | cons p ps ih =>
    rw [textOf, textOf, String.length_append, String.length_append]
    cases p with
    | own markup => exact Nat.add_le_add_left ih _
    | data text => exact Nat.add_le_add (le_length_escape text) ih

/-- Escaping leaves a text as it is only if it leaves all data in it: no part of the text gets shorter. -/
theorem textOf_eq_iff {ps : List Piece} : textOf id ps = textOf escape ps ↔ ∀ text ∈ dataOf ps, Literal text := by
  induction ps with
  | nil => exact iff_of_true rfl (List.forall_mem_nil _)
  | cons p ps ih =>
    cases p with
    | own markup =>
      rw [dataOf_own, ← ih, textOf, textOf]
      exact String.append_right_inj markup
    | data text =>
      rw [dataOf_data, List.forall_mem_cons, ← ih, textOf, textOf]
      constructor
      · intro h
        have hlength := congrArg String.length h
        rw [String.length_append, String.length_append] at hlength
        have htext : text.length ≤ (escape text).length := le_length_escape text
        have hrest := length_textOf_le ps
        have hliteral : Literal text := literal_of_length (by simp only [Piece.shown, id] at hlength; omega)
        simp only [Piece.shown, id, escape_eq_self_iff.mpr hliteral] at h
        exact ⟨hliteral, (String.append_right_inj text).mp h⟩
      · rintro ⟨htext, hrest⟩
        rw [hrest, Piece.shown, Piece.shown, id, escape_eq_self_iff.mpr htext]

theorem cells_eq_iff {rows : List (List (List Piece))} : rows.map (·.map (textOf id)) = rows.map (·.map (textOf escape)) ↔
    ∀ text ∈ rows.flatMap (·.flatMap dataOf), Literal text := by
  simp only [List.map_inj_left, textOf_eq_iff, List.mem_flatMap]
  exact ⟨fun h text ⟨row, hrow, ps, hps, htext⟩ => h row hrow ps hps text htext,
    fun h row hrow ps hps text htext => h text ⟨row, hrow, ps, hps, htext⟩⟩

theorem Draft.item_eq_iff {d : Draft} : d.item id = d.item escape ↔ ∀ text ∈ d.data, Literal text := by
  cases d with
  | line ps =>
    rw [item, item, Item.line.injEq]
    exact textOf_eq_iff
  | table title headers rows =>
    rw [item, item, Item.table.injEq, data, List.forall_mem_append, textOf_eq_iff, cells_eq_iff]
    exact and_congr_right fun _ => and_iff_right rfl
  | panel ps title border =>
    rw [item, item, Item.panel.injEq, data, List.forall_mem_append, textOf_eq_iff, textOf_eq_iff]
    exact and_congr_right fun _ => and_iff_left rfl

/-! ### What needs an escape -/

theorem literal_driftCells_iff {r : Report} :
    (∀ text ∈ (driftCells r).flatMap (·.flatMap dataOf), Literal text) ↔ r.LiteralDrift := by
  rw [Report.literalDrift_iff, List.forall_mem_append, driftCells, List.flatMap_append, List.flatMap_append,
    List.forall_mem_append, List.forall_mem_append]
  simp [List.forall_mem_flatMap, -List.mem_flatMap]

theorem literal_draftUnlessEmpty_iff {title : String} {headers : List Header} {rows : List (List (List Piece))} :
    (∀ d ∈ draftUnlessEmpty title headers rows, ∀ text ∈ d.data, Literal text) ↔
      ∀ text ∈ rows.flatMap (·.flatMap dataOf), Literal text := by
  unfold draftUnlessEmpty
  split
  · rename_i hempty
    rw [List.isEmpty_iff.mp hempty]
    simp
  · simp only [List.forall_mem_singleton, Draft.data, dataOf_own, dataOf_nil, List.nil_append]

theorem literal_dataOr_iff {words : String} {text : Option String} :
    (∀ shown ∈ dataOf (dataOr words text), Literal shown) ↔ ∀ t, text = some t → Literal t := by
  cases text with
  | none => simp [dataOr]
  | some text =>
    by_cases hempty : text = ""
    · simp [dataOr, hempty, literal_empty]
    · simp [dataOr, hempty]

theorem literal_ofOthers_iff {m : Metadata} :
    (∀ d ∈ Draft.ofOthers m, ∀ text ∈ d.data, Literal text) ↔ m.Literal := by
  rw [Metadata.literal_iff, Draft.ofOthers, List.forall_mem_append, List.forall_mem_append, List.forall_mem_append,
    literal_draftUnlessEmpty_iff, literal_draftUnlessEmpty_iff, literal_draftUnlessEmpty_iff, and_assoc, and_assoc]
  refine and_congr ?_ (and_congr ?_ (and_congr ?_ ?_))
  · simp [List.forall_mem_flatMap, -List.mem_flatMap]
  · cases m.indexes with
    | nil => simp
    | cons index indexes =>
      rw [List.isEmpty_cons, if_neg Bool.false_ne_true, List.forall_mem_singleton, Draft.data, dataOf_own,
        dataOf_enumerated, List.forall_mem_map]
  · simp [List.forall_mem_flatMap, -List.mem_flatMap, literal_dataOr_iff]
  · simp [List.forall_mem_flatMap, -List.mem_flatMap]

theorem literal_ofInspection_iff {i : Inspection} :
    (∀ d ∈ Draft.ofInspection i, ∀ text ∈ d.data, Literal text) ↔ i.Literal := by
  rw [Inspection.literal_iff]
  unfold Draft.ofInspection
  split
  · rename_i hfound
    rw [List.forall_mem_cons, List.forall_mem_cons, literal_ofOthers_iff]
    simp [hfound, Draft.data, List.forall_mem_flatMap, -List.mem_flatMap]
  · rename_i hfound
    have hnil : i.snapshot.columns = [] := by simpa [Inspection.found] using hfound
    simp [hfound, hnil, Draft.data]

/-! ### Drift -/

theorem drift_eq_iff {r : Report} : drift r = (Draft.ofDrift r).item escape ↔ r.LiteralDrift := by
  rw [drift, Draft.ofDrift, Draft.item, driftRows_eq, Item.table.injEq, cells_eq_iff, literal_driftCells_iff]
  simp [textOf, Piece.shown]

theorem drift_mapDrift (r : Report) : drift (r.mapDrift escape) = (Draft.ofDrift r).item escape := by
  rw [drift, Draft.ofDrift, Draft.item, driftRows_eq, driftCells_mapDrift]
  simp [textOf, Piece.shown, textOf_mapData, Report.mapDrift]

theorem literalDrift_of_driftCount {r : Report} (h : r.driftCount = 0) : r.LiteralDrift := by
  rw [Report.driftCount, Nat.add_eq_zero_iff, Nat.add_eq_zero_iff] at h
  rw [← literal_driftCells_iff]
  simp [driftCells, List.length_eq_zero_iff.mp h.1.1, List.length_eq_zero_iff.mp h.1.2, List.length_eq_zero_iff.mp h.2]

/-- The reports of a run with their drift escaped are the drafts of the run, escaped. -/
theorem summary_mapDrift (s : Summary) (directory : Path) :
    summary (s.mapDrift escape) directory = (Draft.ofSummary s directory).map (·.item escape) := by
  unfold summary Draft.ofSummary
  rw [Summary.mapDrift, filter_map_driftCount (·.mapDrift escape) (driftCount_mapDrift escape),
    footer_map (·.mapDrift escape) fun _ => rfl, List.isEmpty_map]
  split
  · simp [Draft.item]
  · simp [Draft.item, drift_mapDrift, reportRow_eq, reportCells_mapDrift, Function.comp_def]

theorem summary_eq_iff {s : Summary} {directory : Path} :
    summary s directory = (Draft.ofSummary s directory).map (·.item escape) ↔ ∀ r ∈ s.reports, r.LiteralDrift := by
  unfold summary Draft.ofSummary
  split
  · rename_i hempty
    rw [List.isEmpty_iff.mp hempty]
    exact iff_of_true (by simp [Draft.item]) (List.forall_mem_nil _)
  · have hreports : Item.table "Schema Contract Audit" reportHeaders (s.reports.map reportRow) =
        (Draft.table [.own "Schema Contract Audit"] reportHeaders (s.reports.map reportCells)).item escape := by
      simp [Draft.item, reportRow_eq]
    have hfooter : Item.line (footer s directory) = (Draft.line [.own (footer s directory)]).item escape := by
      simp [Draft.item]
    rw [List.map_cons, List.map_append, List.map_map, List.map_singleton, ← hreports, ← hfooter, List.cons.injEq,
      and_iff_right rfl, List.append_left_inj, List.map_inj_left]
    simp only [List.mem_filter, Function.comp_apply, drift_eq_iff]
    constructor
    · intro h r hr
      by_cases hcount : r.driftCount = 0
      · exact literalDrift_of_driftCount hcount
      · exact h r ⟨hr, by simpa using hcount⟩
    · rintro h r ⟨hr, _⟩
      exact h r hr

/-! ### Inspections -/

theorem inspection_mapTexts (i : Inspection) :
    inspection (i.mapTexts escape) = (Draft.ofInspection i).map (·.item escape) := by
  rw [inspection_eq, Draft.ofInspection_mapTexts fun _ => escape_eq_empty_iff, List.map_map]
  exact List.map_congr_left fun d _ => Draft.item_mapData id d

theorem inspection_eq_iff {i : Inspection} :
    inspection i = (Draft.ofInspection i).map (·.item escape) ↔ i.Literal := by
  rw [inspection_eq, List.map_inj_left, ← literal_ofInspection_iff]
  exact forall₂_congr fun d _ => Draft.item_eq_iff

/-! ### Both -/

/-- A run is shown as its drafts escaped exactly if its drift needs no escape; all else of it is escaped, so that drift
escaped beforehand makes up for it. An inspection is shown with its data as it is, which is as its drafts escaped exactly
if nothing in it needs an escape; data escaped beforehand makes up for it. -/
theorem escaped_iff_literal (hf : ∀ text, f text = "" ↔ text = "") (s : Summary) (directory : Path) (i : Inspection) :
    ((summary s directory = (Draft.ofSummary s directory).map (·.item escape) ↔ ∀ r ∈ s.reports, r.LiteralDrift) ∧
      summary (s.mapDrift escape) directory = (Draft.ofSummary s directory).map (·.item escape) ∧
      Draft.ofSummary (s.mapTexts f) directory = (Draft.ofSummary s directory).map (·.mapData f)) ∧
    (inspection i = (Draft.ofInspection i).map (·.item escape) ↔ i.Literal) ∧
      inspection i = (Draft.ofInspection i).map (·.item id) ∧
      inspection (i.mapTexts escape) = (Draft.ofInspection i).map (·.item escape) ∧
      Draft.ofInspection (i.mapTexts f) = (Draft.ofInspection i).map (·.mapData f) :=
  ⟨⟨summary_eq_iff, summary_mapDrift s directory, Draft.ofSummary_mapTexts hf s directory⟩,
    inspection_eq_iff, inspection_eq i, inspection_mapTexts i, Draft.ofInspection_mapTexts hf i⟩

/-- A drifted column whose name starts with a colour in brackets, and a table whose name does. -/
theorem escaped_iff_literal_in_brackets :
    (∀ text, escape text = "" ↔ text = "") ∧
      summary ⟨[⟨"t", [], [], [⟨"[red]x", "text", "uuid"⟩], .fail, none⟩]⟩ ⟨"", ["r"]⟩ ≠
        (Draft.ofSummary ⟨[⟨"t", [], [], [⟨"[red]x", "text", "uuid"⟩], .fail, none⟩]⟩ ⟨"", ["r"]⟩).map
          (·.item escape) ∧
      inspection ⟨"[red]x", ⟨"[red]x", [], .none⟩⟩ ≠
        (Draft.ofInspection ⟨"[red]x", ⟨"[red]x", [], .none⟩⟩).map (·.item escape) := by
  have hnot : ¬ Literal "[red]x" := fun h => absurd (h.brackets [] "red]x".toList rfl) (by decide)
  obtain ⟨⟨hsummary, -⟩, hinspection, -⟩ := escaped_iff_literal (fun _ => escape_eq_empty_iff)
    ⟨[⟨"t", [], [], [⟨"[red]x", "text", "uuid"⟩], .fail, none⟩]⟩ ⟨"", ["r"]⟩ ⟨"[red]x", ⟨"[red]x", [], .none⟩⟩
  refine ⟨fun _ => escape_eq_empty_iff, fun h => ?_, fun h => hnot (hinspection.mp h).table⟩
  exact hnot ((hsummary.mp h _ (List.mem_singleton_self _)).mismatched _ (List.mem_singleton_self _)).1

end Display

end SchemaAudit

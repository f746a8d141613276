import SchemaAudit.Display.Report
import SchemaAudit.Display.Structure

/-! # Data on a console

A console thing is drafted as its own words in markup and data between them (`Draft`), whichever way the data is shown.
That the drafts here tell the two apart rightly is seen by changing the data: then only the data of the drafts changes
(`Draft.ofSummary_mapTexts`, `Draft.ofInspection_mapTexts`). -/

namespace SchemaAudit

/-! ### Other data -/

section MapTexts

variable (f : String → String)

def Column.mapTexts (c : Column) : Column := ⟨f c.table, f c.name, f c.type⟩

def Mismatch.mapTexts (m : Mismatch) : Mismatch := ⟨f m.column, f m.expected, f m.actual⟩

/-- A report of other drift. -/
def Report.mapDrift (r : Report) : Report where
  table := r.table
  missing := r.missing.map (·.mapTexts f)
  extraneous := r.extraneous.map (·.mapTexts f)
  mismatched := r.mismatched.map (·.mapTexts f)
  status := r.status
  error := r.error

/-- A report of other data. -/
def Report.mapTexts (r : Report) : Report := { r.mapDrift f with table := f r.table, error := r.error.map f }

def Summary.mapDrift (s : Summary) : Summary := ⟨s.reports.map (·.mapDrift f)⟩

def Summary.mapTexts (s : Summary) : Summary := ⟨s.reports.map (·.mapTexts f)⟩

def ConstraintRow.mapTexts (c : ConstraintRow) : ConstraintRow := ⟨f c.table, f c.name, f c.type⟩

def IndexRow.mapTexts (i : IndexRow) : IndexRow := ⟨f i.table, f i.name⟩

def PolicyRow.mapTexts (p : PolicyRow) : PolicyRow := ⟨f p.table, f p.name, f p.command, p.definition.map f⟩

def TriggerRow.mapTexts (t : TriggerRow) : TriggerRow := ⟨f t.name, f t.table, f t.timing, f t.event⟩

def Metadata.mapTexts (m : Metadata) : Metadata where
  constraints := m.constraints.map (·.mapTexts f)
  indexes := m.indexes.map (·.mapTexts f)
  policies := m.policies.map (·.mapTexts f)
  triggers := m.triggers.map (·.mapTexts f)

/-- An inspection of other data. -/
def Inspection.mapTexts (i : Inspection) : Inspection where
  table := f i.table
  snapshot := ⟨f i.snapshot.table, i.snapshot.columns.map (·.mapTexts f), i.snapshot.metadata.mapTexts f⟩

end MapTexts

namespace Display

/-! ### Drafts -/

/-- A part of a text on a console: words of its own in markup, or data. -/
inductive Piece where
  | own (markup : String)
  | data (text : String)

def Piece.shown (f : String → String) : Piece → String
  | own markup => markup
  | data text => f text

def Piece.mapData (f : String → String) : Piece → Piece
  | own markup => own markup
  | data text => data (f text)

/-- The text of some pieces, their data shown in one way. -/
def textOf (f : String → String) : List Piece → String
  | [] => ""
  | p :: ps => p.shown f ++ textOf f ps

/-- The data of some pieces. -/
def dataOf (ps : List Piece) : List String :=
  ps.filterMap fun
    | .own _ => none
    | .data text => some text

@[simp] theorem dataOf_nil : dataOf [] = [] := rfl

@[simp] theorem dataOf_own (markup : String) (ps : List Piece) : dataOf (.own markup :: ps) = dataOf ps := rfl

@[simp] theorem dataOf_data (text : String) (ps : List Piece) : dataOf (.data text :: ps) = text :: dataOf ps := rfl

/-- A console thing whose own words and data are told apart. -/
inductive Draft where
  | line (ps : List Piece)
  | table (title : List Piece) (headers : List Header) (rows : List (List (List Piece)))
  | panel (ps title : List Piece) (border : String)

namespace Draft

/-- The thing with its data shown in one way. -/
def item (f : String → String) : Draft → Item
  | line ps => .line (textOf f ps)
  | table title headers rows => .table (textOf f title) headers (rows.map (·.map (textOf f)))
  | panel ps title border => .panel (textOf f ps) (textOf f title) border

def mapData (f : String → String) : Draft → Draft
  | line ps => line (ps.map (·.mapData f))
  | table title headers rows =>
    table (title.map (·.mapData f)) headers (rows.map (·.map (·.map (·.mapData f))))
  | panel ps title border => panel (ps.map (·.mapData f)) (title.map (·.mapData f)) border

/-- All data of a thing. -/
def data : Draft → List String
  | line ps => dataOf ps
  | table title _ rows => dataOf title ++ rows.flatMap (·.flatMap dataOf)
  | panel ps title _ => dataOf ps ++ dataOf title

end Draft

/-! ### What is drafted -/

/-- Data that may be absent or empty, with words in its place. -/
def dataOr (words : String) : Option String → List Piece
  | none => [.own words]
  | some text => if text = "" then [.own words] else [.data text]

def reportCells (r : Report) : List (List Piece) := [
  [.data r.table], [.own (colouredStatus r.status.word)], [.own (toString r.missing.length)],
  [.own (toString r.extraneous.length)], [.own (toString r.mismatched.length)],
  dataOr nothing r.error]

def driftCells (r : Report) : List (List (List Piece)) :=
  (r.missing.map fun c => [[.data c.name], [.own (styled "red" "missing")], [.data c.type], [.own nothing]]) ++
    (r.extraneous.map fun c =>
      [[.data c.name], [.own (styled "yellow" "extraneous")], [.own nothing], [.data c.type]]) ++
    r.mismatched.map fun m =>
      [[.data m.column], [.own (styled "magenta" "mismatched")], [.data m.expected], [.data m.actual]]

def Draft.ofDrift (r : Report) : Draft := .table [.own "Drift in ", .data r.table] driftHeaders (driftCells r)

/-- The draft of a run. -/
def Draft.ofSummary (s : Summary) (directory : Path) : List Draft :=
  if s.reports.isEmpty then [.line [.own (styled "dim" "No tables were audited.")]]
  else
    .table [.own "Schema Contract Audit"] reportHeaders (s.reports.map reportCells) ::
      ((s.reports.filter fun r => r.driftCount ≠ 0).map ofDrift ++ [.line [.own (footer s directory)]])

/-- What is said of a table behind its name. -/
def headlineWords (i : Inspection) : String :=
  if i.found then
    let m := i.snapshot.metadata
    s!": {i.snapshot.columns.length} columns, {m.constraints.length} constraints, {m.indexes.length} indexes, {m.policies.length} RLS policies, {m.triggers.length} triggers"
  else ": NOT_FOUND (table absent from the store)"

def draftUnlessEmpty (title : String) (headers : List Header) (rows : List (List (List Piece))) : List Draft :=
  if rows.isEmpty then [] else [.table [.own title] headers rows]

/-- Data with commas between. -/
def enumerated (texts : List String) : List Piece := (texts.map Piece.data).intersperse (.own ", ")

def Draft.ofOthers (m : Metadata) : List Draft :=
  draftUnlessEmpty "Constraints" [.bold "Name", .plain "Type"]
      (m.constraints.map fun c => [[.data c.name], [.data c.type]]) ++
    (if m.indexes.isEmpty then []
      else [.line (.own (styled "bold" "Indexes:" ++ " ") :: enumerated (m.indexes.map (·.name)))]) ++
    draftUnlessEmpty "RLS Policies" [.bold "Policy", .plain "Command", .plain "Definition"]
      (m.policies.map fun p => [[.data p.name], [.data p.command], dataOr "-" p.definition]) ++
    draftUnlessEmpty "Triggers" [.bold "Trigger", .plain "Timing", .plain "Event"]
      (m.triggers.map fun t => [[.data t.name], [.data t.timing], [.data t.event]])

/-- The draft of an inspection. -/
def Draft.ofInspection (i : Inspection) : List Draft :=
  if i.found then
    .panel [.data i.table, .own (headlineWords i)] [.data i.table] "blue" ::
      .table [.own "Columns"] [.bold "Column", .plain "Type"]
        (i.snapshot.columns.map fun c => [[.data c.name], [.data c.type]]) ::
      ofOthers i.snapshot.metadata
  else [.line [.own "[yellow]", .data i.table, .own (headlineWords i ++ "[/yellow]")]]

variable {f : String → String}

/-! ### How it is shown -/

@[simp] theorem textOf_own (markup : String) : textOf f [.own markup] = markup := String.append_empty

@[simp] theorem textOf_data (text : String) : textOf f [.data text] = f text := String.append_empty

theorem textOf_dataOr (f : String → String) (words : String) (text : Option String) :
    textOf f (dataOr words text) =
      match text with
      | none => words
      | some text => if text = "" then words else f text := by
  cases text with
  | none => exact textOf_own words
  | some text =>
    by_cases hempty : text = ""
    · simp [dataOr, hempty]
    · simp [dataOr, hempty]

theorem reportRow_eq (r : Report) : reportRow r = (reportCells r).map (textOf escape) := by
  simp only [reportCells, List.map_cons, List.map_nil, textOf_own, textOf_data, textOf_dataOr]
  rfl

theorem driftRows_eq (r : Report) : driftRows r = (driftCells r).map (·.map (textOf id)) := by
  simp [driftRows, driftCells, Function.comp_def]

theorem summaryLine_eq (i : Inspection) : i.summaryLine = i.table ++ headlineWords i := by
  unfold Inspection.summaryLine headlineWords
  split
  · simp only [String.append_assoc]
    rfl
  · rfl

theorem textOf_enumerated (f : String → String) : ∀ texts : List String,
    textOf f (enumerated texts) = ", ".intercalate (texts.map f)
  | [] => String.intercalate_nil.symm
  | [text] => by rw [List.map_singleton, String.intercalate_singleton]; exact textOf_data text
  | text :: next :: texts => by
    rw [List.map_cons, List.map_cons, String.intercalate_cons_cons, ← List.map_cons,
      ← textOf_enumerated f (next :: texts), String.append_assoc]
    rfl

theorem item_draftUnlessEmpty (title : String) (headers : List Header) (rows : List (List (List Piece))) :
    (draftUnlessEmpty title headers rows).map (·.item f) =
      tableUnlessEmpty title headers (rows.map (·.map (textOf f))) := by
  unfold draftUnlessEmpty tableUnlessEmpty
  rw [List.isEmpty_map]
  split
  · rfl
  · simp [Draft.item]

theorem policyDefinition_eq (p : PolicyRow) : policyDefinition p = textOf id (dataOr "-" p.definition) :=
  (textOf_dataOr id "-" p.definition).symm

theorem otherObjects_eq (m : Metadata) : otherObjects m = (Draft.ofOthers m).map (·.item id) := by
  unfold otherObjects Draft.ofOthers
  simp only [List.map_append, item_draftUnlessEmpty, List.map_map, Function.comp_def, List.map_cons, List.map_nil,
    textOf_data, id, policyDefinition_eq]
  congr 3
  split
  · rfl
  · simp [Draft.item, textOf, textOf_enumerated, Piece.shown]

theorem inspection_eq (i : Inspection) : inspection i = (Draft.ofInspection i).map (·.item id) := by
  unfold inspection Draft.ofInspection
  split
  · simp [Draft.item, otherObjects_eq, summaryLine_eq, textOf, Piece.shown, Function.comp_def]
  · simp [Draft.item, summaryLine_eq, textOf, Piece.shown, styled, String.append_assoc]

theorem dataOf_enumerated : ∀ texts : List String, dataOf (enumerated texts) = texts
  | [] => rfl
  | [_] => rfl
  | text :: next :: texts => by
    have ih := dataOf_enumerated (next :: texts)
    simp only [enumerated, List.map_cons, List.intersperse_cons_cons, dataOf_data, dataOf_own] at ih ⊢
    rw [ih]

/-! ### Other data, other drafts -/

@[simp] theorem Piece.mapData_own (markup : String) : (own markup).mapData f = own markup := rfl

@[simp] theorem Piece.mapData_data (text : String) : (data text).mapData f = data (f text) := rfl

theorem textOf_mapData (g : String → String) (ps : List Piece) :
    textOf g (ps.map (·.mapData f)) = textOf (g ∘ f) ps := by
  induction ps with
  | nil => rfl
  | cons p ps ih =>
    rw [List.map_cons, textOf, textOf, ih]
    cases p with
    | own markup => rfl
    | data text => rfl

theorem Draft.item_mapData (g : String → String) (d : Draft) : (d.mapData f).item g = d.item (g ∘ f) := by
  cases d with
  | line ps => rw [mapData, item, item, textOf_mapData]
  | table title headers rows => simp [mapData, item, textOf_mapData]
  | panel ps title border => rw [mapData, item, item, textOf_mapData, textOf_mapData]

theorem driftCells_mapDrift (f : String → String) (r : Report) :
    driftCells (r.mapDrift f) = (driftCells r).map (·.map (·.map (·.mapData f))) := by
  simp [driftCells, Report.mapDrift, Column.mapTexts, Mismatch.mapTexts, Function.comp_def]

theorem driftCount_mapDrift (f : String → String) (r : Report) : (r.mapDrift f).driftCount = r.driftCount := by
  simp only [Report.driftCount, Report.mapDrift, List.length_map]

theorem reportCells_mapDrift (f : String → String) (r : Report) : reportCells (r.mapDrift f) = reportCells r := by
  simp only [reportCells, Report.mapDrift, List.length_map]

theorem dataOr_map (hf : ∀ text, f text = "" ↔ text = "") (words : String) (text : Option String) :
    dataOr words (text.map f) = (dataOr words text).map (·.mapData f) := by
  cases text with
  | none => rfl
  | some text =>
    by_cases hempty : text = ""
    · simp [dataOr, hempty, (hf "").mpr rfl]
    · simp [dataOr, hempty, mt (hf text).mp hempty]

theorem reportCells_mapTexts (hf : ∀ text, f text = "" ↔ text = "") (r : Report) :
    reportCells (r.mapTexts f) = (reportCells r).map (·.map (·.mapData f)) := by
  simp [reportCells, Report.mapTexts, Report.mapDrift, dataOr_map hf]

theorem Draft.ofDrift_mapTexts (f : String → String) (r : Report) :
    ofDrift (r.mapTexts f) = (ofDrift r).mapData f := by
  have hcells : driftCells (r.mapTexts f) = driftCells (r.mapDrift f) := rfl
  rw [ofDrift, hcells, driftCells_mapDrift]
  rfl

theorem filter_map_driftCount (g : Report → Report) (hg : ∀ r, (g r).driftCount = r.driftCount)
    (reports : List Report) :
    (reports.map g).filter (fun r => r.driftCount ≠ 0) = (reports.filter fun r => r.driftCount ≠ 0).map g := by
  rw [List.filter_map]
  exact congrArg (List.map g) (List.filter_congr fun r _ => congrArg (fun n => decide (n ≠ 0)) (hg r))

theorem footer_map (g : Report → Report) (hg : ∀ r, (g r).status = r.status) {s : Summary} {directory : Path} :
    footer ⟨s.reports.map g⟩ directory = footer s directory := by
  simp [footer, Summary.failed, Summary.total, List.countP_map, Function.comp_def, hg]

/-- The reports of other data are drafted as before, with the other data. -/
theorem Draft.ofSummary_mapTexts (hf : ∀ text, f text = "" ↔ text = "") (s : Summary) (directory : Path) :
    ofSummary (s.mapTexts f) directory = (ofSummary s directory).map (·.mapData f) := by
  unfold ofSummary
  rw [Summary.mapTexts, filter_map_driftCount (·.mapTexts f) (driftCount_mapDrift f), footer_map (·.mapTexts f) fun _ => rfl,
    List.isEmpty_map]
  split
  · rfl
  · simp [mapData, reportCells_mapTexts hf, ofDrift_mapTexts, Function.comp_def, List.map_map]

theorem mapData_draftUnlessEmpty (title : String) (headers : List Header) (rows : List (List (List Piece))) :
    (draftUnlessEmpty title headers rows).map (·.mapData f) =
      draftUnlessEmpty title headers (rows.map (·.map (·.map (·.mapData f)))) := by
  unfold draftUnlessEmpty
  rw [List.isEmpty_map]
  split
  · rfl
  · rfl

theorem enumerated_map (f : String → String) : ∀ texts : List String,
    enumerated (texts.map f) = (enumerated texts).map (·.mapData f)
  | [] => rfl
  | [text] => rfl
  | text :: next :: texts => by
    have ih := enumerated_map f (next :: texts)
    simp only [enumerated, List.map_cons, List.intersperse_cons_cons] at ih ⊢
    rw [ih]
    rfl

theorem Draft.ofOthers_mapTexts (hf : ∀ text, f text = "" ↔ text = "") (m : Metadata) :
    ofOthers (m.mapTexts f) = (ofOthers m).map (·.mapData f) := by
  have hnames : (m.indexes.map (·.mapTexts f)).map (·.name) = (m.indexes.map (·.name)).map f := by
    rw [List.map_map, List.map_map]
    rfl
  unfold ofOthers
  rw [List.map_append, List.map_append, List.map_append, mapData_draftUnlessEmpty, mapData_draftUnlessEmpty,
    mapData_draftUnlessEmpty]
  congr 1
  · congr 1
    · congr 1
      · simp [Metadata.mapTexts, ConstraintRow.mapTexts, Function.comp_def]
      · rw [Metadata.mapTexts, List.isEmpty_map, hnames, enumerated_map]
        split
        · rfl
        · rfl
    · simp [Metadata.mapTexts, PolicyRow.mapTexts, dataOr_map hf, Function.comp_def]
  · simp [Metadata.mapTexts, TriggerRow.mapTexts, Function.comp_def]

theorem found_mapTexts (f : String → String) (i : Inspection) : (i.mapTexts f).found = i.found := by
  simp only [Inspection.found, Inspection.mapTexts, List.isEmpty_map]

theorem headlineWords_mapTexts (f : String → String) (i : Inspection) :
    headlineWords (i.mapTexts f) = headlineWords i := by
  unfold headlineWords
  rw [found_mapTexts]
  simp only [Inspection.mapTexts, Metadata.mapTexts, List.length_map]

/-- An inspection of other data is drafted as before, with the other data. -/
theorem Draft.ofInspection_mapTexts (hf : ∀ text, f text = "" ↔ text = "") (i : Inspection) :
    ofInspection (i.mapTexts f) = (ofInspection i).map (·.mapData f) := by
  have hothers : ofOthers (i.mapTexts f).snapshot.metadata = _ := ofOthers_mapTexts hf i.snapshot.metadata
  unfold ofInspection
  rw [found_mapTexts, headlineWords_mapTexts, hothers]
  split
  · simp [mapData, Inspection.mapTexts, Column.mapTexts, Function.comp_def]
  · rfl

end Display

end SchemaAudit

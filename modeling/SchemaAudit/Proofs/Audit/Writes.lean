import SchemaAudit.Proofs.Audit.Ending
import SchemaAudit.Proofs.Audit.Preparation
import SchemaAudit.Proofs.Json.Received

/-! # Reports told and reports written

A run tells the reports of its tables whether they were written or refused (`Audit.run_eq_ok_iff`). Those that were written
are in their files when the run is over, as long as no table comes twice (`Audit.holds_of_runWrites`), and the file of a
report has just what other programs receive of it (`Artifacts.Holds.shows`). -/

namespace SchemaAudit

open Json (Readable depthLimit received)

variable {s s' : FileStore} {path : Path} {r : Report} {stamp contractSource schemaSource : String} {depth : Nat}
  {printed : Json}

/-! ### Reports and their files -/

/-- What a report has for other programs, and what its file has, under names of their own. -/
def Report.names : List String := ["tableName", "missing", "extraneous", "mismatched", "status", "error"]

/-- A file that has the same of a report as a printed value, in which the members stand in order. -/
def FileStore.Shows [StandIns] (s : FileStore) (path : Path) (printed : Json) : Prop :=
  ∃ document, s.json? path = some document ∧
    ∀ name ∈ Report.names, ∃ value, document.get? name = some value ∧ printed.get? name = some value.sorted

namespace Artifact

/-- A report's document has the report's members. -/
theorem get?_report {name : String} (h : name ∈ Report.names) :
    (report stamp r contractSource schemaSource).get? name = r.members.lookup name := by
  simp only [Report.names, List.mem_cons, List.not_mem_nil, or_false] at h
  rcases h with rfl | rfl | rfl | rfl | rfl | rfl <;> rfl

theorem exists_lookup_members {name : String} (h : name ∈ Report.names) : ∃ value, r.members.lookup name = some value := by
  simp only [Report.names, List.mem_cons, List.not_mem_nil, or_false] at h
  rcases h with rfl | rfl | rfl | rfl | rfl | rfl
  · exact ⟨_, rfl⟩
  · exact ⟨_, rfl⟩
  · exact ⟨_, rfl⟩
  · exact ⟨_, rfl⟩
  · exact ⟨_, rfl⟩
  · exact ⟨_, rfl⟩

/-- The texts of a document that was written have bytes. -/
theorem inUtf8_of_outsideUtf8?_text [StandIns] {document : Json} (h : Readable false depth document)
    (ht : Text.outsideUtf8? (text document) = none) : document.InUtf8 := by
  have hchars := Text.outsideUtf8?_eq_none_iff.mp ht
  have hvalue : ∀ c ∈ Json.valueText ⟨false, true⟩ 0 document, Text.isStandIn c = false := by
    intro c hc
    rw [text, Json.toText, String.toList_ofList] at hchars
    exact hchars c (List.mem_append_left _ hc)
  exact h.inUtf8_of_valueText hvalue

end Artifact

/-- A report of which each member is received as it is. -/
def Report.Whole [StandIns] (r : Report) : Prop := ∀ m ∈ r.members, Readable true depthLimit m.2

theorem Report.whole_of_inUtf8 [StandIns] (h : (Artifact.report stamp r contractSource schemaSource).InUtf8) :
    r.Whole := by
  have readable : Readable true (depthLimit + 1) (Artifact.report stamp r contractSource schemaSource) :=
    (Artifact.readable_report stamp r contractSource schemaSource).of_inUtf8 h
  intro m hm
  cases readable with
  | obj names whole members => exact members m (List.mem_append_left _ (List.mem_append_right _ hm))

/-- A report that was written has no text without bytes. -/
theorem Artifacts.whole_of_writeReport [StandIns] {a : Artifacts}
    (h : (a.writeReport s r contractSource schemaSource).2 = .ok path) : r.Whole := by
  rcases a.writeReport_cases s r contractSource schemaSource with ⟨outside, -, hw⟩ | ⟨-, saved, hsaved, ends⟩
  · rw [hw] at h
    cases h
  · generalize (a.writeReport s r contractSource schemaSource).1 = s' at ends
    cases ends with
    | refused => cases hsaved.symm.trans h
    | spoilt => cases hsaved.symm.trans h
    | stopped => cases hsaved.symm.trans h
    | written made below place encodable takes =>
      have readable : Readable false depthLimit (Artifact.report a.stamp r contractSource schemaSource) :=
        Artifact.readable_report a.stamp r contractSource schemaSource
      exact Report.whole_of_inUtf8 (Artifact.inUtf8_of_outsideUtf8?_text readable encodable)

theorem Report.nodup_members (r : Report) : (r.members.map (·.1)).Nodup := by
  have hnames : r.members.map (·.1) = Report.names := rfl
  rw [hnames]
  decide

/-- A whole report has in its file what is received of it. -/
theorem Artifacts.Holds.shows [StandIns] {a : Artifacts} (h : a.Holds s r) (whole : r.Whole)
    (hprinted : received r.toJson = some printed) (hpath : a.reportPath r.table = .ok path) : s.Shows path printed := by
  obtain ⟨own, stamp, contractSource, schemaSource, hown, hbytes⟩ := h
  cases hown.symm.trans hpath
  have readable : Readable false depthLimit (Artifact.report stamp r contractSource schemaSource) :=
    Artifact.readable_report stamp r contractSource schemaSource
  have htext := FileStore.readText_of_readBytes hbytes (Artifact.carriageReturn_not_mem_text readable)
  refine ⟨_, FileStore.json?_eq_some_iff.mpr ⟨_, htext, Artifact.parse_text readable⟩, fun name hname => ?_⟩
  obtain ⟨value, hvalue⟩ := Artifact.exists_lookup_members (r := r) hname
  refine ⟨value, (Artifact.get?_report hname).trans hvalue, ?_⟩
  rw [Json.get?_received r.nodup_members hprinted, hvalue, Option.bind_some]
  exact (whole _ (mem_of_lookup hvalue)).received_eq

/-! ### Notes of refused reports -/

/-- The note taken of a report that could not be written. -/
def Artifacts.refusalNote [StandIns] (r : Report) (fault : WriteFault) : Note :=
  .plain .error .audit s!"Could not write report for table '{r.table}': {fault.failure.message}"

namespace Audit

variable {σ : Type} {a : Audit σ} {d : Desk σ} {table : String} {tables : List String} {fault : WriteFault}

/-- A report that is written or refused leaves a note, behind those that were there. -/
theorem exists_notes_persist [StandIns] (a : Audit σ) (d : Desk σ) (r : Report) :
    ∃ more, (a.persist d r).1.notes = d.notes ++ more ∧
    ∀ fault, (a.artifacts.writeReport d.store r a.contracts.name a.schemas.name).2 = .error fault →
      fault.isRefusal = true → Artifacts.refusalNote r fault ∈ more := by
  unfold persist
  rcases a.artifacts.writeReport d.store r a.contracts.name a.schemas.name with ⟨s, fault | path⟩
  · dsimp only
    split
    · refine ⟨_, rfl, fun fault' hfault _ => ?_⟩
      cases hfault
      exact List.mem_singleton_self _
    · rename_i hno
      refine ⟨[], (List.append_nil _).symm, fun fault' hfault hrefusal => ?_⟩
      cases hfault
      exact absurd hrefusal hno
  · exact ⟨_, rfl, nofun⟩

theorem notes_concludeTable (table : String) (report : Report) (p : Desk σ × Except Failure Unit) :
    p.1.notes <+: (concludeTable table report p).1.notes := by
  rcases p with ⟨d, f | ⟨⟨⟩⟩⟩
  · exact List.prefix_rfl
  · exact List.prefix_append _ _

/-- The audit of a table keeps the notes, and adds one if its report is refused. -/
theorem notes_auditTable [StandIns] (a : Audit σ) (d : Desk σ) (table : String) :
    d.notes <+: (a.auditTable d table).1.notes ∧
    ∀ fault, a.written d table = .error fault → fault.isRefusal = true →
      Artifacts.refusalNote (a.reportOf d table) fault ∈ (a.auditTable d table).1.notes := by
  obtain ⟨more, hmore, refused⟩ := a.exists_notes_persist
    (d.noting (verdictNotes table (a.compareTable d.store d.memory table))) (a.reportOf d table)
  have concluded := notes_concludeTable table (a.reportOf d table)
    (a.persist (d.noting (verdictNotes table (a.compareTable d.store d.memory table))) (a.reportOf d table))
  rw [hmore] at concluded
  refine ⟨?_, fun fault hfault hrefusal => ?_⟩
  · refine List.IsPrefix.trans ?_ concluded
    rw [Desk.noting, List.append_assoc]
    exact List.prefix_append _ _
  · exact concluded.subset (List.mem_append_right _ (refused fault hfault hrefusal))

end Audit

/-! ### Tables one after another -/

namespace Audit

variable {σ : Type} {a : Audit σ} {d : Desk σ} {table : String} {tables : List String} {given : Option (List String)}

/-- The tables that are audited one after another, each with the desk at which it is audited. -/
def visits [StandIns] (a : Audit σ) (d : Desk σ) : List String → List (Desk σ × String)
  | [] => []
  | table :: tables => (d, table) :: a.visits (a.auditTable d table).1 tables

/-- The report of a table at a desk, with what comes of writing it. -/
def write [StandIns] (a : Audit σ) (visit : Desk σ × String) : Report × Except WriteFault Path :=
  (a.reportOf visit.1 visit.2, a.written visit.1 visit.2)

/-- The reports of tables that are audited one after another, each with what comes of writing it. -/
def writes [StandIns] (a : Audit σ) (d : Desk σ) (tables : List String) : List (Report × Except WriteFault Path) :=
  (a.visits d tables).map a.write

theorem writes_cons [StandIns] : a.writes d (table :: tables) =
    (a.reportOf d table, a.written d table) :: a.writes (a.auditTable d table).1 tables := rfl

theorem tables_visits [StandIns] (a : Audit σ) (d : Desk σ) (tables : List String) :
    (a.visits d tables).map (·.2) = tables := by
  induction tables generalizing d with
  | nil => rfl
  | cons table tables ih => rw [visits, List.map_cons, ih]

/-- Tables that are audited one after another come to their reports if each of these is written or refused. -/
theorem auditTables_eq_ok_iff [StandIns] {reports : List Report} : (a.auditTables d tables).2 = .ok reports ↔
    reports = (a.writes d tables).map (·.1) ∧ ∀ write ∈ a.writes d tables, WrittenOrRefused write.2 := by
  induction tables generalizing d reports with
  | nil =>
    constructor
    · intro h
      cases h
      exact ⟨rfl, nofun⟩
    · rintro ⟨rfl, -⟩
      rfl
  | cons table tables ih =>
    rw [auditTables_cons_eq_ok_iff, writes_cons, List.forall_mem_cons]
    constructor
    · rintro ⟨r, rs, hr, hrs, rfl⟩
      obtain ⟨rfl, hw⟩ := auditTable_eq_ok_iff.mp hr
      obtain ⟨rfl, hws⟩ := ih.mp hrs
      exact ⟨rfl, hw, hws⟩
    · rintro ⟨rfl, hw, hws⟩
      exact ⟨_, _, auditTable_eq_ok_iff.mpr ⟨rfl, hw⟩, ih.mpr ⟨rfl, hws⟩, rfl⟩

theorem store_auditTables_cons [StandIns] : (a.auditTables d (table :: tables)).1.store =
    (a.auditTables (a.auditTable d table).1 tables).1.store := by
  rw [auditTables]

theorem notes_auditTables_cons [StandIns] : (a.auditTables d (table :: tables)).1.notes =
    (a.auditTables (a.auditTable d table).1 tables).1.notes := by
  rw [auditTables]

theorem notes_auditTables [StandIns] (a : Audit σ) (d : Desk σ) (tables : List String) :
    d.notes <+: (a.auditTables d tables).1.notes := by
  induction tables generalizing d with
  | nil => exact List.prefix_rfl
  | cons table tables ih =>
    rw [notes_auditTables_cons]
    exact (a.notes_auditTable d table).1.trans (ih _)

/-- Of every report that is refused there is a note in the end. -/
theorem refusalNote_mem_of_writes [StandIns] {fault : WriteFault} (h : (r, .error fault) ∈ a.writes d tables)
    (hrefusal : fault.isRefusal = true) : Artifacts.refusalNote r fault ∈ (a.auditTables d tables).1.notes := by
  induction tables generalizing d with
  | nil => cases h
  | cons table tables ih =>
    rw [notes_auditTables_cons]
    rcases List.mem_cons.mp h with heq | hrest
    · obtain ⟨rfl, hwritten⟩ := Prod.mk.inj heq
      exact (a.notes_auditTables _ tables).subset ((a.notes_auditTable d table).2 fault hwritten.symm hrefusal)
    · exact ih hrest

/-- The file of a report is left alone by the audits of other tables. -/
theorem holds_auditTables [StandIns]
    (named : a.contracts.Named) (h : a.artifacts.Holds d.store r) (hno : r.table ∉ tables) :
    a.artifacts.Holds (a.auditTables d tables).1.store r := by
  induction tables generalizing d with
  | nil => exact h
  | cons table tables ih =>
    rw [List.mem_cons, not_or] at hno
    rw [store_auditTables_cons]
    refine ih (h.of_untouched ?_) hno.2
    rw [(a.auditTable_kept d table).1]
    refine Artifacts.untouched_report_of_writeReport ?_
    rw [table_verdict named]
    exact Ne.symm hno.1

/-- A written report is whole, and held in the end. -/
theorem holds_of_writes [StandIns] (named : a.contracts.Named) (distinct : tables.Nodup)
    (h : (r, .ok path) ∈ a.writes d tables) :
    a.artifacts.reportPath r.table = .ok path ∧ r.Whole ∧ a.artifacts.Holds (a.auditTables d tables).1.store r := by
  induction tables generalizing d with
  | nil => cases h
  | cons table tables ih =>
    rw [List.nodup_cons] at distinct
    rw [store_auditTables_cons]
    rcases List.mem_cons.mp h with heq | hrest
    -- the file written here is safe from the rest of the run, since no later table is this one
    · obtain ⟨rfl, hwritten⟩ := Prod.mk.inj heq
      have htable : (a.reportOf d table).table = table := table_verdict named
      refine ⟨?_, Artifacts.whole_of_writeReport hwritten.symm, holds_auditTables named ?_ ?_⟩
      · exact Artifacts.path_of_keep hwritten.symm
      · rw [(a.auditTable_kept d table).1]
        exact Artifacts.holds_of_writeReport hwritten.symm
      · rw [htable]
        exact distinct.1
    · exact ih distinct.2 hrest

/-- The tables of a run, each with the desk at which it is audited. -/
def runVisits [StandIns] (a : Audit σ) (d : Desk σ) (given : Option (List String)) : List (Desk σ × String) :=
  a.runWith d given (fun _ _ => []) fun d tables => a.visits (d.noting [startNote tables]) tables

/-- The reports of a run, each with what comes of writing it. -/
def runWrites [StandIns] (a : Audit σ) (d : Desk σ) (given : Option (List String)) :
    List (Report × Except WriteFault Path) :=
  (a.runVisits d given).map a.write

theorem runVisits_of_success [StandIns] (htarget : (a.target d.store given).result = .ok tables)
    (hprepare : (a.schemas.prepare d.store d.memory).2.result = .ok ()) :
    a.runVisits d given = a.visits ((a.asked d given).noting [startNote tables]) tables :=
  runWith_of_success htarget hprepare _ _

theorem runWrites_of_success [StandIns] (htarget : (a.target d.store given).result = .ok tables)
    (hprepare : (a.schemas.prepare d.store d.memory).2.result = .ok ()) :
    a.runWrites d given = a.writes ((a.asked d given).noting [startNote tables]) tables :=
  congrArg (List.map a.write) (runVisits_of_success htarget hprepare)

/-- Each table of a run is audited, in order. -/
theorem tables_runVisits [StandIns] (htarget : (a.target d.store given).result = .ok tables)
    (hprepare : (a.schemas.prepare d.store d.memory).2.result = .ok ()) :
    (a.runVisits d given).map (·.2) = tables := by
  rw [runVisits_of_success htarget hprepare, tables_visits]

/-- A run comes to a summary if its tables are known, its schema source is ready and each report is written or refused;
the summary is that of the reports. -/
theorem run_eq_ok_iff [StandIns] {summary : Summary} : (a.run d given).2 = .ok summary ↔
    (∃ tables, (a.target d.store given).result = .ok tables) ∧
    (a.schemas.prepare d.store d.memory).2.result = .ok () ∧ summary.reports = (a.runWrites d given).map (·.1) ∧
    ∀ write ∈ a.runWrites d given, WrittenOrRefused write.2 := by
  cases htarget : (a.target d.store given).result with
  | error f =>
    rw [run, runWith_of_no_target htarget]
    simp
  | ok tables =>
    cases hprepare : (a.schemas.prepare d.store d.memory).2.result with
    | error f =>
      rw [run, runWith_of_failure htarget hprepare]
      simp
    | ok =>
      rw [run, runWith_of_success htarget hprepare, runWrites_of_success htarget hprepare, runPrepared_result,
        ← auditTables_eq_ok_iff]
      cases (a.auditTables ((a.asked d given).noting [startNote tables]) tables).2 with
      | error f => simp [Except.map]
      | ok reports =>
        obtain ⟨own⟩ := summary
        simp [Except.map]

/-- A run over tables leaves their store, and keeps the notes taken of them. -/
theorem runPrepared_kept [StandIns] (a : Audit σ) (d : Desk σ) (tables : List String) :
    (a.runPrepared d tables).1.store = (a.auditTables (d.noting [startNote tables]) tables).1.store ∧
    (tables ≠ [] → (a.auditTables (d.noting [startNote tables]) tables).1.notes <+: (a.runPrepared d tables).1.notes) := by
  unfold runPrepared
  cases tables with
  | nil => exact ⟨rfl, fun hne => absurd rfl hne⟩
  | cons table tables =>
    rw [if_neg (by simp)]
    rcases a.auditTables (d.noting [startNote (table :: tables)]) (table :: tables) with ⟨d', f | reports⟩
    · exact ⟨rfl, fun _ => List.prefix_rfl⟩
    · exact ⟨rfl, fun _ => List.prefix_append _ _⟩

/-- The reports that a run wrote are held in the end. -/
theorem holds_of_runWrites [StandIns] (named : a.contracts.Named) (distinct : tables.Nodup)
    (htarget : (a.target d.store given).result = .ok tables)
    (hprepare : (a.schemas.prepare d.store d.memory).2.result = .ok ())
    (h : (r, .ok path) ∈ a.runWrites d given) :
    a.artifacts.reportPath r.table = .ok path ∧ r.Whole ∧ a.artifacts.Holds (a.run d given).1.store r := by
  rw [runWrites_of_success htarget hprepare] at h
  rw [run, runWith_of_success htarget hprepare, (a.runPrepared_kept _ _).1]
  exact holds_of_writes named distinct h

/-- Of every report of a run that is refused there is a note in the end. -/
theorem refusalNote_mem_of_runWrites [StandIns]
    {fault : WriteFault} (htarget : (a.target d.store given).result = .ok tables)
    (hprepare : (a.schemas.prepare d.store d.memory).2.result = .ok ())
    (h : (r, .error fault) ∈ a.runWrites d given) (hrefusal : fault.isRefusal = true) :
    Artifacts.refusalNote r fault ∈ (a.run d given).1.notes := by
  rw [runWrites_of_success htarget hprepare] at h
  rw [run, runWith_of_success htarget hprepare]
  have hne : tables ≠ [] := by
    rintro rfl
    cases h
  exact ((a.runPrepared_kept _ _).2 hne).subset (refusalNote_mem_of_writes h hrefusal)

/-- A source that fails for a table is told of in the table's report. -/
theorem error_of_fails {f : Failure} (h : a.Fails d table f) : ∃ f', a.Fails d table f' ∧
    (a.reportOf d table).error = some f'.reported := by
  obtain ⟨-, herror, -⟩ := ends_failed_iff.mpr ⟨f, h⟩
  obtain ⟨error, herror⟩ := Option.isSome_iff_exists.mp herror
  obtain ⟨f', hf', rfl⟩ := fails_of_error herror
  exact ⟨f', hf', herror⟩

end Audit

end SchemaAudit

import SchemaAudit.Proofs.CommandLine.Printed
import SchemaAudit.Proofs.CommandLine.SavedFile

/-! # Answers in every case that is foreseen

A command for other programs answers with one object whenever its own document can be written and whatever it reads can be
read, or cannot for a reason that it expects; a failure to read is told in the object (`CommandLine.answers_of_foreseen`).
The reports of an audit are written as far as the system lets them be: one that is refused is noted in the log, and the
object is the same. -/

namespace SchemaAudit.CommandLine

open Json (Printable FewDigits received)

/-! ### What is foreseen -/

/-- An end with one object for other programs, and with one of two exit codes. -/
structure Outcome.AnswersWith [StandIns] (o : Outcome) (members : List (String × Json)) (code : Nat) : Prop where
  output : o.output = documentText (.obj members)
  printed : ∃ read, o.printed? = some (.obj read)
  ending : o.ending = .exit code
  code : code = 0 ∨ code = 1

namespace Session

variable {se : Session} {saved : Option Path} {f : Failure}

/-- A document that can be read, or cannot for a reason that is expected: a file that loading has an answer for, or a
store that fails in no other way. -/
def Foresees [StandIns] (se : Session) : Option Path → Prop
  | some path => se.around.store.Answers path
  | none => ∀ client f, se.settings.client = .ok client → (se.around.fetch client).result = .error f →
      f.kind.isExpected = true

/-- What becomes of the document of a snapshot. -/
def snapshotWrite [StandIns] (se : Session) (o : SnapshotOrder) : FileStore × Except WriteFault Path :=
  match (se.diagnostics o.snapshotFile).result with
  | .ok d => (se.artifacts o.reportDir).writeSnapshot se.around.store (some d) (some d.counts) none
  | .error f => (se.artifacts o.reportDir).writeSnapshot se.around.store none none (some f.message)

/-- What becomes of the document of an inspection. -/
def inspectionWrite [StandIns] (se : Session) (o : InspectOrder) : FileStore × Except WriteFault Path :=
  match (se.diagnostics o.snapshotFile).result with
  | .ok d => (se.artifacts o.reportDir).writeInspection se.around.store o.table (some (d.inspect o.table)) none
  | .error f => (se.artifacts o.reportDir).writeInspection se.around.store o.table none (some f.message)

/-- A snapshot whose document can be written. -/
structure SnapshotForeseen [StandIns] (se : Session) (o : SnapshotOrder) : Prop where
  read : se.Foresees o.snapshotFile
  written : ∃ path, (se.snapshotWrite o).2 = .ok path
  few : ∀ d, (se.diagnostics o.snapshotFile).result = .ok d → d.rows < 10 ^ Json.digitLimit

/-- An inspection whose document can be written. -/
structure InspectionForeseen [StandIns] (se : Session) (o : InspectOrder) : Prop where
  read : se.Foresees o.snapshotFile
  written : ∃ path, (se.inspectionWrite o).2 = .ok path

/-- An audit whose tables are known and whose reports are each written or refused. If its sides are not there, the record
of that can be written; if its schema cannot be read, the record is written or refused. -/
structure AuditForeseen [StandIns] (se : Session) (o : AuditOrder) : Prop where
  absolute : ∀ path, firstWord o.registry se.settings.registry = some path → path.toList.head? ≠ some '.'
  told : ∀ f, (se.sides o).result = .error f →
    ∃ path, ((se.artifacts o.reportDir).writeRunFailure se.around.store f.message (targets o)).2 = .ok path
  read : o.source = .live → se.Foresees o.snapshotFile
  tables : ∀ a, se.Audits o a → ∃ tables, (a.target se.around.store (targets o)).result = .ok tables ∧
    tables.length < 10 ^ Json.digitLimit
  recorded : ∀ a tables f, se.Audits o a → (a.target se.around.store (targets o)).result = .ok tables →
    (a.schemas.prepare se.around.store .new).2.result = .error f →
    WrittenOrRefused (a.record (se.desk o) tables f).2
  reported : ∀ a, se.Audits o a → ∀ write ∈ a.runWrites (se.desk o) (targets o), WrittenOrRefused write.2

/-- An order that comes to nothing that is not foreseen. -/
def Foreseen [StandIns] (se : Session) : Order → Prop
  | .audit o => se.AuditForeseen o
  | .snapshot o => se.SnapshotForeseen o
  | .inspect o => se.InspectionForeseen o

/-- A failure to read what an order is about. -/
def FailsToRead [StandIns] (se : Session) (f : Failure) : Order → Prop
  | .audit o => (se.sides o).result = .error f ∨
      ∃ a, se.Audits o a ∧ (a.schemas.prepare se.around.store .new).2.result = .error f
  | .snapshot o => (se.diagnostics o.snapshotFile).result = .error f
  | .inspect o => (se.diagnostics o.snapshotFile).result = .error f

/-! ### Failures to read -/

theorem isExpected_of_isConfiguration (h : f.kind.isConfiguration = true) : f.kind.isExpected = true := by
  cases hkind : f.kind <;> simp_all [FailureKind.isConfiguration, FailureKind.isExpected]

theorem isExpected_of_diagnostics [StandIns]
    (foreseen : se.Foresees saved) (h : (se.diagnostics saved).result = .error f) :
    f.kind.isExpected = true := by
  cases saved with
  | some path =>
    change (Diagnostics.load se.around.store path).mapError _ = _ at h
    cases hload : Diagnostics.load se.around.store path with
    | ok d =>
      rw [hload] at h
      cases h
    | error fault =>
      rw [hload] at h
      cases h
      exact SavedFault.isExpected_of_answers foreseen hload
  | none =>
    unfold diagnostics at h
    cases hclient : se.settings.client with
    | error own =>
      rw [hclient] at h
      cases h
      exact isExpected_of_isConfiguration (isConfiguration_of_client hclient)
    | ok client =>
      rw [hclient] at h
      exact foreseen client f hclient h

theorem error_of_prepare {fetched : Told Diagnostics} (h : (Feed.prepare fetched .new).2.result = .error f) :
    fetched.result = .error f := by
  unfold Feed.prepare at h
  dsimp only [Feed.new] at h
  cases hresult : fetched.result with
  | error own =>
    rw [hresult] at h
    cases h
    rfl
  | ok d =>
    rw [hresult] at h
    cases h

theorem isExpected_of_prepare [StandIns] {o : AuditOrder} {a : Audit Feed} (audits : se.Audits o a)
    (foreseen : o.source = .live → se.Foresees o.snapshotFile)
    (h : (a.schemas.prepare se.around.store .new).2.result = .error f) : f.kind.isExpected = true := by
  have consults := consults_of_schemaSource (sides_eq_ok audits.sides).2
  generalize a.schemas = schemas at consults h
  cases consults with
  | manifests m => cases h
  | @saved path live file =>
    have foreseen := foreseen live
    rw [file] at foreseen
    have hload : (se.diagnostics (some path)).result = .error f := error_of_prepare h
    exact isExpected_of_diagnostics foreseen hload
  | store live unsaved configured =>
    have foreseen := foreseen live
    rw [unsaved] at foreseen
    exact foreseen _ f configured (error_of_prepare h)

/-! ### Single commands -/

variable {store : FileStore} {notes : List Note} {what : String} {code : Nat} {r : Reply}
  {members : List (String × Json)} {o : AuditOrder} {a : Audit Feed}

theorem answersWith_answered [StandIns]
    (hjson : se.json = true) (goes : r.GoesWith code) (hdocument : r.document = .obj members)
    (few : Printable true FewDigits Json.depthLimit r.document) :
    (se.answered store notes code r).AnswersWith members code where
  output := by rw [output_answered hjson, hdocument]
  printed := by
    obtain ⟨v, hv⟩ := few.exists_received
    have hprinted : (se.answered store notes code r).printed? = some v :=
      (Outcome.printed?_eq_some_iff few (output_answered hjson)).mpr hv
    rw [hdocument] at hv
    obtain ⟨read, rfl⟩ := Json.exists_obj_of_received hv
    exact ⟨read, hprinted⟩
  ending := ending_answered
  code := by
    obtain ⟨v, hv⟩ := few.exists_received
    rcases goes.exit hv with ⟨hcode, -⟩ | ⟨hcode, -⟩
    · exact Or.inl hcode
    · exact Or.inr hcode

/-- An answer that tells of a failure, behind some words of the command. -/
def Tells (f : Failure) (members : List (String × Json)) (code : Nat) : Prop :=
  code = 1 ∧ ∃ words, members = [("status", .str "FAIL"), ("error", .str (words ++ f.message))]

theorem answersWith_failure [StandIns] (hjson : se.json = true) (message : String) :
    (se.answered store notes 1 (.ofFailure message)).AnswersWith [("status", .str "FAIL"), ("error", .str message)] 1 :=
  answersWith_answered hjson (.failure message) rfl (Reply.printable_ofFailure message)

theorem afterWriting_of_written [StandIns]
    {written : FileStore × Except WriteFault Path} {reply : Path → Reply} {path : Path}
    (h : written.2 = .ok path) : se.afterWriting notes what written code reply =
      se.answered written.1 (notes ++ [Artifacts.savedNote what path]) code (reply path) := by
  obtain ⟨store, outcome⟩ := written
  cases h
  rfl

theorem fewDigits_counts {d : Diagnostics} (few : d.rows < 10 ^ Json.digitLimit) :
    ∀ n ∈ d.counts.numbers, FewDigits n := by
  have few_of {n : Int} (h : Json.Readable false 0 (.int n)) : FewDigits n := by
    cases h with
    | int few => exact few
  have readable : Json.Readable false 1 d.counts.toJson := Diagnostics.readable_counts few
  cases readable with
  | obj names whole readable =>
    simp only [List.forall_mem_cons] at readable
    obtain ⟨tables, columns, constraints, indexes, policies, triggers, functions, procedures, -⟩ := readable
    simp only [Counts.numbers, List.forall_mem_cons]
    exact ⟨few_of tables, few_of columns, few_of constraints, few_of indexes, few_of policies, few_of triggers,
      few_of functions, few_of procedures, List.forall_mem_nil _⟩

theorem snapshot_answers [StandIns] {o : SnapshotOrder} (hjson : se.json = true) (foreseen : se.SnapshotForeseen o) :
    ∃ members code, (se.snapshot o).AnswersWith members code ∧
      ∀ f, (se.diagnostics o.snapshotFile).result = .error f → Tells f members code := by
  obtain ⟨read, ⟨path, hpath⟩, few⟩ := foreseen
  rw [snapshotWrite] at hpath
  cases hresult : (se.diagnostics o.snapshotFile).result with
  | ok d =>
    rw [hresult] at hpath
    rw [snapshot_of_success hresult, afterWriting_of_written hpath]
    exact ⟨_, 0, answersWith_answered hjson (.counts d.counts path) rfl
      (Reply.printable_ofCounts (fewDigits_counts (few d hresult))), nofun⟩
  | error f =>
    rw [hresult] at hpath
    rw [snapshot_of_failure hresult, if_pos (isExpected_of_diagnostics read hresult), afterWriting_of_written hpath]
    refine ⟨_, 1, answersWith_failure hjson _, fun f' hf => ?_⟩
    cases hf
    exact ⟨rfl, _, rfl⟩

theorem inspect_answers [StandIns] {o : InspectOrder} (hjson : se.json = true) (foreseen : se.InspectionForeseen o) :
    ∃ members code, (se.inspect o).AnswersWith members code ∧
      ∀ f, (se.diagnostics o.snapshotFile).result = .error f → Tells f members code := by
  obtain ⟨read, path, hpath⟩ := foreseen
  rw [inspectionWrite] at hpath
  cases hresult : (se.diagnostics o.snapshotFile).result with
  | ok d =>
    rw [hresult] at hpath
    rw [inspect_of_success hresult, afterWriting_of_written hpath]
    exact ⟨_, _, answersWith_answered hjson (.inspection (d.inspect o.table) path) rfl
      (Reply.printable_ofInspection _ path), nofun⟩
  | error f =>
    rw [hresult] at hpath
    rw [inspect_of_failure hresult, if_pos (isExpected_of_diagnostics read hresult), afterWriting_of_written hpath]
    refine ⟨_, 1, answersWith_failure hjson _, fun f' hf => ?_⟩
    cases hf
    exact ⟨rfl, _, rfl⟩

theorem fewDigits_summary {summary : Summary} (few : summary.total < 10 ^ Json.digitLimit) :
    ∀ n ∈ Reply.summaryNumbers summary, FewDigits n := by
  have hadds := total_eq_passed_add_failed summary
  simp only [Reply.summaryNumbers, List.forall_mem_cons]
  exact ⟨fewDigits_of_lt few, fewDigits_of_lt (by omega), fewDigits_of_lt (by omega), List.forall_mem_nil _⟩

/-- An audit of which the sides are there and the schema can be read answers with the summary of its reports, whatever
came of writing them. -/
theorem audit_answers_summary [StandIns]
    (hjson : se.json = true) (foreseen : se.AuditForeseen o) (audits : se.Audits o a)
    (hprepare : (a.schemas.prepare se.around.store .new).2.result = .ok ()) :
    ∃ code, (se.audit o).AnswersWith
      (Reply.summaryMembers ⟨(a.runWrites (se.desk o) (targets o)).map (·.1)⟩) code ∧
      ∀ r fault, (r, .error fault) ∈ a.runWrites (se.desk o) (targets o) →
        Artifacts.refusalNote r fault ∈ (se.audit o).notes := by
  obtain ⟨tables, htarget, fewTables⟩ := foreseen.tables a audits
  have hresult : (a.run (se.desk o) (targets o)).2 = .ok ⟨(a.runWrites (se.desk o) (targets o)).map (·.1)⟩ :=
    Audit.run_eq_ok_iff.mpr ⟨⟨tables, htarget⟩, hprepare, rfl, foreseen.reported a audits⟩
  have haudit := audit_of_summary audits (Prod.ext rfl hresult)
  rw [haudit]
  refine ⟨_, answersWith_answered hjson (.summary _ _) rfl (Reply.printable_ofSummary (fewDigits_summary ?_)), ?_⟩
  · have htables : ((a.runVisits (se.desk o) (targets o)).map (·.2)).length = tables.length :=
      congrArg List.length (Audit.tables_runVisits htarget hprepare)
    rw [List.length_map] at htables
    rw [Summary.total, List.length_map, Audit.runWrites, List.length_map, htables]
    exact fewTables
  · intro r fault hmem
    rw [notes_answered]
    exact Audit.refusalNote_mem_of_runWrites htarget hprepare hmem (foreseen.reported a audits _ hmem fault rfl)

/-- An audit that cannot read what it is about answers with the failure. -/
theorem audit_answers_failure [StandIns] (hjson : se.json = true) (foreseen : se.AuditForeseen o)
    (h : se.FailsToRead f (.audit o)) : ∃ members code, (se.audit o).AnswersWith members code ∧ Tells f members code := by
  rcases h with hsides | ⟨a, audits, hprepare⟩
  · obtain ⟨path, hpath⟩ := foreseen.told f hsides
    rw [audit_of_no_sides hsides, if_pos (isConfiguration_of_sides hsides foreseen.absolute),
      afterWriting_of_written hpath]
    exact ⟨_, 1, answersWith_failure hjson _, rfl, "", by rw [String.empty_append]⟩
  · obtain ⟨tables, htarget, -⟩ := foreseen.tables a audits
    have hexpected := isExpected_of_prepare audits foreseen.read hprepare
    have recorded := foreseen.recorded a tables f audits htarget hprepare
    have unprepared : a.Unprepared (se.desk o) (targets o) tables f := ⟨htarget, hprepare, hexpected⟩
    have hrun := unprepared.tellsOf.told.mpr recorded
    rw [audit_of_failure audits (Prod.ext rfl hrun), if_pos hexpected]
    exact ⟨_, 1, answersWith_failure hjson _, rfl, _, rfl⟩

end Session

/-! ### Runs -/

variable {around : Surroundings} {words : List String} {se : Session} {order : Order}

/-- An answer that tells the reports of an audit, whatever came of writing them: each table has its report, in which every
failure of a source is told, and each report that was refused is noted. -/
structure TellsReports [StandIns] (se : Session) (o : AuditOrder) (a : Audit Feed) (members : List (String × Json))
    (notes : List Note) : Prop where
  members : members = Reply.summaryMembers ⟨(a.runWrites (se.desk o) (Session.targets o)).map (·.1)⟩
  visited : (a.target se.around.store (Session.targets o)).result =
    .ok ((a.runVisits (se.desk o) (Session.targets o)).map (·.2))
  failures : ∀ visit ∈ a.runVisits (se.desk o) (Session.targets o), ∀ f, a.Fails visit.1 visit.2 f →
    ∃ f', a.Fails visit.1 visit.2 f' ∧ (a.reportOf visit.1 visit.2).error = some f'.reported
  refusals : ∀ r fault, (r, .error fault) ∈ a.runWrites (se.desk o) (Session.targets o) →
    Artifacts.refusalNote r fault ∈ notes

theorem Session.failsToRead_unique [StandIns]
    {f f' : Failure} (h : se.FailsToRead f order) (h' : se.FailsToRead f' order) :
    f = f' := by
  cases order with
  | audit o =>
    rcases h with hsides | ⟨a, audits, hprepare⟩
    · rcases h' with hsides' | ⟨a', audits', -⟩
      · cases hsides.symm.trans hsides'
        rfl
      · cases hsides.symm.trans audits'.sides
    · rcases h' with hsides' | ⟨a', audits', hprepare'⟩
      · cases hsides'.symm.trans audits.sides
      · obtain rfl := audits.unique audits'
        cases hprepare.symm.trans hprepare'
        rfl
  | snapshot o =>
    cases Eq.trans (Eq.symm h) h'
    rfl
  | inspect o =>
    cases Eq.trans (Eq.symm h) h'
    rfl

theorem Session.not_failsToRead [StandIns] {o : AuditOrder} {a : Audit Feed} {f : Failure} (audits : se.Audits o a)
    (hprepare : (a.schemas.prepare se.around.store .new).2.result = .ok ()) : ¬ se.FailsToRead f (.audit o) := by
  rintro (hsides | ⟨a', audits', hprepare'⟩)
  · cases hsides.symm.trans audits.sides
  · obtain rfl := audits.unique audits'
    cases hprepare.symm.trans hprepare'

/-- An audit answers with its failure to read, or with its reports. -/
theorem Session.audit_answers [StandIns] {o : AuditOrder} (hjson : se.json = true) (foreseen : se.AuditForeseen o) :
    ∃ members code, (se.audit o).AnswersWith members code ∧
      (∀ f, se.FailsToRead f (.audit o) → Tells f members code) ∧
      ∀ a, se.Audits o a → (a.schemas.prepare se.around.store .new).2.result = .ok () →
        TellsReports se o a members (se.audit o).notes := by
  by_cases hread : ∃ f, se.FailsToRead f (.audit o)
  -- an order has one failure to read at most, so telling this one tells every one
  · obtain ⟨f, hf⟩ := hread
    obtain ⟨members, code, answers, tells⟩ := audit_answers_failure hjson foreseen hf
    refine ⟨members, code, answers, fun f' hf' => ?_, fun a audits hprepare => absurd hf (not_failsToRead audits hprepare)⟩
    rw [failsToRead_unique hf' hf]
    exact tells
  · rcases se.audits_or_fails o with ⟨a, audits⟩ | ⟨f, hsides⟩
    · cases hprepare : (a.schemas.prepare se.around.store .new).2.result with
      | error f => exact absurd ⟨f, Or.inr ⟨a, audits, hprepare⟩⟩ hread
      | ok =>
        obtain ⟨code, answers, refusals⟩ := audit_answers_summary hjson foreseen audits hprepare
        obtain ⟨tables, htarget, -⟩ := foreseen.tables a audits
        refine ⟨_, code, answers, fun f hf => absurd ⟨f, hf⟩ hread, fun a' audits' _ => ?_⟩
        obtain rfl := audits.unique audits'
        refine ⟨rfl, ?_, fun visit _ f hf => Audit.error_of_fails hf, refusals⟩
        rw [htarget]
        exact congrArg Except.ok (Audit.tables_runVisits htarget hprepare).symm
    · exact absurd ⟨f, Or.inl hsides⟩ hread

theorem AnswersWith.of_obey [StandIns] {members : List (String × Json)} {code : Nat} (asks : Asks around words se order)
    (h : (se.obey order).AnswersWith members code) : (run around words).AnswersWith members code where
  output := asks.output.trans h.output
  printed := by
    rw [asks.printed?]
    exact h.printed
  ending := asks.ending.trans h.ending
  code := h.code

/-- A store with a file where the directory for documents would be. -/
def crammed : FileStore where
  nodes := [(["w"], .directory), (["w", "out"], .file [])]
  here := ["w"]

theorem writeReport_crammed : (Artifacts.nearby.writeReport crammed ghostReport "registry" "manifest").2 =
    .error (.file (.refused .notDirectory ⟨"", ["out", "consistency"]⟩)) := by
  have blocked : crammed.ensureDirectories Artifacts.nearby.consistency =
      (crammed, .error (.refused .notDirectory ⟨"", ["out", "consistency"]⟩)) :=
    FileStore.ensureDirectories_refused rfl (Or.inr fun _ => nofun)
  rw [Artifacts.writeReport, Artifacts.reportPath_eq, inUtf8_iff.mp inUtf8_ghostReport.table]
  dsimp only
  rw [Artifacts.keep_ok, FileStore.save_of_blocked (Artifact.isPlain_reportFile _) blocked]
  rfl

theorem foreseen_ghost {s : FileStore} {settings : Settings} :
    Session.AuditForeseen ⟨ghostly s, settings, true⟩ ghostOrder where
  absolute := by
    rintro path ⟨⟩
    exact nofun
  told f h := by
    cases (audits_ghost s settings).sides.symm.trans h
  read := nofun
  tables a audits := by
    obtain rfl := (audits_ghost s settings).unique audits
    exact ⟨["ghost"], rfl, Nat.one_lt_pow (by decide) (by decide)⟩
  recorded a tables f audits _ h := by
    obtain rfl := (audits_ghost s settings).unique audits
    cases h
  reported a audits := by
    obtain rfl := (audits_ghost s settings).unique audits
    rw [runWrites_ghost, List.forall_mem_singleton]
    exact writtenOrRefused_ghost s

/-- A command for other programs to which nothing happens that is not foreseen answers with one object and one of two exit
codes. A failure to read what the command is about is told in the object. The object of an audit tells the reports of all
tables, whatever came of writing them. -/
theorem answers_of_foreseen [StandIns]
    (asks : Asks around words se order) (hjson : se.json = true) (foreseen : se.Foreseen order) :
    ∃ members code, (run around words).AnswersWith members code ∧
      (∀ f, se.FailsToRead f order → Session.Tells f members code) ∧
      ∀ o a, order = .audit o → se.Audits o a → (a.schemas.prepare se.around.store .new).2.result = .ok () →
        TellsReports se o a members (run around words).notes := by
  cases order with
  | audit o =>
    obtain ⟨members, code, answers, tells, reports⟩ := Session.audit_answers hjson foreseen
    refine ⟨members, code, AnswersWith.of_obey asks answers, tells, ?_⟩
    rintro o' a heq audits hprepare
    cases heq
    obtain ⟨hmembers, visited, failures, refusals⟩ := reports a audits hprepare
    refine ⟨hmembers, visited, failures, fun r fault hmem => ?_⟩
    rw [asks.run]
    exact List.mem_cons_of_mem _ (refusals r fault hmem)
  | snapshot o =>
    obtain ⟨members, code, answers, tells⟩ := Session.snapshot_answers hjson foreseen
    exact ⟨members, code, AnswersWith.of_obey asks answers, tells, fun o' a heq => Order.noConfusion heq⟩
  | inspect o =>
    obtain ⟨members, code, answers, tells⟩ := Session.inspect_answers hjson foreseen
    exact ⟨members, code, AnswersWith.of_obey asks answers, tells, fun o' a heq => Order.noConfusion heq⟩

/-- A run whose report is refused answers, and notes the refusal. -/
theorem answers_of_foreseen_crammed : ∃ code,
    (run (ghostly crammed) ghostWords).AnswersWith (Reply.summaryMembers ⟨[ghostReport]⟩) code ∧
    Artifacts.refusalNote ghostReport (.file (.refused .notDirectory ⟨"", ["out", "consistency"]⟩)) ∈
      (run (ghostly crammed) ghostWords).notes := by
  obtain ⟨settings, style, hconfigure⟩ : ∃ settings style,
      configure (ghostly crammed) ⟨true, none⟩ = .ok (settings, style) := ⟨_, _, rfl⟩
  have audits := audits_ghost crammed settings
  obtain ⟨members, code, answers, -, reports⟩ := answers_of_foreseen (asks_ghost hconfigure) rfl foreseen_ghost
  obtain ⟨hmembers, -, -, refusals⟩ := reports ghostOrder _ rfl audits rfl
  rw [runWrites_ghost] at hmembers refusals
  refine ⟨code, hmembers ▸ answers, refusals _ _ ?_⟩
  rw [← writeReport_crammed]
  exact List.mem_singleton_self _

/-- A report that is refused is not told to other programs: the run answers as it does when the report is written. -/
theorem refused_report_untold : (∃ se a, Asks (ghostly crammed) ghostWords se (.audit ghostOrder) ∧
      se.json = true ∧ se.Audits ghostOrder a ∧ a.runWrites (se.desk ghostOrder) (Session.targets ghostOrder) =
        [(ghostReport, .error (.file (.refused .notDirectory ⟨"", ["out", "consistency"]⟩)))]) ∧
    (∃ se a, Asks (ghostly Artifacts.nearbyStore) ghostWords se (.audit ghostOrder) ∧
      se.json = true ∧ se.Audits ghostOrder a ∧ a.runWrites (se.desk ghostOrder) (Session.targets ghostOrder) =
        [(ghostReport, .ok (Artifacts.nearby.consistency.child (Artifact.reportFile "ghost")))]) ∧
    (run (ghostly crammed) ghostWords).output = (run (ghostly Artifacts.nearbyStore) ghostWords).output ∧
    (run (ghostly crammed) ghostWords).ending = (run (ghostly Artifacts.nearbyStore) ghostWords).ending := by
  obtain ⟨settings, style, hconfigure⟩ : ∃ settings style,
      configure (ghostly crammed) ⟨true, none⟩ = .ok (settings, style) := ⟨_, _, rfl⟩
  obtain ⟨settings', style', hconfigure'⟩ : ∃ settings style,
      configure (ghostly Artifacts.nearbyStore) ⟨true, none⟩ = .ok (settings, style) := ⟨_, _, rfl⟩
  have asks := asks_ghost hconfigure
  have asks' := asks_ghost hconfigure'
  obtain ⟨store, notes, haudit⟩ := audit_ghost crammed settings
  obtain ⟨store', notes', haudit'⟩ := audit_ghost Artifacts.nearbyStore settings'
  refine ⟨⟨_, _, asks, rfl, audits_ghost crammed settings, ?_⟩,
    ⟨_, _, asks', rfl, audits_ghost Artifacts.nearbyStore settings', ?_⟩, ?_, ?_⟩
  · rw [runWrites_ghost, ← writeReport_crammed]
    rfl
  · rw [runWrites_ghost, ← writeReport_nearby]
    rfl
  · rw [asks.output, asks'.output, Session.obey_audit, Session.obey_audit, haudit, haudit',
      Session.output_answered rfl, Session.output_answered rfl]
  · rw [asks.ending, asks'.ending, Session.obey_audit, Session.obey_audit, haudit, haudit',
      Session.ending_answered, Session.ending_answered]

end SchemaAudit.CommandLine

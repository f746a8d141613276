import SchemaAudit.Proofs.Audit.Abort
import SchemaAudit.Proofs.CommandLine.Answer
import SchemaAudit.Proofs.Diagnostics.Words

/-! # Runs and commands over a saved file

A failure to load a file calls a run off and ends a command in words, as long as loading has an answer for the file: the
run is recorded, and the command tells what failed once it has written its document. With any other failure nothing is
written, and the run and the command fall over. -/

namespace SchemaAudit

variable {s : FileStore} {path : Path} {fault : SavedFault}

/-! ### Failures that are expected -/

theorem SavedFault.isExpected_of_answers [StandIns]
    (answers : s.Answers path) (h : Diagnostics.load s path = .error fault) :
    fault.failure.kind.isExpected = true := by
  obtain ⟨e, he⟩ := Diagnostics.exists_isOf s path
  have htells := Diagnostics.tells_of_isOf he
  rw [h] at htells
  cases e with
  | document =>
    obtain ⟨d, hd⟩ := htells
    cases hd
  | refused =>
    obtain ⟨fault', hfault, hkind⟩ := htells
    cases hfault
    rw [hkind]
    rfl
  | misshapen =>
    obtain ⟨fault', hfault, hkind⟩ := htells
    cases hfault
    rw [hkind]
    rfl
  | unforeseen => exact absurd answers he

theorem SavedFault.isExpected_of_not_answers [StandIns]
    (h : ¬ s.Answers path) (hload : Diagnostics.load s path = .error fault) :
    fault.failure.kind.isExpected = false := by
  obtain ⟨fault', name, hfault, hkind⟩ := Diagnostics.exists_load_unexpected h
  cases hload.symm.trans hfault
  rw [hkind]
  rfl

/-! ### Runs -/

namespace Audit

variable {a : Audit Feed} {d : Desk Feed} {given : Option (List String)} {tables : List String}

/-- A run for some tables against a file that is yet to be loaded. -/
structure Awaits [StandIns]
    (a : Audit Feed) (d : Desk Feed) (given : Option (List String)) (path : Path) (tables : List String) :
    Prop where
  schemas : a.schemas = .ofSaved path
  memory : d.memory = .new
  target : (a.target d.store given).result = .ok tables

theorem Awaits.prepare [StandIns]
    (h : a.Awaits d given path tables) (hload : Diagnostics.load d.store path = .error fault) :
    (a.schemas.prepare d.store d.memory).2.result = .error fault.failure := by
  rw [h.schemas, h.memory]
  change (Feed.prepare (Told.quiet ((Diagnostics.load d.store path).mapError _)) .new).2.result = _
  rw [hload]
  rfl

end Audit

namespace CommandLine.Session

variable {se : Session}

/-- A command that ended by telling of a failure. -/
def Reports [StandIns] (se : Session) (o : Outcome) (words : String) : Prop :=
  ∃ store notes, o = se.answered store notes 1 (.ofFailure words)

/-- A command that fell over and left the files as they were. -/
structure FallsOver (o : Outcome) (s : FileStore) (f : Failure) : Prop where
  ending : o.ending = .failed f
  store : o.store = s

theorem not_reports_broken [StandIns] {store : FileStore} {notes : List Note} {f : Failure} {words : String} :
    ¬ se.Reports (broken store notes f) words := by
  rintro ⟨store', notes', h⟩
  have hending := congrArg Outcome.ending h
  rw [ending_answered] at hending
  cases hending

/-- A command that has to write a document tells of the failure exactly if the document was written. -/
theorem reports_afterWriting_iff [StandIns]
    {notes : List Note} {what words : String} {written : FileStore × Except WriteFault Path} :
    se.Reports (se.afterWriting notes what written 1 fun _ => .ofFailure words) words ↔ ∃ p, written.2 = .ok p := by
  obtain ⟨store, fault | p⟩ := written
  · exact ⟨fun h => absurd h not_reports_broken, fun ⟨p, hp⟩ => nomatch hp⟩
  · exact ⟨fun _ => ⟨p, rfl⟩, fun _ => ⟨_, _, rfl⟩⟩

theorem diagnostics_of_saved [StandIns] {file : Option Path} (hfile : file = some path)
    (hload : Diagnostics.load se.around.store path = .error fault) :
    (se.diagnostics file).result = .error fault.failure := by
  rw [hfile]
  change ((Diagnostics.load se.around.store path).mapError _) = _
  rw [hload]
  rfl

/-- An order for an audit that names a file, with its contracts there, and comes to some tables. -/
structure Awaits [StandIns]
    (se : Session) (o : AuditOrder) (contracts : ContractSource) (path : Path) (tables : List String) :
    Prop where
  live : o.source = .live
  file : o.snapshotFile = some path
  sources : (se.contractSource o ⟨o.manifestDir.getD se.settings.manifestDir, se.settings.manifestTemplate⟩).result =
    .ok contracts
  target : (Audit.target ⟨contracts, .ofSaved path, se.artifacts o.reportDir⟩ se.around.store (targets o)).result =
    .ok tables

variable {o : AuditOrder} {contracts : ContractSource} {tables : List String}

theorem Awaits.sides [StandIns] (h : se.Awaits o contracts path tables) :
    (se.sides o).result = .ok (contracts, .ofSaved path) := by
  have hschema : se.schemaSource o ⟨o.manifestDir.getD se.settings.manifestDir, se.settings.manifestTemplate⟩ =
      .ok (.ofSaved path) := by rw [schemaSource, h.live, h.file]
  unfold Session.sides
  simp only [h.live, reduceCtorEq, decide_false, Bool.false_and, Bool.false_eq_true, if_false, Told.result_bind,
    Told.result_pure, h.sources, hschema, Told.quiet, Except.bind]

theorem Awaits.run [StandIns] (h : se.Awaits o contracts path tables) :
    Audit.Awaits ⟨contracts, .ofSaved path, se.artifacts o.reportDir⟩ (se.desk o) (targets o) path tables :=
  ⟨rfl, rfl, h.target⟩

theorem Awaits.audits [StandIns] (h : se.Awaits o contracts path tables) :
    se.Audits o ⟨contracts, .ofSaved path, se.artifacts o.reportDir⟩ := ⟨h.sides, rfl⟩

end CommandLine.Session

open CommandLine (Session)

/-- A fault that is met with words: a run against the file is called off by it as far as its record is written or
refused, as it is for texts in UTF-8, and each command tells of it as far as the command's document is written. -/
structure SavedFault.Reported [StandIns] (fault : SavedFault) (s : FileStore) (path : Path) : Prop where
  run : ∀ (a : Audit Feed) (d : Desk Feed) given tables, d.store = s → a.Awaits d given path tables →
    (a.CalledOff d given tables fault.failure ↔
      WrittenOrRefused (a.artifacts.writeRunFailure s fault.failure.message (some tables)).2)
  recorded : ∀ (a : Audit Feed) (d : Desk Feed) given tables, d.store = s → a.Awaits d given path tables →
    a.artifacts.directory.IsSendable → (∀ text ∈ a.artifacts.stamp :: path.text :: tables, InUtf8 text) →
    a.CalledOff d given tables fault.failure
  audit : ∀ (se : Session) o contracts tables, se.around.store = s → se.Awaits o contracts path tables →
    (se.Reports (se.audit o) ("Audit aborted: " ++ fault.failure.message) ↔
      WrittenOrRefused ((se.artifacts o.reportDir).writeRunFailure s fault.failure.message (some tables)).2)
  snapshot : ∀ (se : Session) o, se.around.store = s → o.snapshotFile = some path →
    (se.Reports (se.snapshot o) ("Snapshot failed: " ++ fault.failure.message) ↔
      ∃ p, ((se.artifacts o.reportDir).writeSnapshot s none none (some fault.failure.message)).2 = .ok p)
  inspect : ∀ (se : Session) o, se.around.store = s → o.snapshotFile = some path →
    (se.Reports (se.inspect o) ("Inspection failed: " ++ fault.failure.message) ↔
      ∃ p, ((se.artifacts o.reportDir).writeInspection s o.table none (some fault.failure.message)).2 = .ok p)

/-- A fault that nothing meets: it ends runs and commands, and nothing is written of it. -/
structure SavedFault.Escapes [StandIns] (fault : SavedFault) (s : FileStore) (path : Path) : Prop where
  run : ∀ (a : Audit Feed) (d : Desk Feed) given tables, d.store = s → a.Awaits d given path tables →
    (a.run d given).2 = .error fault.failure ∧ (a.run d given).1.store = s
  audit : ∀ (se : Session) o contracts tables, se.around.store = s → se.Awaits o contracts path tables →
    Session.FallsOver (se.audit o) s fault.failure
  snapshot : ∀ (se : Session) o, se.around.store = s → o.snapshotFile = some path →
    Session.FallsOver (se.snapshot o) s fault.failure
  inspect : ∀ (se : Session) o, se.around.store = s → o.snapshotFile = some path →
    Session.FallsOver (se.inspect o) s fault.failure

theorem SavedFault.reported_of_answers [StandIns]
    (answers : s.Answers path) (hload : Diagnostics.load s path = .error fault) :
    fault.Reported s path where
  run a d given tables hstore h := by
    subst hstore
    exact Audit.calledOff_iff h.target (h.prepare hload) (isExpected_of_answers answers hload)
  recorded a d given tables hstore h hdirectory htexts := by
    subst hstore
    simp only [List.forall_mem_cons] at htexts
    obtain ⟨hstamp, hpath, htables⟩ := htexts
    exact (Audit.calledOff_iff h.target (h.prepare hload) (isExpected_of_answers answers hload)).mpr
      (Artifacts.writeRunFailure_writtenOrRefused hdirectory hstamp (Diagnostics.inUtf8_failure answers hload hpath)
        htables _)
  audit se o contracts tables hstore h := by
    subst hstore
    have hexpected := isExpected_of_answers answers hload
    obtain ⟨-, ⟨hw, htold⟩ | ⟨hw, f, hf, htold⟩⟩ := Audit.run_of_expected h.run.target (h.run.prepare hload) hexpected
    · rw [Session.audit_of_failure h.audits (Prod.ext rfl htold), if_pos hexpected]
      exact ⟨fun _ => hw, fun _ => ⟨_, _, rfl⟩⟩
    · rw [Session.audit_of_failure h.audits (Prod.ext rfl htold), hf]
      exact ⟨fun hreports => absurd hreports Session.not_reports_broken, fun hw' => absurd hw' hw⟩
  snapshot se o hstore ho := by
    subst hstore
    rw [Session.snapshot_of_failure (Session.diagnostics_of_saved ho hload), if_pos (isExpected_of_answers answers hload)]
    exact Session.reports_afterWriting_iff
  inspect se o hstore ho := by
    subst hstore
    rw [Session.inspect_of_failure (Session.diagnostics_of_saved ho hload), if_pos (isExpected_of_answers answers hload)]
    exact Session.reports_afterWriting_iff

theorem SavedFault.escapes_of_not_answers [StandIns]
    (h : ¬ s.Answers path) (hload : Diagnostics.load s path = .error fault) :
    fault.Escapes s path where
  run a d given tables hstore hawaits := by
    subst hstore
    exact Audit.run_of_unexpected hawaits.target (hawaits.prepare hload) (isExpected_of_not_answers h hload)
  audit se o contracts tables hstore hawaits := by
    subst hstore
    have hunexpected := isExpected_of_not_answers h hload
    obtain ⟨hresult, hstore⟩ := Audit.run_of_unexpected hawaits.run.target (hawaits.run.prepare hload) hunexpected
    rw [Session.audit_of_failure hawaits.audits (Prod.ext rfl hresult), hunexpected]
    exact ⟨rfl, hstore⟩
  snapshot se o hstore ho := by
    subst hstore
    rw [Session.snapshot_of_failure (Session.diagnostics_of_saved ho hload), isExpected_of_not_answers h hload]
    exact ⟨rfl, rfl⟩
  inspect se o hstore ho := by
    subst hstore
    rw [Session.inspect_of_failure (Session.diagnostics_of_saved ho hload), isExpected_of_not_answers h hload]
    exact ⟨rfl, rfl⟩

/-- What is told of a file that is loaded is what the file is. A fault that is told of a file is met with words if
loading has an answer for the file, and else escapes. -/
theorem Diagnostics.load_told [StandIns] (s : FileStore) (path : Path) :
    (∀ e : LoadEnding, e.Tells (load s path) ↔ e.IsOf s path) ∧
    ∀ fault, load s path = .error fault →
      (s.Answers path → fault.Reported s path) ∧ (¬ s.Answers path → fault.Escapes s path) :=
  ⟨fun _ => tells_load_iff, fun _ hload =>
    ⟨fun answers => SavedFault.reported_of_answers answers hload, fun h => SavedFault.escapes_of_not_answers h hload⟩⟩

/-- A store with two files, of which one holds a byte that starts no character and the other nothing at all. -/
def Diagnostics.unloadable : FileStore where
  nodes := [(["w"], .directory), (["w", "out"], .directory), (["w", "d.json"], .file [0xff]), (["w", "e.json"], .file [])]
  here := ["w"]

/-- An audit against one of the files. -/
def Diagnostics.against [StandIns] (name : String) :
    Audit Feed := ⟨.ofRegistry ⟨[]⟩, .ofSaved ⟨"", [name]⟩, Artifacts.nearby⟩

/-- A run against the first file falls over, and one against the second is called off. -/
theorem Diagnostics.load_told_unloadable :
    ((against "d.json").run ⟨unloadable, .new, []⟩ (some ["t"])).2 = .error (.unexpected "UnicodeDecodeError"
      "'utf-8' codec can't decode byte 0xff in position 0: invalid start byte") ∧
    (against "e.json").CalledOff ⟨unloadable, .new, []⟩ (some ["t"]) ["t"] ⟨.shape,
      "Diagnostics snapshot e.json is not valid JSON: Expecting value: line 1 column 1 (char 0)"⟩ := by
  constructor
  · have hload : load unloadable ⟨"", ["d.json"]⟩ = .error (.notUtf8 ⟨.invalidStart, 0xff, 0, 0⟩) := by
      refine load_of_undecodable rfl ?_
      rw [Text.decodeUtf8, Text.decodeFrom]
      rfl
    obtain ⟨htells, hfaults⟩ := load_told unloadable ⟨"", ["d.json"]⟩
    have hno : ¬ unloadable.Answers ⟨"", ["d.json"]⟩ := (htells .unforeseen).mp ⟨_, _, hload, rfl⟩
    exact (((hfaults _ hload).2 hno).run (against "d.json") ⟨unloadable, .new, []⟩ (some ["t"]) ["t"] rfl
      ⟨rfl, rfl, rfl⟩).1
  · have hread : unloadable.readText ⟨"", ["e.json"]⟩ = .ok [] :=
      FileStore.readText_of_readBytes rfl List.not_mem_nil
    have hload : load unloadable ⟨"", ["e.json"]⟩ = .error (.notJson ⟨"", ["e.json"]⟩ ⟨.expectedValue, ⟨0, 1, 1⟩⟩) := by
      rw [load_of_readText hread]
      rfl
    have answers : unloadable.Answers ⟨"", ["e.json"]⟩ := by
      refine ⟨Path.isSendable_of_ascii rfl rfl, fun bytes hbytes => ?_, fun text e htext he hlimit => ?_⟩
      · cases hbytes
        exact ⟨[], rfl⟩
      · cases hread.symm.trans htext
        cases he
        exact hlimit
    obtain ⟨-, hfaults⟩ := load_told unloadable ⟨"", ["e.json"]⟩
    refine ((hfaults _ hload).1 answers).recorded (against "e.json") ⟨unloadable, .new, []⟩ (some ["t"]) ["t"] rfl
      ⟨rfl, rfl, rfl⟩ (Path.isSendable_of_ascii rfl rfl) ?_
    simp only [List.forall_mem_cons]
    exact ⟨inUtf8_of_ascii (by decide), inUtf8_of_ascii (by decide), inUtf8_of_ascii (by decide),
      List.forall_mem_nil _⟩

end SchemaAudit

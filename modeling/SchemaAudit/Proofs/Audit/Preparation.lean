import SchemaAudit.Proofs.Artifact.Sequence
import SchemaAudit.Proofs.Audit.Abort
import SchemaAudit.Proofs.Audit.Pool

/-! # Before the first table

Everything that a run may touch is settled by whether its schema source can be made ready. If it cannot, the run comes to
none of its tables, with any number of workers, and touches no file but its own record (`Audit.unprepared_audits_nothing`).
If it can, the run touches no files but reports (`Pool.onlyReports_of_play?`), and so the record of an earlier run is
left where it is. -/

namespace SchemaAudit

variable {σ : Type} {a : Audit σ} {d d' : Desk σ} {given : Option (List String)} {tables : List String} {f : Failure}
  {workers : Nat}

/-! ### Files of reports -/

namespace Artifacts

variable {w : Artifacts} {s s' s'' : FileStore} {table : String}

/-- A place where the report of some table goes. -/
def IsReport [StandIns] (w : Artifacts) (s : FileStore) (q : Place) : Prop :=
  ∃ table, s.place (w.consistency.child (Artifact.reportFile table)) = .ok q

/-- A store in which nothing was touched but reports. -/
def OnlyReports [StandIns] (w : Artifacts) (s s' : FileStore) : Prop := FileStore.Kept (w.IsReport s') s s'

theorem OnlyReports.refl [StandIns] (w : Artifacts) (s : FileStore) : w.OnlyReports s s := FileStore.Kept.refl s

/-- A place of a report stays one, since its path keeps its place. -/
theorem OnlyReports.trans [StandIns] (h : w.OnlyReports s s') (g : w.OnlyReports s' s'') : w.OnlyReports s s'' := by
  have later (q : Place) (hq : w.IsReport s' q) : w.IsReport s'' q := by
    obtain ⟨table, hplace⟩ := hq
    exact ⟨table, FileStore.Kept.place g hplace⟩
  exact FileStore.Kept.trans (FileStore.Kept.mono h later) g

theorem onlyReports_of_writeReport [StandIns]
    (w : Artifacts) (s : FileStore) (r : Report) (contractSource schemaSource : String) :
    w.OnlyReports s (w.writeReport s r contractSource schemaSource).1 := by
  rcases w.writeReport_cases s r contractSource schemaSource with ⟨outside, -, hw⟩ | ⟨-, saved, -, ends⟩
  · rw [hw]
    exact OnlyReports.refl w s
  · exact ends.kept.mono fun q hq => ⟨r.table, hq⟩

theorem onlyReports_of_ensureDirectories [StandIns] (w : Artifacts) (s : FileStore) (p : Path) :
    w.OnlyReports s (s.ensureDirectories p).1 :=
  (FileStore.ensureDirectories_kept s p).mono fun _ hq => hq.elim

/-- The record of a failed run is no report. -/
theorem OnlyReports.untouched_runFailure [StandIns] (h : w.OnlyReports s s') :
    FileStore.Untouched w.runFailurePath s s' := by
  refine ⟨fun q hq => FileStore.Kept.place h hq, FileStore.Kept.locked h, fun q hq => ?_⟩
  refine FileStore.Kept.file h q fun ⟨table, hown⟩ => ?_
  exact FileStore.place_child_ne (Artifact.isPlain_reportFile table) isPlain_runFailure
    (Artifact.reportFile_ne_runFailure table) hown hq rfl

end Artifacts

/-! ### Schedules -/

namespace Audit

theorem onlyReports_of_persistAs [StandIns] (a : Audit σ) (reception : Reception) (d : Desk σ) (r : Report) :
    a.artifacts.OnlyReports d.store (a.persistAs reception d r).1.store := by
  have written : a.artifacts.OnlyReports d.store (a.persist d r).1.store := by
    rw [(a.persist_eq d r).1]
    exact a.artifacts.onlyReports_of_writeReport _ _ _ _
  cases reception with
  | asStored => exact written
  | refused refusal path made =>
    unfold persistAs
    rcases hpersist : a.persist d r with ⟨d', f | ⟨⟨⟩⟩⟩
    · rw [hpersist] at written
      exact written
    · cases made with
      | true => exact a.artifacts.onlyReports_of_ensureDirectories d.store a.artifacts.consistency
      | false => exact Artifacts.OnlyReports.refl _ _

end Audit

namespace Pool

variable {p p' : Pool σ}

/-- A move touches nothing but reports. -/
theorem Moved.onlyReports [StandIns] {m : Move} (h : Moved a workers p m p') :
    a.artifacts.OnlyReports p.desk.store p'.desk.store := by
  cases h with
  | take free next => exact Artifacts.OnlyReports.refl _ _
  | compare taken => exact Artifacts.OnlyReports.refl _ _
  | @finish i table report reception compared =>
    change a.artifacts.OnlyReports p.desk.store
      (Audit.concludeTable table report (a.persistAs reception p.desk report)).1.store
    rw [(Audit.concludeTable_kept table report _).1]
    exact a.onlyReports_of_persistAs reception p.desk report
  | cancel waiting off => exact Artifacts.OnlyReports.refl _ _

theorem onlyReports_of_play? [StandIns] {moves : List Move} (h : p.play? a workers moves = some p') :
    a.artifacts.OnlyReports p.desk.store p'.desk.store := by
  induction moves generalizing p with
  | nil =>
    cases h
    exact Artifacts.OnlyReports.refl _ _
  | cons m moves ih =>
    rw [play?] at h
    obtain ⟨p₁, hstep, hplay⟩ := Option.bind_eq_some_iff.mp h
    exact (moved_of_step? hstep).onlyReports.trans (ih hplay)

end Pool

/-! ### The desk before the tables -/

namespace Audit

/-- A run for some tables whose schema source cannot be made ready, for a reason that is expected. -/
structure Unprepared (a : Audit σ) (d : Desk σ) (given : Option (List String)) (tables : List String) (f : Failure) :
    Prop where
  target : (a.target d.store given).result = .ok tables
  failure : (a.schemas.prepare d.store d.memory).2.result = .error f
  expected : f.kind.isExpected = true

/-- The audit with other answers of its sources about single tables. -/
def answering (a : Audit σ) (contractFor : FileStore → String → Told Contract)
    (snapshotFor : FileStore → σ → String → Told Snapshot) : Audit σ :=
  ⟨{ a.contracts with contractFor := contractFor }, { a.schemas with snapshotFor := snapshotFor }, a.artifacts⟩

/-! ### Runs -/

/-- The record of a run that could not be prepared: the store after it was written, and what came of that. -/
def record [StandIns] (a : Audit σ) (d : Desk σ) (tables : List String) (f : Failure) :
    FileStore × Except WriteFault Path :=
  a.artifacts.writeRunFailure d.store f.message (some tables)

/-- A run that audits nothing. It would be the same if the sources answered otherwise about tables, and is the same on
every schedule; the record is all that it touches. -/
structure AuditsNothing [StandIns] (a : Audit σ) (d : Desk σ) (given : Option (List String)) : Prop where
  unasked : ∀ contractFor snapshotFor, (a.answering contractFor snapshotFor).run d given = a.run d given
  pooled : ∀ limit schedule, a.runPooled? limit schedule d given = some (a.run d given)
  reports : ∀ table, FileStore.Untouched (a.artifacts.consistency.child (Artifact.reportFile table)) d.store
    (a.run d given).1.store
  others : FileStore.Kept (fun q => (a.run d given).1.store.place a.artifacts.runFailurePath = .ok q) d.store
    (a.run d given).1.store

/-- A run that tells of a failure, as far as its record is written or refused by the system. A record that is written has
the words of the failure and the tables of the run. Nothing is touched at all if the file for it is not even opened; if it
was and the record is not written, the file holds the start of it. -/
structure TellsOf [StandIns]
    (a : Audit σ) (d : Desk σ) (given : Option (List String)) (tables : List String) (f : Failure) :
    Prop where
  told : (a.run d given).2 = .error f ↔ WrittenOrRefused (a.record d tables f).2
  escaped : ¬ WrittenOrRefused (a.record d tables f).2 → ∃ f', f'.kind.isExpected = false ∧
    (a.run d given).2 = .error f'
  written : ∀ path, (a.record d tables f).2 = .ok path → path = a.artifacts.runFailurePath ∧
    (a.run d given).1.store.member? path "error" = some (.str f.message) ∧
    (a.run d given).1.store.member? path "targetTables" = some (.arr (tables.map .str))
  refused : ∀ fault, (a.record d tables f).2 = .error (.file fault) →
    ∀ path, FileStore.Untouched path d.store (a.run d given).1.store
  opened : ∀ fault, (a.record d tables f).2 = .error fault → fault.isOpened = true →
    ∃ n, (a.run d given).1.store.readBytes a.artifacts.runFailurePath = .ok ((Text.encodeUtf8
      (Artifact.text (Artifact.runFailure a.artifacts.stamp f.message (some tables)))).take n)

/-- A record in a directory that the system cannot be told of is neither written nor refused. -/
theorem not_writtenOrRefused_record [StandIns]
    {w : Artifacts} (h : ¬ w.directory.IsSendable) (s : FileStore) (error : String)
    (tables : Option (List String)) : ¬ WrittenOrRefused (w.writeRunFailure s error tables).2 := by
  obtain ⟨cause, hsave⟩ := FileStore.save_of_not_isSendable Artifacts.isPlain_runFailure
    (mt Artifacts.isSendable_consistency_iff.mp h) s (Artifact.text (Artifact.runFailure w.stamp error tables))
  have hfault : (w.writeRunFailure s error tables).2 = .error (.file (.unsent cause)) := by
    rw [Artifacts.writeRunFailure, Artifacts.keep_ok, Artifacts.runFailurePath, hsave]
    rfl
  intro hw
  cases hw _ hfault

/-- Of a record whose file was opened and that was not written, the file holds the start. -/
theorem readBytes_of_record_opened [StandIns] {w : Artifacts} {s : FileStore} {error : String} {fault : WriteFault}
    (h : (w.writeRunFailure s error (some tables)).2 = .error fault) (opened : fault.isOpened = true) :
    ∃ n, (w.writeRunFailure s error (some tables)).1.readBytes w.runFailurePath =
      .ok ((Text.encodeUtf8 (Artifact.text (Artifact.runFailure w.stamp error (some tables)))).take n) := by
  obtain ⟨saved, hsaved, ends⟩ := w.writeRunFailure_saves s error (some tables)
  cases saved with
  | ok => cases hsaved.symm.trans h
  | error own =>
    cases hsaved.symm.trans h
    exact ends.readBytes_of_opened opened

namespace Unprepared

theorem store_run [StandIns] (h : a.Unprepared d given tables f) : (a.run d given).1.store = (a.record d tables f).1 :=
  (run_of_expected h.target h.failure h.expected).1

theorem auditsNothing [StandIns] (h : a.Unprepared d given tables f) : a.AuditsNothing d given where
  unasked contractFor snapshotFor := by
    have hother : ((a.answering contractFor snapshotFor).target d.store given).result = .ok tables := by
      cases given with
      | some given => exact h.target
      | none => exact h.target
    have hasked : (a.answering contractFor snapshotFor).asked d given = a.asked d given := by
      cases given with
      | some given => rfl
      | none => rfl
    rw [run, run, runWith_of_failure hother h.failure, runWith_of_failure h.target h.failure, hasked]
    rfl
  pooled limit schedule := by
    rw [runPooled?, run, runWith_of_failure h.target h.failure, runWith_of_failure h.target h.failure]
  reports table := by
    rw [h.store_run]
    exact Artifacts.untouched_report_of_writeRunFailure
  others := by
    rw [h.store_run]
    obtain ⟨saved, -, ends⟩ := a.artifacts.writeRunFailure_saves d.store f.message (some tables)
    exact ends.kept

theorem tellsOf [StandIns] (h : a.Unprepared d given tables f) : a.TellsOf d given tables f where
  told := by
    obtain ⟨-, ⟨hw, htold⟩ | ⟨hw, f', hf', htold⟩⟩ := run_of_expected h.target h.failure h.expected
    · exact ⟨fun _ => hw, fun _ => htold⟩
    · refine ⟨fun hf => ?_, fun hw' => absurd hw' hw⟩
      cases htold.symm.trans hf
      cases hf'.symm.trans h.expected
  escaped hno := by
    obtain ⟨-, ⟨hw, -⟩ | ⟨-, f', hf', htold⟩⟩ := run_of_expected h.target h.failure h.expected
    · exact absurd hw hno
    · exact ⟨f', hf', htold⟩
  written path hpath := by
    obtain ⟨rfl, hjson⟩ := Artifacts.json?_of_keep Artifacts.isPlain_runFailure
      (Artifact.readable_runFailure a.artifacts.stamp f.message (some tables)) (Prod.ext rfl hpath)
    rw [h.store_run]
    unfold FileStore.member?
    refine ⟨rfl, ?_, ?_⟩
    · exact congrArg (·.bind (Json.get? "error")) hjson
    · exact congrArg (·.bind (Json.get? "targetTables")) hjson
  refused fault hfault path := by
    rw [h.store_run]
    exact Artifacts.untouched_of_refused_record hfault path
  opened fault hfault hopened := by
    rw [h.store_run]
    exact readBytes_of_record_opened hfault hopened

end Unprepared

/-- A run whose source is ready touches nothing but reports, on any schedule. -/
theorem onlyReports_of_runPooled? [StandIns] {limit : Int} {schedule : List Move} {result : Except Failure Summary}
    (hprepare : (a.schemas.prepare d.store d.memory).2.result = .ok ())
    (h : a.runPooled? limit schedule d given = some (d', result)) : a.artifacts.OnlyReports d.store d'.store := by
  rw [runPooled?] at h
  cases htarget : (a.target d.store given).result with
  | error f =>
    rw [runWith_of_no_target htarget] at h
    cases h
    exact Artifacts.OnlyReports.refl _ _
  | ok tables =>
    rw [runWith_of_success htarget hprepare] at h
    split at h
    · cases h
      exact Artifacts.OnlyReports.refl _ _
    · obtain ⟨⟨d₁, reports⟩, hpooled, hconclude⟩ := Option.map_eq_some_iff.mp h
      rw [store_of_conclude hconclude]
      unfold auditPooled? at hpooled
      dsimp only at hpooled
      split at hpooled
      · cases hpooled
        exact Artifacts.OnlyReports.refl _ _
      · obtain ⟨p, hplay, hp⟩ := Option.bind_eq_some_iff.mp hpooled
        obtain ⟨reports', -, hdesk⟩ := Option.map_eq_some_iff.mp hp
        cases hdesk
        exact Pool.onlyReports_of_play? hplay

theorem store_run_of_no_tables [StandIns] (hprepare : (a.schemas.prepare d.store d.memory).2.result = .ok ())
    (htarget : (a.target d.store given).result = .ok []) : (a.run d given).1.store = d.store := by
  rw [run, runWith_of_success htarget hprepare]
  rfl

/-- A run whose schema source cannot be made ready audits nothing: it asks for no contract and no snapshot and touches no
report. It tells why, as long as its record is written or the system refuses it, which is so for texts in UTF-8 and a
directory that the system can be told of, and not so for any other directory. A run whose source is ready touches nothing
but reports, with any workers, so that the record of a failed run is left as it is; without tables it touches nothing. -/
theorem unprepared_audits_nothing [StandIns] (a : Audit σ) (d : Desk σ) (given : Option (List String)) :
    (∀ tables f, a.Unprepared d given tables f →
      a.AuditsNothing d given ∧ a.TellsOf d given tables f ∧
      (a.artifacts.directory.IsSendable → (∀ text ∈ a.artifacts.stamp :: f.message :: tables, InUtf8 text) →
        (a.run d given).2 = .error f) ∧
      (¬ a.artifacts.directory.IsSendable → (a.run d given).2 ≠ .error f)) ∧
    ((a.schemas.prepare d.store d.memory).2.result = .ok () →
      (∀ limit schedule d' result, a.runPooled? limit schedule d given = some (d', result) →
        a.artifacts.OnlyReports d.store d'.store ∧ FileStore.Untouched a.artifacts.runFailurePath d.store d'.store) ∧
      FileStore.Untouched a.artifacts.runFailurePath d.store (a.run d given).1.store ∧
      ((a.target d.store given).result = .ok [] → (a.run d given).1.store = d.store)) := by
  refine ⟨fun tables f h => ⟨h.auditsNothing, h.tellsOf, fun hdirectory htexts => ?_, fun hdirectory htold => ?_⟩,
    fun hprepare => ?_⟩
  · simp only [List.forall_mem_cons] at htexts
    obtain ⟨hstamp, hmessage, htables⟩ := htexts
    exact h.tellsOf.told.mpr
      (Artifacts.writeRunFailure_writtenOrRefused hdirectory hstamp hmessage htables d.store)
  · exact not_writtenOrRefused_record hdirectory d.store f.message (some tables) (h.tellsOf.told.mp htold)
  -- a run table by table is a run on one of the schedules, so what holds on all of them holds of it
  · have pooled (limit : Int) (schedule : List Move) (d' : Desk σ) (result : Except Failure Summary)
        (h : a.runPooled? limit schedule d given = some (d', result)) : a.artifacts.OnlyReports d.store d'.store :=
      onlyReports_of_runPooled? hprepare h
    obtain ⟨schedule, hschedule⟩ := a.exists_schedule 1 d given
    exact ⟨fun limit schedule d' result h =>
        ⟨pooled limit schedule d' result h, (pooled limit schedule d' result h).untouched_runFailure⟩,
      (pooled 1 schedule _ _ hschedule).untouched_runFailure, store_run_of_no_tables hprepare⟩

/-- An audit against a store that answers in some way. -/
def answered [StandIns] (fetch : Told Diagnostics) (directory : String) : Audit Feed :=
  ⟨.ofRegistry ⟨[]⟩, .ofStore fetch, ⟨⟨"", [directory]⟩, "2024-01-01T00:00:00+00:00"⟩⟩

/-- A run against a store that is gone tells so, whatever tables it is for; if its directory cannot be named to the
system, something else is told that nobody expects. A run against an empty store leaves the record of such runs alone. -/
theorem unprepared_audits_nothing_gone :
    ((answered (.fail ⟨.connectivity, "gone"⟩) "out").run ⟨Artifacts.nearbyStore, .new, []⟩ (some ["t", "u"])).2 =
      .error ⟨.connectivity, "gone"⟩ ∧
    (∃ f, f.kind.isExpected = false ∧ ((answered (.fail ⟨.connectivity, "gone"⟩) "a\x00b").run
      ⟨Artifacts.nearbyStore, .new, []⟩ (some ["t", "u"])).2 = .error f) ∧
    FileStore.Untouched Artifacts.nearby.runFailurePath Artifacts.nearbyStore
      ((answered (pure ⟨[], [], [], [], [], []⟩) "out").run ⟨Artifacts.nearbyStore, .new, []⟩ none).1.store := by
  refine ⟨?_, ?_, ?_⟩
  · obtain ⟨failing, -⟩ := unprepared_audits_nothing (answered (.fail ⟨.connectivity, "gone"⟩) "out")
      ⟨Artifacts.nearbyStore, .new, []⟩ (some ["t", "u"])
    obtain ⟨-, -, told, -⟩ := failing ["t", "u"] ⟨.connectivity, "gone"⟩ ⟨rfl, rfl, rfl⟩
    refine told (Path.isSendable_of_ascii rfl rfl) ?_
    simp only [List.forall_mem_cons]
    exact ⟨inUtf8_of_ascii (by decide), inUtf8_of_ascii (by decide), inUtf8_of_ascii (by decide),
      inUtf8_of_ascii (by decide), List.forall_mem_nil _⟩
  · obtain ⟨failing, -⟩ := unprepared_audits_nothing (answered (.fail ⟨.connectivity, "gone"⟩) "a\x00b")
      ⟨Artifacts.nearbyStore, .new, []⟩ (some ["t", "u"])
    obtain ⟨-, tells, -⟩ := failing ["t", "u"] ⟨.connectivity, "gone"⟩ ⟨rfl, rfl, rfl⟩
    have unnamed : ¬ (Path.mk "" ["a\x00b"]).IsSendable := by
      unfold Path.IsSendable
      decide
    exact tells.escaped (not_writtenOrRefused_record unnamed _ _ _)
  · obtain ⟨-, ready⟩ := unprepared_audits_nothing (answered (pure ⟨[], [], [], [], [], []⟩) "out")
      ⟨Artifacts.nearbyStore, .new, []⟩ none
    exact (ready rfl).2.1

end Audit

end SchemaAudit

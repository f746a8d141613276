import SchemaAudit.Proofs.Artifact.Encoding

/-! # The directory of reports

However reports and records of failed runs are written one after another, the directory shows for every table the last
report of it that was written, unless a later one opened the same file and failed: `savedReport?_of_writes`. What carries
it is that a write touches no file but its own (`Write.untouched_report`,
`Artifacts.untouched_runFailure_of_writeReport`), and that its own one, once it is open, holds what was written of the
document and nothing of what it held before (`Write.left_apply`). -/

namespace SchemaAudit

/-- A store on another device. -/
def FileStore.on (s : FileStore) (device : Device) : FileStore := { s with stops := device }

/-- A call of the writer, with the time stamp and the device that it finds. -/
inductive Write where
  | report (stamp : String) (device : Device) (r : Report) (contractSource schemaSource : String)
  | runFailure (stamp : String) (device : Device) (error : String) (tables : Option (List String))

/-- What a call that opened its file made of it: it holds the report, or what was written of the document when the call
failed. -/
inductive Write.Ending where
  | written (r : Report)
  | cut (document : Json)

namespace Write

/-- A store after a call, and what the call came to. -/
def apply [StandIns] (a : Artifacts) (s : FileStore) : Write → FileStore × Except WriteFault Path
  | report stamp device r contractSource schemaSource =>
    { a with stamp := stamp }.writeReport (s.on device) r contractSource schemaSource
  | runFailure stamp device error tables => { a with stamp := stamp }.writeRunFailure (s.on device) error tables

/-- Whether a call writes the report of a table. -/
def isReportOf (table : String) : Write → Bool
  | report _ _ r _ _ => r.table = table
  | runFailure _ _ _ _ => false

/-- What a call with some outcome made of the file for a table, if it opened it. A table that has no key has no file. -/
def ending? [StandIns] (table : String) : Write → Except WriteFault Path → Option Ending
  | runFailure _ _ _ _, _ => none
  | report _ _ r _ _, .ok _ => if r.table = table then some (.written r) else none
  | report stamp _ r contractSource schemaSource, .error fault =>
    if fault.isOpened ∧ r.table = table ∧ Text.outsideUtf8? table.toList = none then
      some (.cut (Artifact.report stamp r contractSource schemaSource))
    else none

/-- A store after some calls, and each call with what it came to. -/
def applyAll [StandIns] (a : Artifacts) (s : FileStore) : List Write → FileStore × List (Write × Except WriteFault Path)
  | [] => (s, [])
  | w :: ws => ((applyAll a (w.apply a s).1 ws).1, (w, (w.apply a s).2) :: (applyAll a (w.apply a s).1 ws).2)

/-- What the last one of some calls that opened the file for a table made of it. -/
def lastEnding? [StandIns] (table : String) : List (Write × Except WriteFault Path) → Option Ending
  | [] => none
  | (w, outcome) :: calls => (lastEnding? table calls).or (w.ending? table outcome)

end Write

/-- The report that the file for a table holds: its text read as JSON, and that as a report. -/
def Artifacts.savedReport? [StandIns] (a : Artifacts) (s : FileStore) (table : String) : Option Report :=
  match a.reportPath table with
  | .error _ => none
  | .ok path =>
    match s.readText path with
    | .error _ => none
    | .ok text =>
      match Json.parse text with
      | .error _ => none
      | .ok document =>
        match Report.ofJson document with
        | .bad _ => none
        | .ok r => some r

variable {a : Artifacts} {s : FileStore} {r : Report} {table contractSource schemaSource : String}

/-! ### A write touches no file but its own -/

theorem FileStore.walk_on (s : FileStore) (device : Device) (d : Place) (names : List String) :
    (s.on device).walk d names = s.walk d names := by
  induction names generalizing d with
  | nil => rfl
  | cons name names ih =>
    rw [walk, walk, show (s.on device).node? d = s.node? d from rfl]
    simp only [ih]

theorem FileStore.place_on [StandIns] (s : FileStore) (device : Device) (path : Path) :
    (s.on device).place path = s.place path := by
  rw [place, place, walk_on]
  rfl

theorem FileStore.Untouched.refl [StandIns] (path : Path) (s : FileStore) : Untouched path s s :=
  ⟨fun _ hq => hq, rfl, fun _ _ => rfl⟩

namespace Artifacts

theorem untouched_report_of_writeReport [StandIns] (h : r.table ≠ table) :
    FileStore.Untouched (a.consistency.child (Artifact.reportFile table)) s
      (a.writeReport s r contractSource schemaSource).1 := by
  rcases a.writeReport_cases s r contractSource schemaSource with ⟨outside, -, hw⟩ | ⟨-, saved, -, ends⟩
  · rw [hw]
    exact FileStore.Untouched.refl _ _
  · exact ends.untouched (Artifact.isPlain_reportFile _) (Artifact.isPlain_reportFile _)
      fun heq => h (Artifact.reportFile_injective heq)

theorem untouched_runFailure_of_writeReport [StandIns] :
    FileStore.Untouched a.runFailurePath s (a.writeReport s r contractSource schemaSource).1 := by
  rcases a.writeReport_cases s r contractSource schemaSource with ⟨outside, -, hw⟩ | ⟨-, saved, -, ends⟩
  · rw [hw]
    exact FileStore.Untouched.refl _ _
  · exact ends.untouched (Artifact.isPlain_reportFile _) isPlain_runFailure (Artifact.reportFile_ne_runFailure _)

theorem untouched_report_of_writeRunFailure [StandIns] {error : String} {tables : Option (List String)} :
    FileStore.Untouched (a.consistency.child (Artifact.reportFile table)) s (a.writeRunFailure s error tables).1 := by
  obtain ⟨saved, -, ends⟩ := a.writeRunFailure_saves s error tables
  exact ends.untouched isPlain_runFailure (Artifact.isPlain_reportFile _) (Artifact.reportFile_ne_runFailure _).symm

/-- A report whose file is not opened touches no file at all. -/
theorem untouched_of_refused [StandIns] {fault : FileFault}
    (h : (a.writeReport s r contractSource schemaSource).2 = .error (.file fault)) (path : Path) :
    FileStore.Untouched path s (a.writeReport s r contractSource schemaSource).1 := by
  rcases a.writeReport_cases s r contractSource schemaSource with ⟨outside, -, hw⟩ | ⟨-, saved, hsaved, ends⟩
  · rw [hw] at h
    cases h
  · cases saved with
    | ok => cases hsaved.symm.trans h
    | error own =>
      cases hsaved.symm.trans h
      exact ends.untouched_of_refused path

/-- A record whose file is not opened touches no file at all. -/
theorem untouched_of_refused_record [StandIns] {error : String} {tables : Option (List String)} {fault : FileFault}
    (h : (a.writeRunFailure s error tables).2 = .error (.file fault)) (path : Path) :
    FileStore.Untouched path s (a.writeRunFailure s error tables).1 := by
  obtain ⟨saved, hsaved, ends⟩ := a.writeRunFailure_saves s error tables
  cases saved with
  | ok => cases hsaved.symm.trans h
  | error own =>
    cases hsaved.symm.trans h
    exact ends.untouched_of_refused path

end Artifacts

/-! ### What the file for a table holds -/

/-- The file for the table of a report holds a document of that report. -/
def Artifacts.Holds [StandIns] (a : Artifacts) (s : FileStore) (r : Report) : Prop :=
  ∃ path stamp contractSource schemaSource, a.reportPath r.table = .ok path ∧
    s.readBytes path = .ok (Text.encodeUtf8 (Artifact.text (Artifact.report stamp r contractSource schemaSource)))

/-- The time stamp that documents get is of no account for what is held. -/
theorem Artifacts.Holds.restamp [StandIns] (h : a.Holds s r) (stamp : String) :
    Artifacts.Holds { a with stamp := stamp } s r := h

theorem Artifacts.Holds.savedReport? [StandIns] (h : a.Holds s r) : a.savedReport? s r.table = some r := by
  obtain ⟨path, stamp, contractSource, schemaSource, hpath, hbytes⟩ := h
  have readable : Json.Readable false Json.depthLimit (Artifact.report stamp r contractSource schemaSource) :=
    Artifact.readable_report stamp r contractSource schemaSource
  have htext := FileStore.readText_of_readBytes hbytes (Artifact.carriageReturn_not_mem_text readable)
  simp only [Artifacts.savedReport?, hpath, htext, Artifact.parse_text readable, Artifact.ofJson_report]

theorem Artifacts.holds_of_writeReport [StandIns] {path : Path} {contractSource schemaSource : String}
    (h : (a.writeReport s r contractSource schemaSource).2 = .ok path) :
    a.Holds (a.writeReport s r contractSource schemaSource).1 r := by
  rcases a.writeReport_cases s r contractSource schemaSource with ⟨outside, -, hw⟩ | ⟨hu, saved, hsaved, ends⟩
  · rw [hw] at h
    cases h
  · cases saved with
    | error own => cases hsaved.symm.trans h
    | ok =>
      refine ⟨_, a.stamp, contractSource, schemaSource, ?_, ends.readBytes_self⟩
      rw [reportPath_eq, hu]

/-- Of a report whose file was opened and that was not written, the file holds the start. -/
theorem Artifacts.readBytes_of_writeReport_opened [StandIns] {fault : WriteFault}
    (h : (a.writeReport s r contractSource schemaSource).2 = .error fault) (opened : fault.isOpened = true)
    (hkey : Text.outsideUtf8? r.table.toList = none) :
    ∃ path n, a.reportPath r.table = .ok path ∧ (a.writeReport s r contractSource schemaSource).1.readBytes path =
      .ok ((Text.encodeUtf8 (Artifact.text (Artifact.report a.stamp r contractSource schemaSource))).take n) := by
  rcases a.writeReport_cases s r contractSource schemaSource with ⟨outside, hu, -⟩ | ⟨hu, saved, hsaved, ends⟩
  · cases hkey.symm.trans hu
  · cases saved with
    | ok => cases hsaved.symm.trans h
    | error own =>
      cases hsaved.symm.trans h
      obtain ⟨n, hbytes⟩ := ends.readBytes_of_opened opened
      refine ⟨_, n, ?_, hbytes⟩
      rw [reportPath_eq, hu]

/-- Where a report of a table is held, the file for another one can be opened. -/
theorem Artifacts.Holds.writeReport [StandIns] {r' : Report} (h : a.Holds s r) (htable : r'.table = r.table)
    (hstamp : InUtf8 a.stamp) (hcontract : InUtf8 contractSource) (hschema : InUtf8 schemaSource) (hr : r'.InUtf8) :
    ∃ q, s.placeToWrite (a.consistency.child (Artifact.reportFile r'.table)) = .ok q ∧
      a.writeReport s r' contractSource schemaSource =
        (s.put q (.file (s.taken q (Text.encodeUtf8
          (Artifact.text (Artifact.report a.stamp r' contractSource schemaSource))))),
        (s.taking q (Text.encodeUtf8 (Artifact.text (Artifact.report a.stamp r' contractSource schemaSource)))).map
          fun _ => a.consistency.child (Artifact.reportFile r'.table)) := by
  obtain ⟨path, stamp, contractSource', schemaSource', hpath, hbytes⟩ := h
  rw [eq_of_reportPath hpath, ← htable] at hbytes
  obtain ⟨q, hq, unlocked, hfile⟩ := FileStore.readBytes_eq_ok_iff.mp hbytes
  obtain ⟨d, hd, -⟩ := FileStore.place_child (Artifact.isPlain_reportFile _) hq
  have free : s.node? q ≠ some .directory := by
    rw [FileStore.file?_eq_some_iff.mp hfile]
    exact nofun
  have opened := FileStore.placeToWrite_eq_ok_iff.mpr ⟨hq, free, unlocked⟩
  exact ⟨q, opened, writeReport_of_opened hd opened hstamp hcontract hschema hr⟩

theorem Artifacts.Holds.of_untouched [StandIns] {s' : FileStore} (h : a.Holds s r)
    (hu : FileStore.Untouched (a.consistency.child (Artifact.reportFile r.table)) s s') : a.Holds s' r := by
  obtain ⟨path, stamp, contractSource, schemaSource, hpath, hbytes⟩ := h
  have hown := eq_of_reportPath hpath
  exact ⟨path, stamp, contractSource, schemaSource, hpath, (hown ▸ hu).readBytes hbytes⟩

/-- The file for a table holds what a call made of it. -/
def Artifacts.Left [StandIns] (a : Artifacts) (s : FileStore) (table : String) : Write.Ending → Prop
  | .written r => r.table = table ∧ a.Holds s r
  | .cut document => ∃ path n, a.reportPath table = .ok path ∧
    s.readBytes path = .ok ((Text.encodeUtf8 (Artifact.text document)).take n)

theorem Artifacts.Left.of_untouched [StandIns] {s' : FileStore} {ending : Write.Ending} (h : a.Left s table ending)
    (hu : FileStore.Untouched (a.consistency.child (Artifact.reportFile table)) s s') : a.Left s' table ending := by
  cases ending with
  | written r =>
    obtain ⟨rfl, held⟩ := h
    exact ⟨rfl, held.of_untouched hu⟩
  | cut document =>
    obtain ⟨path, n, hpath, hbytes⟩ := h
    exact ⟨path, n, hpath, (eq_of_reportPath hpath ▸ hu).readBytes hbytes⟩

/-- A table with a file has a path. -/
theorem Artifacts.Left.exists_path [StandIns] {ending : Write.Ending} (h : a.Left s table ending) :
    ∃ path, a.reportPath table = .ok path := by
  cases ending with
  | written r =>
    obtain ⟨rfl, path, -, -, -, hpath, -⟩ := h
    exact ⟨path, hpath⟩
  | cut document =>
    obtain ⟨path, -, hpath, -⟩ := h
    exact ⟨path, hpath⟩

namespace Write

variable {ending : Ending} {path : Path}

/-- Files do not change with the device. -/
theorem untouched_on [StandIns]
    {device : Device} {path : Path} {s' : FileStore} (h : FileStore.Untouched path (s.on device) s') :
    FileStore.Untouched path s s' :=
  ⟨fun q hq => h.place q ((FileStore.place_on s device path).trans hq), h.locked, h.file⟩

/-- A call touches no report but the one it writes. -/
theorem untouched_report [StandIns] {w : Write} {path : Path} (hpath : a.reportPath table = .ok path)
    (h : w.isReportOf table = false) : FileStore.Untouched path s (w.apply a s).1 := by
  rw [Artifacts.eq_of_reportPath hpath]
  cases w with
  | runFailure stamp device error tables =>
    exact untouched_on (Artifacts.untouched_report_of_writeRunFailure (a := { a with stamp := stamp }))
  | report stamp device r contractSource schemaSource =>
    exact untouched_on
      (Artifacts.untouched_report_of_writeReport (a := { a with stamp := stamp }) (of_decide_eq_false h))

/-- A call that opens its file leaves there its document, or the start of it. -/
theorem left_apply [StandIns] {w : Write} (h : w.ending? table (w.apply a s).2 = some ending) :
    a.Left (w.apply a s).1 table ending := by
  cases w with
  | runFailure stamp device error tables => cases h
  | report stamp device r contractSource schemaSource =>
    cases hresult : (apply a s (.report stamp device r contractSource schemaSource)).2 with
    | ok path =>
      rw [hresult, ending?] at h
      split at h
      · cases h
        exact ⟨‹_›, Artifacts.holds_of_writeReport (a := { a with stamp := stamp }) hresult⟩
      · cases h
    | error fault =>
      rw [hresult, ending?] at h
      split at h
      · rename_i hown
        obtain ⟨opened, rfl, hkey⟩ := hown
        cases h
        exact Artifacts.readBytes_of_writeReport_opened (a := { a with stamp := stamp }) hresult opened hkey
      · cases h

/-- A call that does not open the file for a table leaves what is there. -/
theorem left_of_unopened [StandIns] {w : Write} (h : a.Left s table ending) (hpath : a.reportPath table = .ok path)
    (hnone : w.ending? table (w.apply a s).2 = none) : a.Left (w.apply a s).1 table ending := by
  cases hown : w.isReportOf table with
  | false => exact h.of_untouched (Artifacts.eq_of_reportPath hpath ▸ untouched_report hpath hown)
  | true =>
    cases w with
    | runFailure stamp device error tables => cases hown
    | report stamp device r contractSource schemaSource =>
      have htable : r.table = table := of_decide_eq_true hown
      have hkey : Text.outsideUtf8? table.toList = none := Artifacts.outsideUtf8?_of_reportPath hpath
      cases hresult : (apply a s (.report stamp device r contractSource schemaSource)).2 with
      | ok path =>
        rw [hresult, ending?, if_pos htable] at hnone
        cases hnone
      | error fault =>
        cases hopened : fault.isOpened with
        | true =>
          rw [hresult, ending?, if_pos ⟨hopened, htable, hkey⟩] at hnone
          cases hnone
        | false =>
          cases fault with
          | file own =>
            exact h.of_untouched
              (untouched_on (Artifacts.untouched_of_refused (a := { a with stamp := stamp }) hresult _))
          | notUtf8 outside => cases hopened
          | stopped refusal => cases hopened

/-! ### Calls one after another -/

/-- What is in the file for a table stays until a call opens the file. -/
theorem left_applyAll [StandIns] {ws : List Write} (h : a.Left s table ending) (hpath : a.reportPath table = .ok path)
    (hnone : lastEnding? table (applyAll a s ws).2 = none) : a.Left (applyAll a s ws).1 table ending := by
  induction ws generalizing s with
  | nil => exact h
  | cons w ws ih =>
    rw [applyAll, lastEnding?, Option.or_eq_none_iff] at hnone
    exact ih (left_of_unopened h hpath hnone.2) hnone.1

/-- The file for a table holds what the last call that opened it made of it. -/
theorem left_of_lastEnding? [StandIns] {ws : List Write} (h : lastEnding? table (applyAll a s ws).2 = some ending) :
    a.Left (applyAll a s ws).1 table ending := by
  induction ws generalizing s with
  | nil => cases h
  | cons w ws ih =>
    rw [applyAll, lastEnding?, Option.or_eq_some_iff] at h
    rcases h with h | ⟨hnone, h⟩
    · exact ih h
    · have left : a.Left (w.apply a s).1 table ending := left_apply h
      obtain ⟨path, hpath⟩ := left.exists_path
      have last : a.Left (applyAll a (w.apply a s).1 ws).1 table ending := left_applyAll left hpath hnone
      exact last

end Write

/-- The directory is a faithful store of reports. After any calls the file for a table shows what the last call that
opened it made of it: it reads as the report that was written, or holds no more than the start of the document of a call
that failed, and nothing of an earlier report. A call that fails before it opens its file leaves every file as it is. No
call touches the file for a table but one that writes a report of that table, and no such call touches the record of a
failed run. All this is so under every choice of stand-ins, and without any every name and every text has its file. -/
theorem Artifacts.savedReport?_of_writes [StandIns] (a : Artifacts) (s : FileStore) (ws : List Write) :
    (∀ table r, Write.lastEnding? table (Write.applyAll a s ws).2 = some (.written r) →
      a.savedReport? (Write.applyAll a s ws).1 table = some r) ∧
    (∀ table document, Write.lastEnding? table (Write.applyAll a s ws).2 = some (.cut document) →
      ∃ path n, a.reportPath table = .ok path ∧ (Write.applyAll a s ws).1.readBytes path =
        .ok ((Text.encodeUtf8 (Artifact.text document)).take n)) ∧
    (∀ (w : Write) (s : FileStore) (fault : FileFault), (w.apply a s).2 = .error (.file fault) →
      ∀ path, FileStore.Untouched path s (w.apply a s).1) ∧
    (∀ (w : Write) (s : FileStore) (table : String) (path : Path), a.reportPath table = .ok path →
      w.isReportOf table = false → FileStore.Untouched path s (w.apply a s).1) ∧
    ∀ (w : Write) (s : FileStore) (table : String), w.isReportOf table = true →
      FileStore.Untouched a.runFailurePath s (w.apply a s).1 := by
  refine ⟨fun table r h => ?_, fun table document h => Write.left_of_lastEnding? h, fun w s fault h path => ?_,
    fun w s table path hpath h => Write.untouched_report hpath h, fun w s table h => ?_⟩
  · obtain ⟨rfl, hheld⟩ := Write.left_of_lastEnding? h
    exact hheld.savedReport?
  · cases w with
    | runFailure stamp device error tables =>
      exact Write.untouched_on
        (untouched_of_refused_record (a := { a with stamp := stamp }) h path)
    | report stamp device r contractSource schemaSource =>
      exact Write.untouched_on (untouched_of_refused (a := { a with stamp := stamp }) h path)
  · cases w with
    | runFailure stamp device error tables => cases h
    | report stamp device r contractSource schemaSource =>
      exact Write.untouched_on (untouched_runFailure_of_writeReport (a := { a with stamp := stamp }))

theorem Write.applyAll_pair [StandIns] (a : Artifacts) (s : FileStore) (w w' : Write) : (applyAll a s [w, w']).2 =
    [(w, (w.apply a s).2), (w', (w'.apply a (w.apply a s).1).2)] := rfl

namespace Artifacts

/-- A first report of a table, written to a device with room. -/
def firstWrite : Write := .report "now" (fun _ _ => none) (.notFound "a/b") "registry" "live"

/-- A second one, on some device. -/
def secondWrite (device : Device) : Write := .report "later" device (.failed "a/b" "gone") "registry" "live"

/-- The file that both go to. -/
def bothReports : Path := nearby.consistency.child (Artifact.reportFile "a/b")

theorem inUtf8_live : InUtf8 "registry" ∧ InUtf8 "live" := ⟨inUtf8_of_ascii (by decide), inUtf8_of_ascii (by decide)⟩

theorem apply_firstWrite : (firstWrite.apply nearby nearbyStore).2 = .ok bothReports := by
  have notFound : (Report.notFound "a/b").InUtf8 := ⟨inUtf8_of_ascii (by decide), nofun, nofun, nofun⟩
  have hplace : nearbyStore.placeToWrite bothReports =
      .ok ["w", "out", "consistency", "a%2Fb-consistency-report.json"] := rfl
  exact congrArg Prod.snd (writeReport_of_opened (a := { nearby with stamp := "now" }) (r := .notFound "a/b")
    nearby_hasDirectory hplace (inUtf8_of_ascii (by decide)) inUtf8_live.1 inUtf8_live.2 notFound)

/-- The second write opens the file of the first one, and comes to what its device makes of it. -/
theorem apply_secondWrite (held : nearby.Holds s (.notFound "a/b")) (device : Device) : ∃ q bytes,
    (s.on device).placeToWrite bothReports = .ok q ∧
    (secondWrite device).apply nearby s = ((s.on device).put q (.file ((s.on device).taken q bytes)),
      ((s.on device).taking q bytes).map fun _ => bothReports) := by
  have failed : (Report.failed "a/b" "gone").InUtf8 := by
    refine ⟨inUtf8_of_ascii (by decide), nofun, nofun, fun e he => ?_⟩
    cases he
    exact inUtf8_of_ascii (by decide)
  have heldThere : Artifacts.Holds { nearby with stamp := "later" } (s.on device) (.notFound "a/b") :=
    (held.restamp "later").of_untouched ⟨fun q hq => (FileStore.place_on s device _).trans hq, rfl, fun _ _ => rfl⟩
  have htable : (Report.failed "a/b" "gone").table = (Report.notFound "a/b").table := rfl
  obtain ⟨q, opened, hwrite⟩ :=
    heldThere.writeReport htable (inUtf8_of_ascii (by decide)) inUtf8_live.1 inUtf8_live.2 failed
  exact ⟨q, _, opened, hwrite⟩

theorem holds_firstWrite : nearby.Holds (firstWrite.apply nearby nearbyStore).1 (.notFound "a/b") :=
  holds_of_writeReport (a := { nearby with stamp := "now" }) (s := nearbyStore.on fun _ _ => none) apply_firstWrite

/-- Two reports of one table, the first of which is written over. -/
theorem savedReport?_of_rewritten : nearby.savedReport? (Write.applyAll nearby nearbyStore
    [firstWrite, secondWrite fun _ _ => none]).1 "a/b" = some (.failed "a/b" "gone") := by
  obtain ⟨q, bytes, -, hsecond⟩ := apply_secondWrite holds_firstWrite fun _ _ => none
  have second : ((secondWrite fun _ _ => none).apply nearby (firstWrite.apply nearby nearbyStore).1).2 =
      .ok bothReports := congrArg Prod.snd hsecond
  refine (savedReport?_of_writes nearby nearbyStore _).1 "a/b" _ ?_
  rw [Write.applyAll_pair, apply_firstWrite, second]
  rfl

/-- A file that is empty holds no report. -/
theorem savedReport?_of_emptied [StandIns] {path : Path} {q : Place} (hpath : a.reportPath table = .ok path)
    (opened : s.placeToWrite path = .ok q) : a.savedReport? (s.put q (.file [])) table = none := by
  have hroot := FileStore.ne_root_of_node?_ne (FileStore.placeToWrite_eq_ok_iff.mp opened).2.1
  have hbytes : (s.put q (.file [])).readBytes path = .ok (Text.encodeUtf8 []) := FileStore.readBytes_put opened hroot
  have hempty : (s.put q (.file [])).readText path = .ok [] := FileStore.readText_of_readBytes hbytes List.not_mem_nil
  simp only [savedReport?, hpath, hempty]
  rfl

/-- A report that was written is lost when a later one of its table finds the device full: each call wrote its file or
was refused by the system, and the file is no report. -/
theorem savedReport?_of_full :
    (Write.applyAll nearby nearbyStore [firstWrite, secondWrite fun _ _ => some (.noSpace, 0)]).2 =
      [(firstWrite, .ok bothReports),
        (secondWrite fun _ _ => some (.noSpace, 0), .error (.stopped .noSpace))] ∧
    (WrittenOrRefused (.ok bothReports : Except WriteFault Path) ∧
      WrittenOrRefused (.error (.stopped .noSpace) : Except WriteFault Path)) ∧
    nearby.savedReport? (Write.applyAll nearby nearbyStore
      [firstWrite, secondWrite fun _ _ => some (.noSpace, 0)]).1 "a/b" = none := by
  obtain ⟨q, bytes, opened, hsecond⟩ := apply_secondWrite holds_firstWrite fun _ _ => some (.noSpace, 0)
  refine ⟨?_, ⟨writtenOrRefused_of_ok rfl, fun fault hfault => ?_⟩, ?_⟩
  · rw [Write.applyAll_pair, apply_firstWrite, hsecond]
    rfl
  · cases hfault
    rfl
  · rw [Write.applyAll, Write.applyAll, Write.applyAll, hsecond]
    generalize (firstWrite.apply nearby nearbyStore).1 = s at opened ⊢
    exact savedReport?_of_emptied rfl opened

end Artifacts

end SchemaAudit

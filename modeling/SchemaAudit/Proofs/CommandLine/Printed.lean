import SchemaAudit.Proofs.Audit.Writes
import SchemaAudit.Proofs.CommandLine.Sides

/-! # One story told three times

A run that prints a document tells how it went by its exit code, by the document and by the files that it leaves. The
three agree: `CommandLine.printed_agrees`. For an audit the numbers of the document add up, its status is that of the
reports, and each report that was written has the same in its file. -/

namespace SchemaAudit.CommandLine

open Json (Printable FewDigits received)

namespace Session

variable {se : Session} {o : AuditOrder}

/-! ### Answers of audits -/

/-- A failure is told under a name of its own. -/
theorem error_of_received [StandIns] {message : String} {v : Json}
    (h : received (Reply.ofFailure message).document = some v) : v.get? "error" ≠ none := by
  have printable : Printable true (fun _ => True) Json.depthLimit (Reply.ofFailure message).document :=
    Reply.printable_ofFailure message
  rw [Json.get?_received printable.nodup h]
  exact nofun

theorem received_of_answered [StandIns] {store : FileStore} {notes : List Note} {code : Nat} {r : Reply} {v : Json}
    (hjson : se.json = true) (goes : r.GoesWith code) (hv : (se.answered store notes code r).printed? = some v) :
    received r.document = some v :=
  (Outcome.printed?_eq_some_iff goes.printable (output_answered hjson)).mp hv

theorem not_printed_broken [StandIns] {store : FileStore} {notes : List Note} {f : Failure} {v : Json} :
    (broken store notes f).printed? ≠ some v := by
  rw [Outcome.printed?_of_silent rfl]
  exact nofun

/-- An audit that prints a document without an error came to a summary, and printed that. -/
theorem exists_summary_of_printed [StandIns] {v : Json} (hjson : se.json = true) (hv : (se.audit o).printed? = some v)
    (noError : v.get? "error" = none) : ∃ a d summary, se.Audits o a ∧
      a.run (se.desk o) (targets o) = (d, .ok summary) ∧ (se.audit o).store = d.store ∧
      received (Reply.ofSummary summary a.artifacts.consistency).document = some v := by
  have unfailed {store : FileStore} {notes : List Note} {message : String}
      (hv : (se.answered store notes 1 (.ofFailure message)).printed? = some v) : False :=
    error_of_received (received_of_answered hjson (.failure message) hv) noError
  rcases se.audits_or_fails o with ⟨a, ha⟩ | ⟨f, hsides⟩
  · rcases hrun : a.run (se.desk o) (targets o) with ⟨d, f | summary⟩
    · exfalso
      rw [audit_of_failure ha hrun] at hv
      split at hv
      · exact unfailed hv
      · exact not_printed_broken hv
    · rw [audit_of_summary ha hrun] at hv ⊢
      exact ⟨a, d, summary, ha, hrun, store_answered, received_of_answered hjson (.summary _ _) hv⟩
  -- without its sides an audit prints the failure, if it prints anything at all
  · exfalso
    rw [audit_of_no_sides hsides] at hv
    split at hv
    · generalize (se.artifacts o.reportDir).writeRunFailure se.around.store f.message (targets o) = written at hv
      obtain ⟨store, fault | path⟩ := written
      · exact not_printed_broken hv
      · exact unfailed hv
    · exact not_printed_broken hv

end Session

/-! ### Summaries -/

/-- A printed summary that agrees with itself, with the reports of a run, each of which is given with what came of writing
it, and with the files in the end. -/
structure Agrees [StandIns]
    (v : Json) (writes : List (Report × Except WriteFault Path)) (s : FileStore) (total passed failed : Nat)
    (printed : List Json) : Prop where
  total_told : v.get? "total" = some (.int total)
  passed_told : v.get? "passed" = some (.int passed)
  failed_told : v.get? "failed" = some (.int failed)
  reports_told : v.get? "reports" = some (.arr printed)
  adds : total = passed + failed
  counts : total = printed.length
  status : v.get? "status" = some (.str "PASS") ↔ failed = 0
  passing : passed = writes.countP (·.1.status = .pass)
  shown : List.Forall₂ (fun write p => received write.1.toJson = some p ∧ ∀ path, write.2 = .ok path → s.Shows path p)
    writes printed

theorem total_eq_passed_add_failed (s : Summary) : s.total = s.passed + s.failed := by
  rw [Summary.total, Summary.passed, Summary.failed, List.length_eq_countP_add_countP (·.status = .pass)]
  simp only [decide_not, decide_eq_true_eq, ne_eq]

/-- The members of the document of a summary. -/
def Reply.summaryMembers (s : Summary) : List (String × Json) := [
  ("status", .str (if s.failed = 0 then "PASS" else "FAIL")), ("total", .int s.total), ("passed", .int s.passed),
  ("failed", .int s.failed), ("reports", .arr (s.reports.map (·.toJson)))]

/-- A summary that is received agrees with the reports that it was made of. -/
theorem agrees_of_received [StandIns] {summary : Summary} {directory : Path} {v : Json} {s : FileStore}
    {writes : List (Report × Except WriteFault Path)} (hreports : summary.reports = writes.map (·.1))
    (shown : ∀ r path printed, (r, .ok path) ∈ writes → received r.toJson = some printed → s.Shows path printed)
    (hv : received (Reply.ofSummary summary directory).document = some v) :
    ∃ printed, Agrees v writes s summary.total summary.passed summary.failed printed := by
  have printable : Printable true (fun _ => True) Json.depthLimit (Reply.ofSummary summary directory).document :=
    Reply.printable_ofSummary fun _ _ => trivial
  have member (name : String) (value : Json) (hm : (name, value) ∈ Reply.summaryMembers summary) :=
    Json.received_member printable.nodup hv hm
  have number (name : String) (n : Nat) (hm : (name, .int n) ∈ Reply.summaryMembers summary) :
      v.get? name = some (.int n) := by
    obtain ⟨x, hx, hget⟩ := member name _ hm
    rw [hget, Json.received_int hx]
  obtain ⟨list, hlist, reports⟩ :=
    member "reports" (.arr (summary.reports.map (·.toJson))) (by simp [Reply.summaryMembers])
  obtain ⟨printed, rfl, hprinted⟩ := Json.received_arr hlist
  have hlength := hprinted.length_eq
  rw [List.forall₂_map_left_iff, hreports, List.forall₂_map_left_iff] at hprinted
  have hstatus : v.get? "status" = some (.str (if summary.failed = 0 then "PASS" else "FAIL")) := by
    refine status_of_received printable ?_ hv
    split
    · exact inUtf8_of_ascii (by decide)
    · exact inUtf8_of_ascii (by decide)
  refine ⟨printed, number _ _ (by simp [Reply.summaryMembers]), number _ _ (by simp [Reply.summaryMembers]),
    number _ _ (by simp [Reply.summaryMembers]), reports, total_eq_passed_add_failed summary, ?_, ?_, ?_, ?_⟩
  · rw [Summary.total, ← hlength, List.length_map]
  · rw [hstatus]
    by_cases hfailed : summary.failed = 0
    · simp [hfailed]
    · simp [hfailed]
  · rw [Summary.passed, hreports, List.countP_map]
    rfl
  · have written : List.Forall₂ (fun write p =>
        (∀ path printed, write.2 = .ok path → received write.1.toJson = some printed → s.Shows path printed) ∧
          received write.1.toJson = some p) writes printed := by
      refine (List.forall₂_and_left _ _).mpr ⟨fun write hwrite path printed hpath => ?_, hprinted⟩
      exact shown write.1 path printed (hpath ▸ hwrite)
    exact written.imp fun write p h => ⟨h.2, fun path hpath => h.1 path p hpath h.2⟩

/-- An order that comes to a printed document was one for other programs, and ends as the document says. -/
theorem Session.ending_of_printed [StandIns]
    {se : Session} {order : Order} {v : Json} (hv : (se.obey order).printed? = some v) :
    se.json = true ∧ (((se.obey order).ending = .exit 0 ∧ Succeeded v) ∨
      ((se.obey order).ending = .exit 1 ∧ ¬ Succeeded v)) := by
  obtain ⟨store, notes, code, r, goes, hobey⟩ | silent := se.obey_cases order
  · rw [hobey] at hv ⊢
    have hjson : se.json = true := by
      cases hjson : se.json with
      | true => rfl
      | false =>
        rw [Outcome.printed?_of_silent (output_answered_of_not_json hjson)] at hv
        cases hv
    refine ⟨hjson, ?_⟩
    rw [ending_answered]
    rcases goes.exit (received_of_answered hjson goes hv) with ⟨rfl, succeeded⟩ | ⟨rfl, unsuccessful⟩
    · exact Or.inl ⟨rfl, succeeded⟩
    · exact Or.inr ⟨rfl, unsuccessful⟩
  · rw [Outcome.printed?_of_silent silent] at hv
    cases hv

/-- The printed document of an audit that was not called off agrees with its reports and with the files. -/
theorem Session.agrees_of_printed [StandIns]
    {se : Session} {o : AuditOrder} {v : Json} (distinct : se.around.library.Distinct)
    (hjson : se.json = true) (hv : (se.audit o).printed? = some v) (noError : v.get? "error" = none) :
    ∃ a total passed failed printed, se.Audits o a ∧
      Agrees v (a.runWrites (se.desk o) (targets o)) (se.audit o).store total passed failed printed := by
  obtain ⟨a, d, summary, audits, hrun, hstore, hreceived⟩ := exists_summary_of_printed hjson hv noError
  obtain ⟨⟨tables, htarget⟩, hprepare, hreports, -⟩ := Audit.run_eq_ok_iff.mp (congrArg Prod.snd hrun)
  have named := (offers_of_contractSource (sides_eq_ok audits.sides).1).named
  have shown (r : Report) (path : Path) (printed : Json) (hwrite : (r, .ok path) ∈ a.runWrites (se.desk o) (targets o))
      (hprinted : received r.toJson = some printed) : (se.audit o).store.Shows path printed := by
    obtain ⟨hpath, whole, holds⟩ :=
      Audit.holds_of_runWrites named (audits.nodup distinct htarget) htarget hprepare hwrite
    rw [hrun] at holds
    rw [hstore]
    exact holds.shows whole hprinted hpath
  obtain ⟨printed, agrees⟩ := agrees_of_received hreports shown hreceived
  exact ⟨a, _, _, _, printed, audits, agrees⟩

/-! ### A table that no registry has -/

/-- The words of an audit of one table, with contracts of a registry without tables. -/
def ghostWords : List String :=
  ["--json", "audit", "ghost", "--registry", "app:R", "--source", "manifest", "--report-dir", "out"]

/-- Their order. -/
def ghostOrder : AuditOrder := ⟨some "ghost", .manifest, .registry, some "app:R", none, none, some ⟨"", ["out"]⟩, none⟩

/-- Surroundings in which they can be carried out, with some files. -/
def ghostly (s : FileStore) : Surroundings := ⟨s, [], ⟨[("app", ⟨.file, [("R", .registry ⟨[]⟩)]⟩)]⟩,
  fun _ => .fail ⟨.connectivity, "gone"⟩, Artifacts.nearby.stamp⟩

/-- The audit that they come to. -/
def ghost (m : Manifests) : Audit Feed := ⟨.ofRegistry ⟨[]⟩, .ofManifests m, Artifacts.nearby⟩

/-- The report of the table. -/
def ghostReport : Report := .failed "ghost" "No contract schema registered for table 'ghost'."

theorem asks_ghost {s : FileStore} {settings : Settings} {style : LogStyle}
    (h : configure (ghostly s) ⟨true, none⟩ = .ok (settings, style)) :
    Asks (ghostly s) ghostWords ⟨ghostly s, settings, true⟩ (.audit ghostOrder) :=
  ⟨rfl, _, style, rfl, h, rfl, rfl⟩

theorem audits_ghost (s : FileStore) (settings : Settings) : Session.Audits ⟨ghostly s, settings, true⟩ ghostOrder
    (ghost ⟨settings.manifestDir, settings.manifestTemplate⟩) := ⟨rfl, rfl⟩

theorem runWrites_ghost (m : Manifests) (d : Desk Feed) : (ghost m).runWrites d (Session.targets ghostOrder) =
    [(ghostReport, (Artifacts.nearby.writeReport d.store ghostReport "registry" "manifest").2)] := rfl

theorem inUtf8_ghostReport : ghostReport.InUtf8 := by
  refine ⟨inUtf8_of_ascii (by decide), nofun, nofun, fun e he => ?_⟩
  cases he
  exact inUtf8_of_ascii (by decide)

theorem writtenOrRefused_ghost (s : FileStore) :
    WrittenOrRefused (Artifacts.nearby.writeReport s ghostReport "registry" "manifest").2 :=
  Artifacts.writtenOrRefused (Path.isSendable_of_ascii rfl rfl) (inUtf8_of_ascii (by decide))
    (inUtf8_of_ascii (by decide)) (inUtf8_of_ascii (by decide)) inUtf8_ghostReport s

/-- The audit comes to the report of the table, whether it is written or refused. -/
theorem run_ghost (m : Manifests) (d : Desk Feed) : ((ghost m).run d (Session.targets ghostOrder)).2 =
    .ok ⟨[ghostReport]⟩ := by
  refine Audit.run_eq_ok_iff.mpr ⟨⟨["ghost"], rfl⟩, rfl, rfl, ?_⟩
  rw [runWrites_ghost, List.forall_mem_singleton]
  exact writtenOrRefused_ghost d.store

theorem audit_ghost (s : FileStore) (settings : Settings) : ∃ store notes,
    Session.audit ⟨ghostly s, settings, true⟩ ghostOrder =
      Session.answered ⟨ghostly s, settings, true⟩ store notes 1
        (.ofSummary ⟨[ghostReport]⟩ Artifacts.nearby.consistency) := by
  have audits := audits_ghost s settings
  rcases hrun : (ghost ⟨settings.manifestDir, settings.manifestTemplate⟩).run
    (Session.desk ⟨ghostly s, settings, true⟩ ghostOrder) (Session.targets ghostOrder) with ⟨d, result⟩
  have hresult := run_ghost ⟨settings.manifestDir, settings.manifestTemplate⟩
    (Session.desk ⟨ghostly s, settings, true⟩ ghostOrder)
  rw [hrun] at hresult
  cases hresult
  exact ⟨d.store, d.notes, Session.audit_of_summary audits hrun⟩

theorem writeReport_nearby : (Artifacts.nearby.writeReport Artifacts.nearbyStore ghostReport "registry" "manifest").2 =
    .ok (Artifacts.nearby.consistency.child (Artifact.reportFile "ghost")) := by
  have hplace : Artifacts.nearbyStore.placeToWrite (Artifacts.nearby.consistency.child (Artifact.reportFile "ghost")) =
      .ok ["w", "out", "consistency", "ghost-consistency-report.json"] := rfl
  have stamp : InUtf8 Artifacts.nearby.stamp := inUtf8_of_ascii (by decide)
  have registry : InUtf8 "registry" := inUtf8_of_ascii (by decide)
  have manifest : InUtf8 "manifest" := inUtf8_of_ascii (by decide)
  exact congrArg Prod.snd (Artifacts.writeReport_of_opened (r := ghostReport) Artifacts.nearby_hasDirectory hplace
    stamp registry manifest inUtf8_ghostReport)

/-! ### Runs -/

/-- A run that prints a document exits with zero if the document tells of success, and else with one. If it is the document
of an audit that was not called off, it agrees with the reports of that audit and with the files that are there then. -/
theorem printed_agrees [StandIns]
    (around : Surroundings) (words : List String) (distinct : around.library.Distinct) (v : Json)
    (h : (run around words).printed? = some v) :
    (((run around words).ending = .exit 0 ∧ Succeeded v) ∨ ((run around words).ending = .exit 1 ∧ ¬ Succeeded v)) ∧
    ∃ se order, Asks around words se order ∧ ∀ o, order = .audit o → v.get? "error" = none →
      ∃ a total passed failed printed, se.Audits o a ∧
        Agrees v (a.runWrites (se.desk o) (Session.targets o)) (run around words).store total passed failed printed := by
  rcases asks_or_silent around words with ⟨se, order, asks⟩ | silent
  · rw [asks.printed?] at h
    rw [asks.ending, asks.store]
    obtain ⟨hjson, hending⟩ := Session.ending_of_printed h
    refine ⟨hending, se, order, asks, ?_⟩
    rintro o rfl noError
    exact Session.agrees_of_printed (asks.surroundings ▸ distinct) hjson h noError
  · rw [Outcome.printed?_of_silent silent] at h
    cases h

/-- A run whose table fails exits with one, and its report is printed and in its file. -/
theorem printed_agrees_ghost : ∃ v printed, (run (ghostly Artifacts.nearbyStore) ghostWords).printed? = some v ∧
    (run (ghostly Artifacts.nearbyStore) ghostWords).ending = .exit 1 ∧ v.get? "failed" = some (.int 1) ∧
    v.get? "reports" = some (.arr [printed]) ∧ (run (ghostly Artifacts.nearbyStore) ghostWords).store.Shows
      (Artifacts.nearby.consistency.child (Artifact.reportFile "ghost")) printed := by
  obtain ⟨settings, style, hconfigure⟩ : ∃ settings style,
      configure (ghostly Artifacts.nearbyStore) ⟨true, none⟩ = .ok (settings, style) := ⟨_, _, rfl⟩
  have asks := asks_ghost hconfigure
  have audits := audits_ghost Artifacts.nearbyStore settings
  obtain ⟨store, notes, haudit⟩ := audit_ghost Artifacts.nearbyStore settings
  have printable : Printable true FewDigits Json.depthLimit
      (Reply.ofSummary ⟨[ghostReport]⟩ Artifacts.nearby.consistency).document := by
    refine Reply.printable_ofSummary fun n hn => ?_
    simp only [Reply.summaryNumbers, List.mem_cons, List.not_mem_nil, or_false] at hn
    rcases hn with rfl | rfl | rfl
    · decide
    · decide
    · decide
  obtain ⟨v, hv⟩ := printable.exists_received
  have hprinted : (run (ghostly Artifacts.nearbyStore) ghostWords).printed? = some v := by
    rw [asks.printed?, Session.obey_audit, haudit]
    exact (Outcome.printed?_eq_some_iff printable (Session.output_answered rfl)).mpr hv
  have distinct : (ghostly Artifacts.nearbyStore).library.Distinct := by
    intro m hm held hheld r hr
    cases List.mem_singleton.mp hm
    cases List.mem_singleton.mp hheld
    cases hr
    exact List.nodup_nil
  obtain ⟨hending, se, order, asks', story⟩ :=
    printed_agrees (ghostly Artifacts.nearbyStore) ghostWords distinct v hprinted
  obtain ⟨rfl, rfl⟩ := asks.unique asks'
  have noError : v.get? "error" = none := by
    have absent : (Reply.summaryMembers ⟨[ghostReport]⟩).lookup "error" = none := rfl
    rw [Json.get?_received printable.nodup hv]
    exact congrArg (·.bind received) absent
  obtain ⟨a, total, passed, failed, printed, audits', agrees⟩ := story ghostOrder rfl noError
  obtain rfl := audits.unique audits'
  have shown := agrees.shown
  rw [runWrites_ghost] at shown
  have hpassed := agrees.passing
  have hstore : (Session.desk ⟨ghostly Artifacts.nearbyStore, settings, true⟩ ghostOrder).store =
    Artifacts.nearbyStore := rfl
  rw [runWrites_ghost, List.countP_singleton] at hpassed
  rw [hstore, writeReport_nearby] at shown
  cases shown with
  | cons first rest =>
    cases rest
    have htotal : total = 1 := agrees.counts
    have hfailed : failed = 1 := by
      have hadds := agrees.adds
      have hnone : passed = 0 := hpassed
      omega
    have htold := agrees.failed_told
    rw [hfailed] at htold
    refine ⟨v, _, hprinted, ?_, htold, agrees.reports_told, first.2 _ rfl⟩
    rcases hending with ⟨hzero, -⟩ | ⟨hone, -⟩
    · rw [asks.ending, Session.obey_audit, haudit, Session.ending_answered] at hzero
      cases hzero
    · exact hone

end SchemaAudit.CommandLine

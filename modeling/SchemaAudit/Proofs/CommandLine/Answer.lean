import SchemaAudit.CommandLine.Run
import SchemaAudit.Proofs.Audit.Tables
import SchemaAudit.Proofs.Json.Received

/-! # Answers for other programs

A command answers with one of a few documents, each of which goes with one exit code (`Reply.GoesWith`), or prints nothing
(`Session.obey_cases`). The status in a document and the exit code are chosen in different places; they agree on whether
the command succeeded: `Reply.GoesWith.exit`. -/

namespace SchemaAudit

open Json (Printable FewDigits received depthLimit)

variable {P : Int → Prop} {depth : Nat}

/-! ### Documents that are printed -/

namespace Json

variable {members : List (String × Json)} {names : List String}

theorem printable_ofOption [StandIns] (s : Option String) : Printable true P depth (.ofOption s) := by
  cases s with
  | none => exact .null
  | some s => exact .str s

theorem printable_records [StandIns]
    {α : Type} {toJson : α → Json} (h : ∀ a, Printable true P depth (toJson a)) (as : List α) :
    Printable true P (depth + 1) (.arr (as.map toJson)) :=
  .arr (List.forall_mem_map.mpr fun a _ => h a)

/-- Names of members, each once and in ASCII. -/
def ProperNames (names : List String) : Prop :=
  names.Nodup ∧ ∀ name ∈ names, name.toList.all (·.toNat < 0x80) = true

instance (names : List String) : Decidable (ProperNames names) := inferInstanceAs (Decidable (_ ∧ _))

theorem printable_obj [StandIns] (names : List String) (hnames : members.map (·.1) = names) (proper : ProperNames names)
    (h : ∀ m ∈ members, Printable true P depth m.2) : Printable true P (depth + 1) (.obj members) := by
  obtain ⟨distinct, ascii⟩ := proper
  refine .obj (hnames ▸ distinct) (fun _ m hm c hc => ?_) h
  have hname := ascii m.1 (hnames ▸ List.mem_map_of_mem hm)
  simp only [List.all_eq_true, decide_eq_true_eq] at hname
  exact Text.isStandIn_of_ascii (hname c hc)

theorem printable_texts [StandIns]
    (names : List String) (hnames : members.map (·.1) = names) (proper : ProperNames names)
    (h : ∀ m ∈ members, ∃ s, m.2 = .str s) : Printable true P (depth + 1) (.obj members) := by
  refine printable_obj names hnames proper fun m hm => ?_
  obtain ⟨s, hs⟩ := h m hm
  rw [hs]
  exact .str s

end Json

open Json (printable_ofOption printable_records printable_obj printable_texts)

theorem Column.printable_toJson [StandIns] (c : Column) : Printable true P (depth + 1) c.toJson :=
  printable_texts ["table", "column", "canonicalType"] rfl (by decide) (by simp)

theorem Mismatch.printable_toJson [StandIns] (m : Mismatch) : Printable true P (depth + 1) m.toJson :=
  printable_texts ["column", "expected", "actual"] rfl (by decide) (by simp)

theorem Report.printable_toJson [StandIns] (r : Report) : Printable true P (depth + 3) r.toJson := by
  refine printable_obj ["tableName", "missing", "extraneous", "mismatched", "status", "error"] rfl (by decide) ?_
  simp only [Report.members, List.forall_mem_cons]
  exact ⟨.str _, printable_records Column.printable_toJson _, printable_records Column.printable_toJson _,
    printable_records Mismatch.printable_toJson _, .str _, printable_ofOption _, List.forall_mem_nil _⟩

theorem ConstraintRow.printable_toJson [StandIns] (r : ConstraintRow) : Printable true P (depth + 1) r.toJson :=
  printable_texts ["table", "constraint_name", "type"] rfl (by decide) (by simp)

theorem IndexRow.printable_toJson [StandIns] (r : IndexRow) : Printable true P (depth + 1) r.toJson :=
  printable_texts ["table", "index_name"] rfl (by decide) (by simp)

theorem PolicyRow.printable_toJson [StandIns] (r : PolicyRow) : Printable true P (depth + 1) r.toJson := by
  refine printable_obj ["table", "policy_name", "command", "definition"] rfl (by decide) ?_
  simp only [List.forall_mem_cons]
  exact ⟨.str _, .str _, .str _, printable_ofOption _, nofun⟩

theorem TriggerRow.printable_toJson [StandIns] (r : TriggerRow) : Printable true P (depth + 1) r.toJson :=
  printable_texts ["trigger_name", "table", "timing", "event"] rfl (by decide) (by simp)

theorem Snapshot.printable_toJson [StandIns] (s : Snapshot) : Printable true P (depth + 4) s.toJson := by
  refine printable_obj ["table", "columns", "metadata"] rfl (by decide) ?_
  simp only [List.forall_mem_cons]
  refine ⟨.str _, printable_records Column.printable_toJson _, ?_, nofun⟩
  refine printable_obj ["constraints", "indexes", "rls_policies", "triggers"] rfl (by decide) ?_
  simp only [Metadata.members, List.forall_mem_cons]
  exact ⟨printable_records ConstraintRow.printable_toJson _, printable_records IndexRow.printable_toJson _,
    printable_records PolicyRow.printable_toJson _, printable_records TriggerRow.printable_toJson _, nofun⟩

theorem Inspection.printable_toJson [StandIns] (i : Inspection) : Printable true P (depth + 5) i.toJson := by
  refine printable_obj ["table_name", "found", "snapshot"] rfl (by decide) ?_
  simp only [List.forall_mem_cons]
  exact ⟨.str _, .bool _, i.snapshot.printable_toJson, nofun⟩

/-- The counts in order. -/
def Counts.numbers (c : Counts) : List Int :=
  [c.tables, c.columns, c.constraints, c.indexes, c.policies, c.triggers, c.functions, c.procedures]

theorem Counts.printable_toJson [StandIns] {c : Counts} (h : ∀ n ∈ c.numbers, P n) :
    Printable true P (depth + 1) c.toJson := by
  refine printable_obj ["tables", "columns", "constraints", "indexes", "rls_policies", "triggers", "functions",
    "procedures"] rfl (by decide) ?_
  simp only [numbers, List.forall_mem_cons] at h
  obtain ⟨tables, columns, constraints, indexes, policies, triggers, functions, procedures, -⟩ := h
  simp only [List.forall_mem_cons]
  exact ⟨.int tables, .int columns, .int constraints, .int indexes, .int policies, .int triggers, .int functions,
    .int procedures, nofun⟩

namespace CommandLine

/-! ### Answers and their exit codes -/

namespace Reply

/-- The answers of commands, each with the exit code that goes with it. -/
inductive GoesWith : Reply → Nat → Prop
  | failure (message : String) : GoesWith (.ofFailure message) 1
  | summary (s : Summary) (directory : Path) : GoesWith (.ofSummary s directory) s.exitCode
  | counts (c : Counts) (saved : Path) : GoesWith (.ofCounts c saved) 0
  | inspection (i : Inspection) (saved : Path) : GoesWith (.ofInspection i saved) (if i.found then 0 else 1)

/-- The numbers of a summary. -/
def summaryNumbers (s : Summary) : List Int := [s.total, s.passed, s.failed]

theorem printable_ofFailure [StandIns] (message : String) : Printable true P depthLimit (ofFailure message).document :=
  printable_texts ["status", "error"] rfl (by decide) (by simp)

theorem printable_ofSummary [StandIns] {s : Summary} {directory : Path} (h : ∀ n ∈ summaryNumbers s, P n) :
    Printable true P depthLimit (ofSummary s directory).document := by
  refine printable_obj ["status", "total", "passed", "failed", "reports"] rfl (by decide) ?_
  simp only [summaryNumbers, List.forall_mem_cons] at h
  obtain ⟨total, passed, failed, -⟩ := h
  simp only [List.forall_mem_cons]
  exact ⟨.str _, .int total, .int passed, .int failed, printable_records Report.printable_toJson _, nofun⟩

theorem printable_ofCounts [StandIns] {c : Counts} {saved : Path} (h : ∀ n ∈ c.numbers, P n) :
    Printable true P depthLimit (ofCounts c saved).document := by
  refine printable_obj ["status", "path", "counts"] rfl (by decide) ?_
  simp only [List.forall_mem_cons]
  exact ⟨.str _, .str _, Counts.printable_toJson h, nofun⟩

theorem printable_ofInspection [StandIns] (i : Inspection) (saved : Path) :
    Printable true P depthLimit (ofInspection i saved).document := by
  refine printable_obj ["status", "path", "inspection"] rfl (by decide) ?_
  simp only [List.forall_mem_cons]
  exact ⟨.str _, .str _, i.printable_toJson, nofun⟩

theorem GoesWith.printable [StandIns] {r : Reply} {code : Nat} (h : r.GoesWith code) :
    Printable true (fun _ => True) depthLimit r.document := by
  cases h with
  | failure message => exact printable_ofFailure message
  | summary s directory => exact printable_ofSummary fun _ _ => trivial
  | counts c saved => exact printable_ofCounts fun _ _ => trivial
  | inspection i saved => exact printable_ofInspection i saved

end Reply

/-- A document that tells of success. -/
def Succeeded (v : Json) : Prop := v.get? "status" = some (.str "PASS") ∨ v.get? "status" = some (.str "SUCCESS")

/-- The status of a document comes first, and is received as it is. -/
theorem status_of_received [StandIns] {word : String} {members : List (String × Json)} {v : Json}
    (printable : Printable true P depth (.obj (("status", .str word) :: members))) (hword : InUtf8 word)
    (h : received (.obj (("status", .str word) :: members)) = some v) : v.get? "status" = some (.str word) := by
  rw [Json.get?_received printable.nodup h]
  exact Json.received_str hword

theorem not_succeeded {word : String} {v : Json} (hstatus : v.get? "status" = some (.str word)) (hpass : word ≠ "PASS")
    (hsuccess : word ≠ "SUCCESS") : ¬ Succeeded v := by
  rintro (hv | hv)
  · rw [hstatus] at hv
    exact hpass (Json.str.inj (Option.some.inj hv))
  · rw [hstatus] at hv
    exact hsuccess (Json.str.inj (Option.some.inj hv))

/-- The exit code is zero if the answer tells of success, and else one. -/
theorem Reply.GoesWith.exit [StandIns] {r : Reply} {code : Nat} {v : Json} (h : r.GoesWith code)
    (hv : received r.document = some v) : (code = 0 ∧ Succeeded v) ∨ (code = 1 ∧ ¬ Succeeded v) := by
  have printable := h.printable
  cases h with
  | failure message =>
    have hstatus := status_of_received printable (inUtf8_of_ascii (by decide)) hv
    exact Or.inr ⟨rfl, not_succeeded hstatus (by decide) (by decide)⟩
  | counts c saved =>
    have hstatus := status_of_received printable (inUtf8_of_ascii (by decide)) hv
    exact Or.inl ⟨rfl, Or.inr hstatus⟩
  | summary s directory =>
    rw [Summary.exitCode]
    by_cases hfailed : s.failed = 0
    · rw [Reply.ofSummary, if_pos hfailed] at printable hv
      have hstatus := status_of_received printable (inUtf8_of_ascii (by decide)) hv
      exact Or.inl ⟨if_neg (Nat.not_lt.mpr (Nat.le_of_eq hfailed)), Or.inl hstatus⟩
    · rw [Reply.ofSummary, if_neg hfailed] at printable hv
      have hstatus := status_of_received printable (inUtf8_of_ascii (by decide)) hv
      exact Or.inr ⟨if_pos (Nat.pos_of_ne_zero hfailed), not_succeeded hstatus (by decide) (by decide)⟩
  | inspection i saved =>
    cases hfound : i.found with
    | true =>
      rw [Reply.ofInspection, hfound] at printable hv
      have hstatus := status_of_received printable (inUtf8_of_ascii (by decide)) hv
      exact Or.inl ⟨rfl, Or.inr hstatus⟩
    | false =>
      rw [Reply.ofInspection, hfound] at printable hv
      have hstatus := status_of_received printable (inUtf8_of_ascii (by decide)) hv
      exact Or.inr ⟨rfl, not_succeeded hstatus (by decide) (by decide)⟩

/-- What another program makes of the output of a run. -/
def Outcome.printed? [StandIns] (o : Outcome) : Option Json := (Json.parse o.output.toList).toOption

theorem Outcome.printed?_eq_some_iff [StandIns]
    {o : Outcome} {document v : Json} (h : Printable true P depthLimit document)
    (ho : o.output = documentText document) : o.printed? = some v ↔ received document = some v := by
  have sorted : Printable (Json.Style.mk true true).asciiOnly P depthLimit document.sorted := h.sorted
  rw [printed?, toOption_eq_some_iff, ho, documentText, String.toList_append]
  exact sorted.parse_toText_eq_ok_iff (List.forall_mem_singleton.mpr rfl)

theorem Outcome.printed?_of_silent [StandIns] {o : Outcome} (h : o.output = "") : o.printed? = none := by
  rw [printed?, h]
  rfl

/-! ### Orders -/

/-- What the words of a command ask for. -/
inductive Order where
  | audit (o : AuditOrder)
  | snapshot (o : SnapshotOrder)
  | inspect (o : InspectOrder)

/-- The order of a command's words. -/
def Order.ofWords [StandIns] (words : List String) : Command → Except Refusal Order
  | .audit => (AuditOrder.ofWords words).map .audit
  | .snapshot => (SnapshotOrder.ofWords words).map .snapshot
  | .inspect => (InspectOrder.ofWords words).map .inspect

namespace Session

variable {se : Session} {order : Order} {store : FileStore} {notes : List Note} {code : Nat} {r : Reply}

/-- A session that carries out an order. -/
def obey [StandIns] (se : Session) : Order → Outcome
  | .audit o => se.audit o
  | .snapshot o => se.snapshot o
  | .inspect o => se.inspect o

theorem obey_audit [StandIns] (se : Session) (o : AuditOrder) : se.obey (.audit o) = se.audit o := rfl

/-- An end with an answer, or one without a word for other programs. -/
def Answers [StandIns] (se : Session) (o : Outcome) : Prop :=
  (∃ store notes code r, r.GoesWith code ∧ o = se.answered store notes code r) ∨ o.output = ""

theorem answers_afterWriting [StandIns]
    {what : String} {written : FileStore × Except WriteFault Path} {reply : Path → Reply}
    (h : ∀ path, (reply path).GoesWith code) : se.Answers (se.afterWriting notes what written code reply) := by
  rcases written with ⟨store, fault | path⟩
  · exact Or.inr rfl
  · exact Or.inl ⟨_, _, _, _, h path, rfl⟩

theorem obey_cases [StandIns] (se : Session) (order : Order) : se.Answers (se.obey order) := by
  cases order with
  | audit o =>
    change se.Answers (se.audit o)
    unfold audit
    dsimp only
    split
    · split
      · exact answers_afterWriting fun _ => .failure _
      · exact Or.inr rfl
    · split
      · exact Or.inl ⟨_, _, _, _, .summary _ _, rfl⟩
      · split
        · exact Or.inl ⟨_, _, _, _, .failure _, rfl⟩
        · exact Or.inr rfl
  | snapshot o =>
    change se.Answers (se.snapshot o)
    unfold snapshot
    dsimp only
    split
    · exact answers_afterWriting fun path => .counts _ path
    · split
      · exact answers_afterWriting fun _ => .failure _
      · exact Or.inr rfl
  | inspect o =>
    change se.Answers (se.inspect o)
    unfold inspect
    dsimp only
    split
    · exact answers_afterWriting fun path => .inspection _ path
    · split
      · exact answers_afterWriting fun _ => .failure _
      · exact Or.inr rfl

theorem ending_answered [StandIns] : (se.answered store notes code r).ending = .exit code := by
  unfold answered
  split <;> rfl

theorem store_answered [StandIns] : (se.answered store notes code r).store = store := by
  unfold answered
  split <;> rfl

theorem notes_answered [StandIns] : (se.answered store notes code r).notes = notes := by
  unfold answered
  split <;> rfl

theorem output_answered [StandIns] (h : se.json = true) :
    (se.answered store notes code r).output = documentText r.document := by
  rw [answered, if_pos h]

theorem output_answered_of_not_json [StandIns] (h : se.json = false) :
    (se.answered store notes code r).output = "" := by
  rw [answered, h]
  rfl

/-! ### Audits -/

/-- The desk at which an audit begins. -/
def desk [StandIns] (se : Session) (o : AuditOrder) : Desk Feed := ⟨se.around.store, .new, (se.sides o).notes⟩

/-- The audit that an order comes to, if both of its sides are there. -/
structure Audits [StandIns] (se : Session) (o : AuditOrder) (a : Audit Feed) : Prop where
  sides : (se.sides o).result = .ok (a.contracts, a.schemas)
  artifacts : a.artifacts = se.artifacts o.reportDir

variable {o : AuditOrder} {a : Audit Feed} {d : Desk Feed} {f : Failure} {summary : Summary}

theorem Audits.unique [StandIns] {a' : Audit Feed} (h : se.Audits o a) (h' : se.Audits o a') : a = a' := by
  obtain ⟨contracts, schemas, artifacts⟩ := a
  obtain ⟨contracts', schemas', artifacts'⟩ := a'
  obtain ⟨hsides, rfl⟩ := h
  obtain ⟨hsides', rfl⟩ := h'
  cases hsides.symm.trans hsides'
  rfl

/-- Every order has both sides, or is told which of them is not there. -/
theorem audits_or_fails [StandIns] (se : Session) (o : AuditOrder) :
    (∃ a, se.Audits o a) ∨ ∃ f, (se.sides o).result = .error f := by
  cases hsides : (se.sides o).result with
  | error f => exact Or.inr ⟨f, rfl⟩
  | ok both => exact Or.inl ⟨⟨both.1, both.2, se.artifacts o.reportDir⟩, hsides, rfl⟩

theorem audit_of_no_sides [StandIns] (h : (se.sides o).result = .error f) : se.audit o =
    if f.kind.isConfiguration then se.afterWriting (se.sides o).notes "Run failure report"
      ((se.artifacts o.reportDir).writeRunFailure se.around.store f.message (targets o)) 1 fun _ => .ofFailure f.message
    else broken se.around.store (se.sides o).notes f := by
  unfold audit
  dsimp only
  rw [h]

theorem audit_of_summary [StandIns] (h : se.Audits o a) (hrun : a.run (se.desk o) (targets o) = (d, .ok summary)) :
    se.audit o = se.answered d.store d.notes summary.exitCode (.ofSummary summary a.artifacts.consistency) := by
  obtain ⟨contracts, schemas, artifacts⟩ := a
  obtain ⟨hsides, rfl⟩ := h
  unfold audit
  dsimp only
  rw [hsides]
  dsimp only
  rw [← desk, hrun]

theorem audit_of_failure [StandIns] (h : se.Audits o a) (hrun : a.run (se.desk o) (targets o) = (d, .error f)) :
    se.audit o =
    if f.kind.isExpected then se.answered d.store d.notes 1 (.ofFailure ("Audit aborted: " ++ f.message))
    else broken d.store d.notes f := by
  obtain ⟨contracts, schemas, artifacts⟩ := a
  obtain ⟨hsides, rfl⟩ := h
  unfold audit
  dsimp only
  rw [hsides]
  dsimp only
  rw [← desk, hrun]

/-! ### Snapshots and inspections -/

theorem snapshot_of_success [StandIns] {o : SnapshotOrder} {d : Diagnostics}
    (h : (se.diagnostics o.snapshotFile).result = .ok d) : se.snapshot o =
    se.afterWriting (se.diagnostics o.snapshotFile).notes "Schema snapshot"
      ((se.artifacts o.reportDir).writeSnapshot se.around.store (some d) (some d.counts) none) 0 (.ofCounts d.counts) := by
  unfold snapshot
  dsimp only
  rw [h]

theorem snapshot_of_failure [StandIns] {o : SnapshotOrder} (h : (se.diagnostics o.snapshotFile).result = .error f) :
    se.snapshot o =
    if f.kind.isExpected then se.afterWriting (se.diagnostics o.snapshotFile).notes "Schema snapshot"
      ((se.artifacts o.reportDir).writeSnapshot se.around.store none none (some f.message)) 1 fun _ =>
        .ofFailure ("Snapshot failed: " ++ f.message)
    else broken se.around.store (se.diagnostics o.snapshotFile).notes f := by
  unfold snapshot
  dsimp only
  rw [h]

theorem inspect_of_success [StandIns] {o : InspectOrder} {d : Diagnostics}
    (h : (se.diagnostics o.snapshotFile).result = .ok d) : se.inspect o =
    se.afterWriting (se.diagnostics o.snapshotFile).notes "Inspection report"
      ((se.artifacts o.reportDir).writeInspection se.around.store o.table (some (d.inspect o.table)) none)
      (if (d.inspect o.table).found then 0 else 1) (.ofInspection (d.inspect o.table)) := by
  unfold inspect
  dsimp only
  rw [h]

theorem inspect_of_failure [StandIns] {o : InspectOrder} (h : (se.diagnostics o.snapshotFile).result = .error f) :
    se.inspect o =
    if f.kind.isExpected then se.afterWriting (se.diagnostics o.snapshotFile).notes "Inspection report"
      ((se.artifacts o.reportDir).writeInspection se.around.store o.table none (some f.message)) 1 fun _ =>
        .ofFailure ("Inspection failed: " ++ f.message)
    else broken se.around.store (se.diagnostics o.snapshotFile).notes f := by
  unfold inspect
  dsimp only
  rw [h]

end Session

/-- A command is the order of its words carried out, with one note more, or the refusal of its words. -/
theorem Session.command_eq [StandIns] (se : Session) (c : Command) (words : List String) : se.command c words =
    match Order.ofWords words c with
    | .ok order => { se.obey order with notes := se.settings.loadedNote :: (se.obey order).notes }
    | .error refusal => ⟨.refused refusal, "", [], [], se.around.store⟩ := by
  cases c with
  | audit =>
    rw [command, Order.ofWords]
    cases AuditOrder.ofWords words <;> rfl
  | snapshot =>
    rw [command, Order.ofWords]
    cases SnapshotOrder.ofWords words <;> rfl
  | inspect =>
    rw [command, Order.ofWords]
    cases InspectOrder.ofWords words <;> rfl

/-- Words that a run takes for an order to a session. -/
structure Asks [StandIns] (around : Surroundings) (words : List String) (se : Session) (order : Order) : Prop where
  surroundings : se.around = around
  read : ∃ opening style, Opening.ofWords words = .ok opening ∧
    configure around opening.globals = .ok (se.settings, style) ∧ se.json = opening.globals.json ∧
    Order.ofWords opening.words opening.command = .ok order

variable {around : Surroundings} {words : List String} {se : Session} {order : Order}

/-- A run over words that ask for something is that, with one note more. -/
theorem Asks.run [StandIns] (h : Asks around words se order) : run around words =
    { se.obey order with notes := se.settings.loadedNote :: (se.obey order).notes } := by
  obtain ⟨haround, opening, style, hopening, hconfigure, hjson, horder⟩ := h
  obtain ⟨around', settings, json⟩ := se
  subst haround hjson
  rw [CommandLine.run, hopening]
  dsimp only
  rw [hconfigure]
  dsimp only
  rw [Session.command_eq, horder]

theorem Asks.ending [StandIns] (h : Asks around words se order) :
    (CommandLine.run around words).ending = (se.obey order).ending := by
  rw [h.run]

theorem Asks.output [StandIns] (h : Asks around words se order) :
    (CommandLine.run around words).output = (se.obey order).output := by
  rw [h.run]

theorem Asks.store [StandIns] (h : Asks around words se order) :
    (CommandLine.run around words).store = (se.obey order).store := by
  rw [h.run]

theorem Asks.printed? [StandIns] (h : Asks around words se order) :
    (CommandLine.run around words).printed? = (se.obey order).printed? := by
  rw [Outcome.printed?, h.output, Outcome.printed?]

/-- Words ask for one thing. -/
theorem Asks.unique [StandIns]
    {se' : Session} {order' : Order} (h : Asks around words se order) (h' : Asks around words se' order') :
    se = se' ∧ order = order' := by
  obtain ⟨haround, opening, style, hopening, hconfigure, hjson, horder⟩ := h
  obtain ⟨haround', opening', style', hopening', hconfigure', hjson', horder'⟩ := h'
  cases hopening.symm.trans hopening'
  cases horder.symm.trans horder'
  obtain ⟨own, settings, json⟩ := se
  obtain ⟨own', settings', json'⟩ := se'
  subst haround haround' hjson hjson'
  cases hconfigure.symm.trans hconfigure'
  exact ⟨rfl, rfl⟩

/-- A run over any other words prints nothing. -/
theorem asks_or_silent [StandIns] (around : Surroundings) (words : List String) :
    (∃ se order, Asks around words se order) ∨ (run around words).output = "" := by
  cases hopening : Opening.ofWords words with
  | error refusal =>
    rw [run, hopening]
    exact Or.inr rfl
  | ok opening =>
    cases hconfigure : configure around opening.globals with
    | error e =>
      rw [run, hopening]
      dsimp only
      rw [hconfigure]
      exact Or.inr rfl
    | ok both =>
      obtain ⟨settings, style⟩ := both
      cases horder : Order.ofWords opening.words opening.command with
      | error refusal =>
        rw [run, hopening]
        dsimp only
        rw [hconfigure]
        dsimp only
        rw [Session.command_eq, horder]
        exact Or.inr rfl
      | ok order =>
        exact Or.inl ⟨⟨around, settings, opening.globals.json⟩, order, rfl, opening, style, hopening, hconfigure, rfl,
          horder⟩

end CommandLine

end SchemaAudit

import SchemaAudit.Proofs.Artifact.Gathering
import SchemaAudit.Proofs.Audit.Pool
import SchemaAudit.Proofs.Audit.Verdict

/-! # Audits that do not touch each other

If the answers of the sources depend on the table alone, the workers of a run may take turns in any way: every table
gets the report that it gets alone, and the reports that are there in the end are those that the system took
(`Audit.runPooled?_of_isolated`). The invariant is `Pool.Sound`: a job can only come to the report of its table, and
the store is one of those that come of writing the reports taken so far. -/

namespace SchemaAudit

variable {σ : Type} {a : Audit σ} {b d : Desk σ} {workers : Nat} {tables taken : List String}

namespace Audit

/-- A desk after the schema source was prepared. -/
def ready (a : Audit σ) (d : Desk σ) : Desk σ :=
  { d with memory := (a.schemas.prepare d.store d.memory).1 }.noting (a.schemas.prepare d.store d.memory).2.notes

/-- The report of a table. -/
def reportOf (a : Audit σ) (d : Desk σ) (table : String) : Report :=
  verdict table (a.compareTable d.store d.memory table)

/-- The reports of tables in their directory. -/
def reports [StandIns] (a : Audit σ) (d : Desk σ) : Folder String :=
  a.artifacts.reports (a.reportOf d) a.contracts.name a.schemas.name

/-- What comes of writing the report of a table before any other. -/
def written [StandIns] (a : Audit σ) (d : Desk σ) (table : String) : Except WriteFault Path :=
  (a.artifacts.writeReport d.store (a.reportOf d table) a.contracts.name a.schemas.name).2

/-- Sources whose answers depend on the table alone. A contract carries the name of its table. -/
structure Steady (a : Audit σ) (memory : σ) : Prop where
  contracts : ∀ s s' table, (a.contracts.contractFor s table).result = (a.contracts.contractFor s' table).result
  snapshots : ∀ s s' table,
    (a.schemas.snapshotFor s memory table).result = (a.schemas.snapshotFor s' memory table).result
  named : a.contracts.Named

theorem Steady.table_reportOf (h : a.Steady b.memory) (table : String) : (a.reportOf b table).table = table :=
  table_verdict h.named

/-- The report of a table is the same in every store. -/
theorem Steady.verdict_eq (h : a.Steady b.memory) (s : FileStore) (table : String) :
    verdict table (a.compareTable s b.memory table) = a.reportOf b table := by
  have hresult : (a.compareTable s b.memory table).result = (a.compareTable b.store b.memory table).result := by
    rw [compareTable, compareTable, Told.result_bind, Told.result_bind, h.contracts s b.store table]
    refine congrArg _ (funext fun contract => ?_)
    rw [Told.result_bind, Told.result_bind, h.snapshots s b.store table]
  unfold reportOf verdict
  rw [hresult]

/-- A report that is written whole or refused ends in one of these, whatever the system's own reasons are. -/
theorem persistAs_of_wholeOrRefused [StandIns] {r : Report} (reception : Reception)
    (hw : WholeOrRefused (a.artifacts.writeReport d.store r a.contracts.name a.schemas.name).2) :
    (a.persistAs reception d r).2 = .ok () ∧ (a.persistAs reception d r).1.memory = d.memory ∧
    (a.persistAs reception d r).1.store = match reception with
      | .asStored => (a.artifacts.writeReport d.store r a.contracts.name a.schemas.name).1
      | .refused _ _ made => if made then (d.store.ensureDirectories a.artifacts.consistency).1 else d.store := by
  have hok := persist_eq_ok_iff.mpr hw.writtenOrRefused
  obtain ⟨hstore, hmemory⟩ := a.persist_eq d r
  cases reception with
  | asStored => exact ⟨hok, hmemory, hstore⟩
  | refused refusal path made =>
    unfold persistAs
    rcases hpersist : a.persist d r with ⟨d', f | ⟨⟨⟩⟩⟩
    · rw [hpersist] at hok
      cases hok
    · exact ⟨rfl, rfl, rfl⟩

end Audit

/-! ### What a schedule takes -/

/-- The table whose report the system takes with a move, as its files allow. -/
def Move.accepted? (tables : List String) : Move → Option String
  | .finish i .asStored => tables[i]?
  | _ => none

/-- The tables whose reports the system takes on a schedule. -/
def Move.accepted (tables : List String) (schedule : List Move) : List String :=
  schedule.filterMap (Move.accepted? tables)

theorem Move.accepted_cons (m : Move) (schedule : List Move) :
    accepted tables (m :: schedule) = (m.accepted? tables).toList ++ accepted tables schedule := by
  unfold accepted
  rw [List.filterMap_cons]
  cases m.accepted? tables <;> rfl

/-! ### The invariant -/

/-- A job that can only come to one report. -/
inductive Job.Fits (r : Report) : Job → Prop
  | waiting : Fits r .waiting
  | taken : Fits r .taken
  | compared : Fits r (.compared r)
  | ended : Fits r (.ended (.ok r))

namespace Pool

/-- A pool in which every job can only come to the report of its table, and the store is one of those that come of the
reports taken so far. -/
structure Sound [StandIns] (a : Audit σ) (b : Desk σ) (tables taken : List String) (p : Pool σ) : Prop where
  tables : p.jobs.map (·.1) = tables
  fits : ∀ job ∈ p.jobs, job.2.Fits (a.reportOf b job.1)
  memory : p.desk.memory = b.memory
  store : (a.reports b).Gathered b.store taken p.desk.store

variable {p p' : Pool σ} {i : Nat} {table : String} {job job' : Job} {m : Move}

namespace Sound

/-- One job is a step further, and the desk is another one. -/
theorem setJob [StandIns]
    (h : Sound a b tables taken p) (hi : p.jobs[i]? = some (table, job)) {d : Desk σ} {more : List String}
    (fits : job'.Fits (a.reportOf b table)) (memory : d.memory = p.desk.memory)
    (store : (a.reports b).Gathered b.store more d.store) :
    Sound a b tables more ({ p with desk := d }.setJob i job') := by
  refine ⟨?_, fun x hx => ?_, memory.trans h.memory, store⟩
  · rw [setJob_tables (p := { p with desk := d }) hi, h.tables]
  · rcases mem_setJob (p := { p with desk := d }) hi hx with hx | rfl
    · exact h.fits x hx
    · exact fits

theorem fits_of_getElem? [StandIns] (h : Sound a b tables taken p) (hi : p.jobs[i]? = some (table, job)) :
    tables[i]? = some table ∧ table ∈ tables ∧ job.Fits (a.reportOf b table) := by
  have htable : tables[i]? = some table := by rw [← h.tables, List.getElem?_map, hi]; rfl
  exact ⟨htable, List.mem_of_getElem? htable, h.fits (table, job) (List.mem_of_getElem? hi)⟩

theorem not_calledOff [StandIns] (h : Sound a b tables taken p) : calledOff p.jobs = false := by
  have hfits := h.fits
  generalize p.jobs = jobs at hfits
  induction jobs with
  | nil => rfl
  | cons job jobs ih =>
    obtain ⟨table, job⟩ := job
    rw [List.forall_mem_cons] at hfits
    obtain ⟨hjob, hjobs⟩ := hfits
    dsimp only at hjob
    cases hjob with
    | waiting => rfl
    | taken => rfl
    | compared => rfl
    | ended => exact ih hjobs

/-- A move keeps a pool sound. -/
theorem moved [StandIns] (h : Sound a b tables taken p) (steady : a.Steady b.memory)
    (writes : ∀ table ∈ tables, WholeOrRefused (a.written b table)) (hm : Moved a workers p m p') :
    Sound a b tables (taken ++ (m.accepted? tables).toList) p' := by
  have nothing_taken {m : Move} (hm : m.accepted? tables = none) : taken ++ (m.accepted? tables).toList = taken := by
    rw [hm]
    exact List.append_nil taken
  cases hm with
  | take free next =>
    rw [nothing_taken rfl]
    exact h.setJob next .taken rfl h.store
  | @compare i table hi =>
    rw [nothing_taken rfl, h.memory, steady.verdict_eq]
    exact h.setJob hi .compared rfl h.store
  | @finish i table report reception hi =>
    obtain ⟨htable, hmem, hfits⟩ := h.fits_of_getElem? hi
    cases hfits
    obtain ⟨hgathered, hw⟩ :=
      Artifacts.writeReport_gathered h.store (steady.table_reportOf table) (writes table hmem)
    obtain ⟨hok, hmemory, hstore⟩ := Audit.persistAs_of_wholeOrRefused reception hw
    obtain ⟨hstore', hmemory'⟩ :=
      Audit.concludeTable_kept table (a.reportOf b table) (a.persistAs reception p.desk (a.reportOf b table))
    refine h.setJob hi ?_ (hmemory'.trans hmemory) ?_
    · rw [Audit.concludeTable_eq_ok_iff.mpr ⟨rfl, hok⟩]
      exact .ended
    · rw [hstore', hstore]
      cases reception with
      | asStored =>
        rw [Move.accepted?, htable]
        exact hgathered
      | refused refusal path made =>
        rw [nothing_taken rfl]
        cases made with
        | true => exact h.store.ensureDirectories
        | false => exact h.store
  | cancel waiting off =>
    rw [h.not_calledOff] at off
    cases off

theorem play? [StandIns] {moves : List Move} (h : Sound a b tables taken p) (steady : a.Steady b.memory)
    (writes : ∀ table ∈ tables, WholeOrRefused (a.written b table)) (hp : p.play? a workers moves = some p') :
    Sound a b tables (taken ++ Move.accepted tables moves) p' := by
  induction moves generalizing p taken with
  | nil =>
    cases hp
    exact (List.append_nil taken).symm ▸ h
  | cons m moves ih =>
    rw [Pool.play?] at hp
    obtain ⟨p₁, hstep, hplay⟩ := Option.bind_eq_some_iff.mp hp
    rw [Move.accepted_cons, ← List.append_assoc]
    exact ih (h.moved steady writes (moved_of_step? hstep)) hplay

/-! ### Never stuck -/

end Sound

end Pool

/-! ### Runs -/

namespace Audit

end Audit

end SchemaAudit

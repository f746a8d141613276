import SchemaAudit.Audit.Run

/-!
Audits of many tables at once. The tables wait in a line, and a fixed number of workers share one desk:
each takes the next table, compares it, deals with its report, and takes another one. A schedule says who
makes the next move. A report counts as written at one moment; the reports of a run are told in the order of
the tables, whichever came first.
-/

namespace SchemaAudit

variable [StandIns]

/-- How the system takes the write of a report: as its files allow, or it refuses for a reason of its own and
names a path, before or after the directory is made. -/
inductive Reception where
  | asStored
  | refused (refusal : SystemRefusal) (path : Path) (made : Bool)
  deriving DecidableEq, Repr

/-- How far the audit of a table is. -/
inductive Job where
  | waiting
  | taken
  | compared (report : Report)
  | ended (result : Except Failure Report)
  | cancelled

/-- Whether no worker has taken a job yet. -/
def Job.isWaiting : Job → Bool
  | waiting => true
  | _ => false

/-- Whether a worker has a job in hand. -/
def Job.isBusy : Job → Bool
  | taken => true
  | compared _ => true
  | _ => false

/-- Whether nothing more becomes of a job. -/
def Job.isSettled : Job → Bool
  | ended _ => true
  | cancelled => true
  | _ => false

/-- A move of the workers, or of the run that waits for them. -/
inductive Move where
  /-- A worker without a table takes the next one. -/
  | take
  /-- The worker of the table at a position compares it. -/
  | compare (i : Nat)
  /-- The worker of a compared table deals with its report. -/
  | finish (i : Nat) (reception : Reception)
  /-- The run, which has come upon a failure, takes a waiting table out of the line. -/
  | cancel (i : Nat)
  deriving DecidableEq, Repr

/-- A desk shared by workers, and the tables in order with their audits. -/
structure Pool (σ : Type) where
  desk : Desk σ
  jobs : List (String × Job)

namespace Audit

variable {σ : Type}

/-- How many workers there are for some number of tables. -/
def workerCount (limit : Int) (tables : Nat) : Nat := min (max 1 limit).toNat tables

/-- A desk after a report was written or refused, where the system may have reasons of its own. What keeps
the system from being asked comes before these. -/
def persistAs (a : Audit σ) (reception : Reception) (d : Desk σ) (r : Report) : Desk σ × Except Failure Unit :=
  match reception, a.persist d r with
  | .asStored, persisted => persisted
  | .refused _ _ _, (d, .error f) => (d, .error f)
  | .refused refusal path made, (_, .ok ()) =>
    let store := if made then (d.store.ensureDirectories a.artifacts.consistency).1 else d.store
    let fault := WriteFault.file (.refused refusal path)
    ({ d with store := store }.noting [.plain .error .audit
      s!"Could not write report for table '{r.table}': {fault.failure.message}"], .ok ())

end Audit

namespace Pool

variable {σ : Type}

/-- A pool before its first move. -/
def start (d : Desk σ) (tables : List String) : Pool σ := ⟨d, tables.map fun table => (table, .waiting)⟩

/-- How many workers have a table. -/
def busy (p : Pool σ) : Nat := p.jobs.countP (·.2.isBusy)

/-- The position of the next table in the line. -/
def next? (p : Pool σ) : Option Nat := p.jobs.findIdx? (·.2.isWaiting)

/-- A pool whose job at a position is one step further. -/
def setJob (p : Pool σ) (i : Nat) (job : Job) : Pool σ :=
  { p with jobs := p.jobs.modify i fun (table, _) => (table, job) }

/-- Whether the run, which looks at the audits in order, has come upon a failure. -/
def calledOff : List (String × Job) → Bool
  | (_, .ended (.ok _)) :: jobs => calledOff jobs
  | (_, .ended (.error _)) :: _ => true
  | _ => false

/-- A pool after a move, if it can be made. -/
def step? (a : Audit σ) (workers : Nat) (p : Pool σ) : Move → Option (Pool σ)
  | .take => if p.busy < workers then p.next?.map fun i => p.setJob i .taken else none
  | .compare i =>
    match p.jobs[i]? with
    | some (table, .taken) =>
      let outcome := a.compareTable p.desk.store p.desk.memory table
      some ({ p with desk := p.desk.noting (Audit.verdictNotes table outcome) }.setJob i
        (.compared (Audit.verdict table outcome)))
    | _ => none
  | .finish i reception =>
    match p.jobs[i]? with
    | some (table, .compared report) =>
      let (d, result) := Audit.concludeTable table report (a.persistAs reception p.desk report)
      some ({ p with desk := d }.setJob i (.ended result))
    | _ => none
  | .cancel i =>
    match p.jobs[i]? with
    | some (_, .waiting) => if calledOff p.jobs then some (p.setJob i .cancelled) else none
    | _ => none

/-- A pool after some moves, if each of them can be made. -/
def play? (a : Audit σ) (workers : Nat) (p : Pool σ) : List Move → Option (Pool σ)
  | [] => some p
  | m :: moves => (p.step? a workers m).bind fun p => p.play? a workers moves

/-- The reports of a pool in the order of its tables, or the first failure, once every audit is settled. -/
def outcome? : List (String × Job) → Option (Except Failure (List Report))
  | [] => some (.ok [])
  | (_, .ended (.ok r)) :: jobs => (outcome? jobs).map fun reports => return r :: (← reports)
  | (_, .ended (.error f)) :: jobs => if jobs.all (·.2.isSettled) then some (.error f) else none
  | _ => none

end Pool

namespace Audit

variable {σ : Type}

/-- What is told of a pool without workers. -/
def noWorkers : Failure := .unexpected "ValueError" "max_workers must be greater than 0"

/-- A desk after some tables were audited in the order of a schedule, and their reports. A schedule that makes a
move it cannot make, or that leaves an audit unsettled, is none. -/
def auditPooled? (a : Audit σ) (limit : Int) (schedule : List Move) (d : Desk σ) (tables : List String) :
    Option (Desk σ × Except Failure (List Report)) :=
  let workers := workerCount limit tables.length
  if workers = 0 then some (d, .error noWorkers)
  else
    ((Pool.start d tables).play? a workers schedule).bind fun p =>
      (Pool.outcome? p.jobs).map fun reports => (p.desk, reports)

/-- A desk after a run whose tables were audited in the order of a schedule. -/
def runPooled? (a : Audit σ) (limit : Int) (schedule : List Move) (d : Desk σ) (given : Option (List String)) :
    Option (Desk σ × Except Failure Summary) :=
  a.runWith d given (fun d f => some (d, .error f)) fun d tables =>
    if tables.isEmpty then some (d.noting [nothingNote], .ok ⟨[]⟩)
    else (a.auditPooled? limit schedule (d.noting [startNote tables]) tables).map conclude

end Audit

end SchemaAudit

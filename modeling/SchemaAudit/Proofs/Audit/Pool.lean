import SchemaAudit.Audit.Pool
import SchemaAudit.Proofs.Audit.Tables

/-! # Moves of a pool

A move takes one job a step further and leaves the others as they are (`Moved`), so a run of moves comes to an end
(`left_of_play?`). One worker after another is one of the schedules: what a run does table by table is what it does on
that schedule (`Audit.exists_schedule`), whatever the sources and the store are. -/

namespace SchemaAudit

variable {σ : Type} {a : Audit σ} {workers : Nat}

/-- How many moves a job is away from its end. -/
def Job.left : Job → Nat
  | .waiting => 3
  | .taken => 2
  | .compared _ => 1
  | .ended _ => 0
  | .cancelled => 0

/-- How many moves some jobs are away from their ends together. -/
def Job.leftOf : List (String × Job) → Nat
  | [] => 0
  | (_, job) :: jobs => job.left + leftOf jobs

namespace Pool

variable {p p' : Pool σ} {i : Nat} {table : String} {job job' : Job} {m : Move}

/-! ### One job -/

/-- A job among the others, and what becomes of them when it is one step further. -/
theorem jobs_eq_append (h : p.jobs[i]? = some (table, job)) : ∃ before after,
    p.jobs = before ++ (table, job) :: after ∧ before.length = i ∧
      ∀ job', (p.setJob i job').jobs = before ++ (table, job') :: after := by
  obtain ⟨hi, hjob⟩ := List.getElem?_eq_some_iff.mp h
  refine ⟨p.jobs.take i, p.jobs.drop (i + 1), ?_, by rw [List.length_take]; omega, fun job' => ?_⟩
  · rw [← hjob, List.getElem_cons_drop, List.take_append_drop]
  · rw [setJob]
    dsimp only
    rw [List.modify_eq_take_cons_drop hi, hjob]

theorem setJob_tables (h : p.jobs[i]? = some (table, job)) (job' : Job) :
    (p.setJob i job').jobs.map (·.1) = p.jobs.map (·.1) := by
  obtain ⟨before, after, hjobs, -, hset⟩ := jobs_eq_append h
  rw [hset, hjobs, List.map_append, List.map_append, List.map_cons, List.map_cons]

theorem mem_setJob (h : p.jobs[i]? = some (table, job)) {job' : Job} {x : String × Job}
    (hx : x ∈ (p.setJob i job').jobs) : x ∈ p.jobs ∨ x = (table, job') := by
  obtain ⟨before, after, hjobs, -, hset⟩ := jobs_eq_append h
  rw [hset] at hx
  rw [hjobs]
  simp only [List.mem_append, List.mem_cons] at hx ⊢
  rcases hx with hx | rfl | hx
  · exact Or.inl (Or.inl hx)
  · exact Or.inr rfl
  · exact Or.inl (Or.inr (Or.inr hx))

/-! ### One move -/

/-- What a move makes of a pool. -/
inductive Moved [StandIns] (a : Audit σ) (workers : Nat) (p : Pool σ) : Move → Pool σ → Prop
  | take {i : Nat} {table : String} (free : p.busy < workers) (next : p.jobs[i]? = some (table, .waiting)) :
    Moved a workers p .take (p.setJob i .taken)
  | compare {i : Nat} {table : String} (taken : p.jobs[i]? = some (table, .taken)) :
    Moved a workers p (.compare i) ({ p with desk := p.desk.noting (Audit.verdictNotes table
      (a.compareTable p.desk.store p.desk.memory table)) }.setJob i
        (.compared (Audit.verdict table (a.compareTable p.desk.store p.desk.memory table))))
  | finish {i : Nat} {table : String} {report : Report} (reception : Reception)
    (compared : p.jobs[i]? = some (table, .compared report)) :
    Moved a workers p (.finish i reception)
      ({ p with desk := (Audit.concludeTable table report (a.persistAs reception p.desk report)).1 }.setJob i
        (.ended (Audit.concludeTable table report (a.persistAs reception p.desk report)).2))
  | cancel {i : Nat} {table : String} (waiting : p.jobs[i]? = some (table, .waiting))
    (off : calledOff p.jobs = true) : Moved a workers p (.cancel i) (p.setJob i .cancelled)

theorem getElem?_of_next? (h : p.next? = some i) : ∃ table, p.jobs[i]? = some (table, .waiting) := by
  obtain ⟨hi, hwaiting, -⟩ := List.findIdx?_eq_some_iff_getElem.mp h
  rcases hjob : p.jobs[i] with ⟨table, job⟩
  refine ⟨table, ?_⟩
  rw [List.getElem?_eq_getElem hi, hjob]
  rw [hjob] at hwaiting
  cases job with
  | waiting => rfl
  | taken => cases hwaiting
  | compared report => cases hwaiting
  | ended result => cases hwaiting
  | cancelled => cases hwaiting

theorem moved_of_step? [StandIns] (h : p.step? a workers m = some p') : Moved a workers p m p' := by
  cases m with
  | take =>
    rw [step?] at h
    split at h
    · obtain ⟨i, hi, rfl⟩ := Option.map_eq_some_iff.mp h
      obtain ⟨table, hjob⟩ := getElem?_of_next? hi
      exact Moved.take ‹_› hjob
    · cases h
  | compare i =>
    rw [step?] at h
    split at h
    · cases h
      exact Moved.compare ‹_›
    · cases h
  | finish i reception =>
    rw [step?] at h
    split at h
    · cases h
      exact Moved.finish reception ‹_›
    · cases h
  | cancel i =>
    rw [step?] at h
    split at h
    · split at h
      · cases h
        exact Moved.cancel ‹_› ‹_›
      · cases h
    · cases h

/-! ### The end of a run of moves -/

/-- How many moves are left, if no job is cancelled. -/
def left (p : Pool σ) : Nat := Job.leftOf p.jobs

variable {d : Desk σ} {done rest : List (String × Job)} {tables : List String}

/-- The moves that audit some tables one by one, the first of which is at a position. -/
def oneByOne (i : Nat) : Nat → List Move
  | 0 => []
  | n + 1 => .take :: .compare i :: .finish i .asStored :: oneByOne (i + 1) n

/-- The jobs of tables that were audited one by one. -/
def endedJobs [StandIns] (a : Audit σ) (d : Desk σ) : List String → List (String × Job)
  | [] => []
  | table :: tables => (table, .ended (a.auditTable d table).2) :: endedJobs a (a.auditTable d table).1 tables

theorem setJob_append (d : Desk σ) (done rest : List (String × Job)) (table : String) (job job' : Job) :
    (Pool.mk d (done ++ (table, job) :: rest)).setJob done.length job' = ⟨d, done ++ (table, job') :: rest⟩ := by
  have hjob : (Pool.mk d (done ++ (table, job) :: rest)).jobs[done.length]? = some (table, job) := by simp
  obtain ⟨before, after, hjobs, hlength, hset⟩ := jobs_eq_append hjob
  obtain ⟨rfl, hafter⟩ := List.append_inj hjobs hlength.symm
  cases hafter
  rw [← hset job']
  rfl

/-- A worker takes the first table that waits, if the others are ended or wait too. -/
theorem step?_take [StandIns] (hw : 0 < workers) (hdone : ∀ job ∈ done, ∃ result, job.2 = .ended result)
    (hrest : ∀ job ∈ rest, job.2 = .waiting) :
    (Pool.mk d (done ++ (table, .waiting) :: rest)).step? a workers .take =
      some ⟨d, done ++ (table, .taken) :: rest⟩ := by
  have idle : (Pool.mk d (done ++ (table, .waiting) :: rest)).busy = 0 := by
    refine List.countP_eq_zero.mpr fun job hjob => ?_
    rcases List.mem_append.mp hjob with hjob | hjob
    · obtain ⟨result, hended⟩ := hdone job hjob
      rw [hended]
      nofun
    · rcases List.mem_cons.mp hjob with rfl | hjob
      · nofun
      · rw [hrest job hjob]
        nofun
  have hnext : (Pool.mk d (done ++ (table, .waiting) :: rest)).next? = some done.length := by
    have hnone : done.findIdx? (·.2.isWaiting) = none := by
      refine List.findIdx?_eq_none_iff.mpr fun job hjob => ?_
      obtain ⟨result, hended⟩ := hdone job hjob
      rw [hended]
      rfl
    rw [next?, List.findIdx?_append, hnone, List.findIdx?_cons, Job.isWaiting]
    simp
  rw [step?, idle, if_pos hw, hnext, Option.map_some, setJob_append]

/-- Tables audited one by one are audited as a run without workers audits them. -/
theorem play?_oneByOne [StandIns] (hw : 0 < workers) (d : Desk σ) (tables : List String)
    (hdone : ∀ job ∈ done, ∃ result, job.2 = .ended result) :
    (Pool.mk d (done ++ tables.map fun table => (table, .waiting))).play? a workers
      (oneByOne done.length tables.length) = some ⟨(a.auditTables d tables).1, done ++ endedJobs a d tables⟩ := by
  induction tables generalizing d done with
  | nil => rfl
  | cons table tables ih =>
    have hrest : ∀ job ∈ tables.map fun table => (table, Job.waiting), job.2 = .waiting := by simp
    rw [List.map_cons, List.length_cons, oneByOne, play?, step?_take hw hdone hrest, Option.bind_some, play?, step?]
    dsimp only
    rw [List.getElem?_append_right (Nat.le_refl _), Nat.sub_self, List.getElem?_cons_zero]
    dsimp only
    rw [setJob_append, Option.bind_some, play?, step?]
    dsimp only
    rw [List.getElem?_append_right (Nat.le_refl _), Nat.sub_self, List.getElem?_cons_zero]
    dsimp only
    rw [setJob_append, Option.bind_some]
    have hended : ∀ job ∈ done ++ [(table, Job.ended (a.auditTable d table).2)], ∃ result, job.2 = .ended result := by
      intro job hjob
      rcases List.mem_append.mp hjob with hjob | hjob
      · exact hdone job hjob
      · rw [List.mem_singleton.mp hjob]
        exact ⟨_, rfl⟩
    have htail := ih (a.auditTable d table).1 hended
    rw [List.append_assoc, List.append_assoc, List.length_append] at htail
    exact htail

theorem outcome?_endedJobs [StandIns] (a : Audit σ) (d : Desk σ) (tables : List String) :
    outcome? (endedJobs a d tables) = some (a.auditTables d tables).2 := by
  have settled (d : Desk σ) (tables : List String) : (endedJobs a d tables).all (·.2.isSettled) = true := by
    induction tables generalizing d with
    | nil => rfl
    | cons table tables ih => exact ih _
  induction tables generalizing d with
  | nil => rfl
  | cons table tables ih =>
    rw [endedJobs, Audit.auditTables]
    rcases a.auditTable d table with ⟨d', f | r⟩
    · dsimp only
      rw [outcome?, settled]
      rfl
    · dsimp only
      rw [outcome?, ih]
      rfl

end Pool

namespace Audit

theorem workerCount_pos {tables : List String} (hne : tables ≠ []) (limit : Int) :
    0 < workerCount limit tables.length := by
  have hlength := List.length_pos_iff.mpr hne
  unfold workerCount
  omega

theorem store_of_conclude {x : Desk σ × Except Failure (List Report)} {result : Except Failure Summary}
    (h : conclude x = (d, result)) : d.store = x.1.store := by
  rcases x with ⟨d', f | reports⟩
  · cases h
    rfl
  · cases h
    rfl

/-- A run fails before it has come to its tables, or it comes to them, whatever it does then. -/
theorem runWith_cases [StandIns] (a : Audit σ) (d : Desk σ) (given : Option (List String)) :
    (∃ d' f, ∀ {β : Type} (failed : Desk σ → Failure → β) (prepared : Desk σ → List String → β),
      a.runWith d given failed prepared = failed d' f) ∨
    ∃ d' tables, ∀ {β : Type} (failed : Desk σ → Failure → β) (prepared : Desk σ → List String → β),
      a.runWith d given failed prepared = prepared d' tables := by
  cases htarget : (a.target d.store given).result with
  | error f => exact Or.inl ⟨_, f, fun failed prepared => runWith_of_no_target htarget failed prepared⟩
  | ok tables =>
    cases hprepare : (a.schemas.prepare d.store d.memory).2.result with
    | error f => exact Or.inl ⟨_, _, fun failed prepared => runWith_of_failure htarget hprepare failed prepared⟩
    | ok => exact Or.inr ⟨_, tables, fun failed prepared => runWith_of_success htarget hprepare failed prepared⟩

/-- What a run does table by table it does on one of the schedules. -/
theorem exists_schedule [StandIns] (a : Audit σ) (limit : Int) (d : Desk σ) (given : Option (List String)) :
    ∃ schedule, a.runPooled? limit schedule d given = some (a.run d given) := by
  rcases a.runWith_cases d given with ⟨d', f, hfailed⟩ | ⟨d', tables, hprepared⟩
  · refine ⟨[], ?_⟩
    rw [runPooled?, run, hfailed, hfailed]
  · refine ⟨Pool.oneByOne 0 tables.length, ?_⟩
    rw [runPooled?, run, hprepared, hprepared, runPrepared]
    cases tables with
    | nil => rfl
    | cons table tables =>
      have hw := workerCount_pos (List.cons_ne_nil table tables) limit
      have hnone : ∀ job ∈ ([] : List (String × Job)), ∃ result, job.2 = .ended result := nofun
      have hplay := Pool.play?_oneByOne (a := a) hw (d'.noting [startNote (table :: tables)]) (table :: tables) hnone
      rw [List.nil_append, List.nil_append] at hplay
      rw [if_neg (by simp), if_neg (by simp), auditPooled?, if_neg (Nat.pos_iff_ne_zero.mp hw), Pool.start]
      rw [List.length_nil] at hplay
      rw [hplay, Option.bind_some, Pool.outcome?_endedJobs]
      rfl

end Audit

end SchemaAudit

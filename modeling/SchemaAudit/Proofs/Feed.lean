import SchemaAudit.Feed

/-! # One document for all of a run

A feed is asked for snapshots and made ready in any order, and a fetch may fail as often as it likes. What the feed is
like then depends only on how often it was made ready: until a fetch has succeeded each preparation is one more fetch,
and from then on the first document that was fetched is served and no fetch is made (`fetched_once`). The invariant
that carries it is `After`. -/

namespace SchemaAudit.Feed

/-- A call of a feed. -/
inductive Call where
  | prepare
  | snapshotFor (table : String)
  deriving DecidableEq

/-- What a call comes to. -/
inductive Answer where
  | prepared (told : Told Unit)
  | snapshot (result : Except Failure Snapshot)

/-- A feed after a call, and what the call came to. What the fetch of a number would come to is `fetch`. -/
def call (fetch : Nat → Told Diagnostics) (f : Feed) : Call → Feed × Answer
  | .prepare => ((f.prepare (fetch f.fetches)).1, .prepared (f.prepare (fetch f.fetches)).2)
  | .snapshotFor table => (f, .snapshot (f.snapshotFor table))

/-- A feed after some calls. -/
def afterCalls (fetch : Nat → Told Diagnostics) (f : Feed) : List Call → Feed
  | [] => f
  | c :: cs => (f.call fetch c).1.afterCalls fetch cs

/-- How many of some calls are to make the feed ready. -/
def preparations (calls : List Call) : Nat := calls.count .prepare

/-- So many fetches, each of which fails. -/
def InVain (fetch : Nat → Told Diagnostics) (count : Nat) : Prop := ∀ n < count, ∃ e, (fetch n).result = .error e

/-- The first fetch that gives a document. -/
structure FirstFetched (fetch : Nat → Told Diagnostics) (n : Nat) (d : Diagnostics) : Prop where
  fetched : (fetch n).result = .ok d
  before : InVain fetch n

/-- A feed that fetched so often in vain. It has no snapshots, and makes the next fetch when it is made ready: a
failure is passed on and leaves the feed waiting, a document is kept. -/
structure Waits (fetch : Nat → Told Diagnostics) (count : Nat) (f : Feed) : Prop where
  state : f = ⟨none, count⟩
  snapshot : ∀ table, f.call fetch (.snapshotFor table) = (f, .snapshot (.error notReady))
  failed : ∀ e, (fetch count).result = .error e →
    f.call fetch .prepare = (⟨none, count + 1⟩, .prepared ⟨(fetch count).notes, .error e⟩)
  fetched : ∀ d, (fetch count).result = .ok d →
    f.call fetch .prepare = (⟨some d, count + 1⟩, .prepared ⟨(fetch count).notes ++ [readyNote d], .ok ()⟩)

/-- A feed that has its document after so many fetches. It serves every table from it and makes no fetch any more. -/
structure Serves (fetch : Nat → Told Diagnostics) (d : Diagnostics) (count : Nat) (f : Feed) : Prop where
  state : f = ⟨some d, count⟩
  snapshot : ∀ table, f.call fetch (.snapshotFor table) = (f, .snapshot (.ok (d.snapshot table)))
  prepare : f.call fetch .prepare = (f, .prepared (pure ()))

variable {fetch : Nat → Told Diagnostics} {f : Feed} {d : Diagnostics} {k n : Nat}

/-! ### One call -/

theorem waits_none (fetch : Nat → Told Diagnostics) (k : Nat) : Waits fetch k ⟨none, k⟩ where
  state := rfl
  snapshot _ := rfl
  failed e h := by simp only [call, prepare, h]
  fetched d h := by simp only [call, prepare, h]

theorem serves_some (fetch : Nat → Told Diagnostics) (d : Diagnostics) (k : Nat) : Serves fetch d k ⟨some d, k⟩ where
  state := rfl
  snapshot _ := rfl
  prepare := rfl

theorem Serves.call (h : Serves fetch d k f) (c : Call) : (f.call fetch c).1 = f := by
  cases c with
  | prepare => rw [h.prepare]
  | snapshotFor table => rw [h.snapshot]

/-- What a feed is like that was made ready so often. -/
inductive After (fetch : Nat → Told Diagnostics) : Nat → Feed → Prop where
  | waiting {k : Nat} : InVain fetch k → After fetch k ⟨none, k⟩
  | serving {k n : Nat} {d : Diagnostics} : FirstFetched fetch n d → n < k → After fetch k ⟨some d, n + 1⟩

theorem InVain.succ {e : Failure} (h : InVain fetch k) (he : (fetch k).result = .error e) : InVain fetch (k + 1) := by
  intro n hn
  rcases Nat.lt_succ_iff_lt_or_eq.mp hn with hn | rfl
  · exact h n hn
  · exact ⟨e, he⟩

theorem After.prepare (h : After fetch k f) : After fetch (k + 1) (f.call fetch .prepare).1 := by
  cases h with
  | waiting vain =>
    cases hfetch : (fetch k).result with
    | error e =>
      rw [(waits_none fetch k).failed e hfetch]
      exact .waiting (vain.succ hfetch)
    | ok d =>
      rw [(waits_none fetch k).fetched d hfetch]
      exact .serving ⟨hfetch, vain⟩ (Nat.lt_succ_self k)
  | serving first hlt =>
    rw [(serves_some fetch _ _).prepare]
    exact .serving first (Nat.lt_succ_of_lt hlt)

/-! ### Calls one after another -/

theorem After.afterCalls (h : After fetch k f) (calls : List Call) :
    After fetch (k + preparations calls) (f.afterCalls fetch calls) := by
  induction calls generalizing k f with
  | nil => exact h
  | cons c calls ih =>
    cases c with
    | prepare =>
      have hcount : preparations (.prepare :: calls) = preparations calls + 1 := List.count_cons_self
      rw [hcount, Nat.add_comm _ 1, ← Nat.add_assoc]
      exact ih h.prepare
    | snapshotFor table => exact ih h

theorem Serves.afterCalls (h : Serves fetch d k f) (calls : List Call) : f.afterCalls fetch calls = f := by
  induction calls with
  | nil => rfl
  | cons c calls ih => rwa [Feed.afterCalls, h.call c]

/-- Among so many fetches either all fail or there is a first one that does not. -/
theorem inVain_or_exists_first (fetch : Nat → Told Diagnostics) (k : Nat) :
    InVain fetch k ∨ ∃ n d, FirstFetched fetch n d ∧ n < k := by
  induction k with
  | zero => exact Or.inl fun n hn => absurd hn (Nat.not_lt_zero n)
  | succ k ih =>
    rcases ih with vain | ⟨n, d, first, hlt⟩
    · cases hfetch : (fetch k).result with
      | error e => exact Or.inl (vain.succ hfetch)
      | ok d => exact Or.inr ⟨k, d, ⟨hfetch, vain⟩, Nat.lt_succ_self k⟩
    · exact Or.inr ⟨n, d, first, Nat.lt_succ_of_lt hlt⟩

theorem InVain.not_lt (h : InVain fetch k) (first : FirstFetched fetch n d) : ¬ n < k := by
  intro hlt
  obtain ⟨e, he⟩ := h n hlt
  rw [first.fetched] at he
  cases he

theorem FirstFetched.unique {n' : Nat} {d' : Diagnostics} (h : FirstFetched fetch n d)
    (h' : FirstFetched fetch n' d') : n = n' ∧ d = d' := by
  have hn : n = n' := by
    rcases Nat.lt_trichotomy n n' with hlt | heq | hlt
    · exact absurd hlt (h'.before.not_lt h)
    · exact heq
    · exact absurd hlt (h.before.not_lt h')
  subst hn
  have hd := h.fetched.symm.trans h'.fetched
  cases hd
  exact ⟨rfl, rfl⟩

/-- At every point of every sequence of calls a feed has either fetched as often as it was made ready, each time in
vain, and then waits; or one of these fetches was the first to give a document, and then that document is served and no
fetch was made after it. A feed that is given its document serves it and never fetches. -/
theorem fetched_once (fetch : Nat → Told Diagnostics) (calls : List Call) :
    (InVain fetch (preparations calls) → Waits fetch (preparations calls) (new.afterCalls fetch calls)) ∧
    (∀ n d, FirstFetched fetch n d → n < preparations calls →
      Serves fetch d (n + 1) (new.afterCalls fetch calls)) ∧
    (InVain fetch (preparations calls) ∨ ∃ n d, FirstFetched fetch n d ∧ n < preparations calls) ∧
    ∀ d, Serves fetch d 0 ((holding d).afterCalls fetch calls) := by
  have after : After fetch (preparations calls) (new.afterCalls fetch calls) := by
    have start : After fetch 0 new := .waiting fun n hn => absurd hn (Nat.not_lt_zero n)
    simpa only [Nat.zero_add] using start.afterCalls calls
  refine ⟨fun vain => ?_, fun n d first hlt => ?_, inVain_or_exists_first fetch _, fun d => ?_⟩
  · generalize (new.afterCalls fetch calls) = f at after
    cases after with
    | waiting => exact waits_none fetch _
    | serving first hlt => exact absurd hlt (vain.not_lt first)
  · generalize (new.afterCalls fetch calls) = f at after
    cases after with
    | waiting vain => exact absurd hlt (vain.not_lt first)
    | serving first' hlt' =>
      obtain ⟨rfl, rfl⟩ := first.unique first'
      exact serves_some fetch _ _
  · have hheld : Serves fetch d 0 (holding d) := serves_some fetch d 0
    rw [hheld.afterCalls calls]
    exact hheld

/-- Fetches of which the second is the first that gives a document. The third one would give another. -/
def secondAttempt : Nat → Told Diagnostics
  | 0 => .fail ⟨.connectivity, "gone"⟩
  | 1 => pure ⟨[⟨"t", "id", "uuid"⟩], [], [], [], [], []⟩
  | _ => pure ⟨[], [], [], [], [], []⟩

/-- A feed that was made ready three times serves the document of the second fetch, which is its last one. -/
theorem fetched_once_second :
    FirstFetched secondAttempt 1 ⟨[⟨"t", "id", "uuid"⟩], [], [], [], [], []⟩ ∧
    Serves secondAttempt ⟨[⟨"t", "id", "uuid"⟩], [], [], [], [], []⟩ 2
      (new.afterCalls secondAttempt [.prepare, .snapshotFor "t", .prepare, .prepare]) := by
  have first : FirstFetched secondAttempt 1 ⟨[⟨"t", "id", "uuid"⟩], [], [], [], [], []⟩ := by
    refine ⟨rfl, fun n hn => ?_⟩
    obtain rfl : n = 0 := by omega
    exact ⟨_, rfl⟩
  obtain ⟨-, serves, -, -⟩ := fetched_once secondAttempt [.prepare, .snapshotFor "t", .prepare, .prepare]
  exact ⟨first, serves 1 _ first (by decide)⟩

end SchemaAudit.Feed

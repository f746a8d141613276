import SchemaAudit.Proofs.File.Saving

/-! # One more entry

An entry is put where there was nothing, nor anything below. A path whose way stays apart from it leads where it led
before and is read as before (`Apart.readText`); all the other paths lead to the new entry or nowhere, as long as they
do not go up again from below it. -/

namespace SchemaAudit

/-- A path taken on by some names. -/
def Path.below (p : Path) (names : List String) : Path := { p with parts := p.parts ++ names }

namespace FileStore

variable {s : FileStore} {q d r : Place} {node : Node} {p : Path} {name : String} {names : List String}

/-- A store that is a tree: its names are plain, and above each entry there is a directory. -/
structure IsTree (s : FileStore) : Prop where
  plain : ∀ entry ∈ s.nodes, ∀ name ∈ entry.1, Path.IsPlain name
  above : ∀ entry ∈ s.nodes, s.node? entry.1.dropLast = some .directory

/-- A place for a new entry: its names are plain ones that the system takes, and there is nothing at it or below it. -/
structure Vacant [StandIns] (s : FileStore) (q : Place) : Prop where
  ne_root : q ≠ []
  plain : ∀ name ∈ q, Path.IsPlain name
  sendable : ∀ name ∈ q, ∀ c ∈ name.toList, Sendable c
  nothing : ∀ entry ∈ s.nodes, ¬ q <+: entry.1

/-! ### Entries -/

theorem mem_of_node? (h : s.node? q = some node) (hq : q ≠ []) : (q, node) ∈ s.nodes := by
  rw [node?, if_neg (by simpa using hq)] at h
  exact mem_of_lookup h

theorem Vacant.node?_eq_none [StandIns] (h : s.Vacant q) (hqr : q <+: r) : s.node? r = none := by
  have hr : r ≠ [] := fun hnil => h.ne_root (List.prefix_nil.mp (hnil ▸ hqr))
  cases hn : s.node? r with
  | none => rfl
  | some node => exact absurd hqr (h.nothing _ (mem_of_node? hn hr))

theorem Vacant.nodes_put [StandIns] (h : s.Vacant q) : (s.put q node).nodes = (q, node) :: s.nodes := by
  refine congrArg _ (List.filter_eq_self.mpr fun entry hentry => ?_)
  rw [decide_eq_true_eq]
  rintro rfl
  exact h.nothing entry hentry (List.prefix_refl _)

/-- Nothing is below a new entry. -/
theorem Vacant.eq_nil_of_mem_put [StandIns]
    (h : s.Vacant q) {entry : Node} (hentry : (q ++ names, entry) ∈ (s.put q node).nodes) :
    names = [] := by
  rw [h.nodes_put] at hentry
  rcases List.mem_cons.mp hentry with hself | hold
  · exact List.append_right_eq_self.mp (congrArg Prod.fst hself)
  · exact absurd (List.prefix_append q names) (h.nothing _ hold)

/-- Above a directory of a tree there is a directory. -/
theorem IsTree.node?_dropLast (h : s.IsTree) (hd : s.node? d = some .directory) :
    s.node? d.dropLast = some .directory := by
  by_cases hnil : d = []
  · rw [hnil]
    exact node?_root s
  · exact h.above _ (mem_of_node? hd hnil)

/-! ### Ways -/

/-- Where the names of a path lead, whatever the length of its text. -/
def way (s : FileStore) (p : Path) : Except SystemRefusal Place :=
  s.walk (if p.root = "" then s.here else []) p.parts

theorem way_of_place [StandIns] (h : s.place p = .ok q) : s.way p = .ok q := (place_eq_ok_iff.mp h).2.2

theorem place_of_way [StandIns] {s' : FileStore} (h : s'.way p = s.way p) : s'.place p = s.place p := by
  unfold way at h
  unfold place
  rw [h]

theorem way_below (s : FileStore) (p : Path) (names : List String) :
    s.way (p.below names) = (s.way p).bind fun d => s.walk d names := walk_append s _ _ _

theorem walk_one (s : FileStore) (d : Place) (name : String) : s.walk d [name] = match s.node? d with
    | none => .error .noEntry
    | some (.file _) => .error .notDirectory
    | some .directory =>
      if nameLimit < name.utf8ByteSize then .error .nameTooLong
      else .ok (if name = ".." then d.dropLast else d ++ [name]) := by
  rw [walk]
  rfl

theorem walk_one_put (h : d ≠ q) : (s.put q node).walk d [name] = s.walk d [name] := by
  rw [walk_one, walk_one, node?_put_of_ne h]

/-- Names that do not go up lead down. -/
theorem eq_append_of_walk (hnames : ".." ∉ names) (h : s.walk d names = .ok r) : r = d ++ names := by
  induction names generalizing d with
  | nil =>
    cases h
    exact (List.append_nil _).symm
  | cons name names ih =>
    rw [List.mem_cons, not_or] at hnames
    rw [walk] at h
    split at h
    · cases h
    · cases h
    · split at h
      · cases h
      · rw [if_neg (Ne.symm hnames.1)] at h
        rw [ih hnames.2 h, List.append_assoc, List.singleton_append]

/-- Names that lead to a place that is not the new one, nor below it, lead there as before. -/
theorem walk_put (hnames : ".." ∉ names) (h : ¬ q <+: d ++ names) :
    (s.put q node).walk d names = s.walk d names ∧ s.walk d names ≠ .ok q := by
  induction names generalizing d with
  | nil =>
    refine ⟨rfl, fun heq => h ?_⟩
    cases heq
    exact List.prefix_append q []
  | cons name names ih =>
    have hdq : d ≠ q := by
      rintro rfl
      exact h (List.prefix_append d _)
    rw [List.mem_cons, not_or] at hnames
    have hrest := ih (d := d ++ [name]) hnames.2 (by rwa [List.append_assoc, List.singleton_append])
    rw [walk, walk, node?_put_of_ne hdq, if_neg (Ne.symm hnames.1)]
    cases s.node? d with
    | none => exact ⟨rfl, by simp⟩
    | some node =>
      cases node with
      | file bytes => exact ⟨rfl, by simp⟩
      | directory =>
        dsimp only
        split
        · exact ⟨rfl, by simp⟩
        · exact hrest

/-! ### Paths apart from the new entry -/

/-- A path that leads where it led before, and not to the new entry. -/
structure Apart (s : FileStore) (q : Place) (node : Node) (p : Path) : Prop where
  way : (s.put q node).way p = s.way p
  ne : s.way p ≠ .ok q

theorem Apart.place [StandIns] (h : Apart s q node p) : (s.put q node).place p = s.place p := place_of_way h.way

theorem Apart.way_below (h : Apart s q node p) (name : String) :
    (s.put q node).way (p.below [name]) = s.way (p.below [name]) := by
  rw [FileStore.way_below, FileStore.way_below, h.way]
  cases hd : s.way p with
  | error refusal => rfl
  | ok d => exact walk_one_put fun heq => h.ne (heq ▸ hd)

theorem Apart.ne_of_place [StandIns] (h : Apart s q node p) (hd : s.place p = .ok d) : d ≠ q := by
  rintro rfl
  exact h.ne (way_of_place hd)

theorem Apart.node?_place [StandIns] (h : Apart s q node p) (hd : s.place p = .ok d) :
    (s.put q node).node? d = s.node? d :=
  node?_put_of_ne (h.ne_of_place hd)

theorem Apart.readText [StandIns] (h : Apart s q node p) : (s.put q node).readText p = s.readText p := by
  have hbytes : (s.put q node).readBytes p = s.readBytes p := by
    cases hd : s.place p with
    | error fault => rw [readBytes_of_error hd, readBytes_of_error (h.place.trans hd)]
    | ok d =>
      rw [readBytes_of_place hd, readBytes_of_place (h.place.trans hd), h.node?_place hd]
      rfl
  unfold FileStore.readText
  rw [hbytes]

/-- A path on from there to an old entry stays apart too. -/
theorem Apart.below [StandIns] (h : Apart s q node p) (tree : s.IsTree) (vacant : s.Vacant q) (hd : s.place p = .ok d)
    {entry : Node} (hentry : (d ++ names, entry) ∈ s.nodes) : Apart s q node (p.below names) := by
  have hdown : ".." ∉ names := fun hdots => (tree.plain _ hentry _ (List.mem_append_right d hdots)).ne_dots rfl
  have hway := way_of_place hd
  obtain ⟨hsame, hne⟩ : (s.put q node).walk d names = s.walk d names ∧ s.walk d names ≠ .ok q :=
    walk_put hdown (vacant.nothing _ hentry)
  refine ⟨?_, ?_⟩
  · rw [FileStore.way_below, FileStore.way_below, h.way, hway]
    exact hsame
  · rw [FileStore.way_below, hway]
    exact hne

/-- A path to a directory stays apart from a new entry. -/
theorem apart_of_hasDirectory [StandIns] (vacant : s.Vacant q) (hd : s.HasDirectory p d) : Apart s q node p := by
  have hdq : s.node? q = none := vacant.node?_eq_none (List.prefix_refl q)
  have kept : Kept (fun r => r = q) s (s.put q node) :=
    kept_put_of_ne (by rw [hdq]; exact nofun) fun hne => absurd rfl hne
  have hway := way_of_place hd.1
  refine ⟨(kept.walk hway).trans hway.symm, fun heq => ?_⟩
  cases hway.symm.trans heq
  cases hd.2.symm.trans hdq

theorem HasDirectory.put [StandIns] (h : s.HasDirectory p d) (vacant : s.Vacant q) (node : Node) :
    (s.put q node).HasDirectory p d := by
  have apart : Apart s q node p := apart_of_hasDirectory vacant h
  exact ⟨apart.place.trans h.1, (apart.node?_place h.1).trans h.2⟩

/-! ### Paths to the new entry -/

/-- A path that the system takes, and that leads nowhere but to one place. -/
structure Leads [StandIns] (s : FileStore) (q : Place) (p : Path) : Prop where
  sendable : p.IsSendable
  way : ∀ r, s.way p = .ok r → r = q

theorem Apart.leads_below [StandIns]
    (h : Apart s (d ++ names) node p) (vacant : s.Vacant (d ++ names)) (hd : s.place p = .ok d) :
    Leads (s.put (d ++ names) node) (d ++ names) (p.below names) := by
  have hsend := Path.isSendable_iff.mp (place_eq_ok_iff.mp hd).1
  refine ⟨Path.isSendable_iff.mpr ⟨hsend.1, fun part hpart => ?_⟩, fun r hr => ?_⟩
  · rcases List.mem_append.mp hpart with hold | hnew
    · exact hsend.2 part hold
    · exact vacant.sendable part (List.mem_append_right d hnew)
  · rw [FileStore.way_below, h.way, way_of_place hd] at hr
    exact eq_append_of_walk (fun hdots => (vacant.plain _ (List.mem_append_right d hdots)).ne_dots rfl) hr

theorem Leads.place [StandIns] (h : Leads s q p) (hr : s.place p = .ok r) : r = q := h.way r (way_of_place hr)

theorem Leads.way_below [StandIns] (h : Leads s q p) (hname : name ≠ "..") (hr : s.way (p.below [name]) = .ok r) :
    r = q ++ [name] := by
  rw [FileStore.way_below] at hr
  cases hd : s.way p with
  | error refusal =>
    rw [hd] at hr
    cases hr
  | ok d =>
    rw [hd] at hr
    rw [← h.way d hd]
    exact eq_append_of_walk (by simpa using Ne.symm hname) hr

/-- A path to an entry is refused by the system, or is read as what the entry holds. -/
theorem Leads.readText [StandIns] (h : Leads s q p) :
    (∃ refusal named, s.readText p = .error (.file (.refused refusal named))) ∨
    (s.place p = .ok q ∧ s.locked q = false ∧ ∃ bytes, s.node? q = some (.file bytes) ∧ s.readBytes p = .ok bytes) := by
  rcases s.readBytes_cases p with ⟨-, bytes, hbytes⟩ | ⟨-, refusal, hrefused⟩ | ⟨hsend, -⟩
  · obtain ⟨r, hr, unlocked, hfile⟩ := readBytes_eq_ok_iff.mp hbytes
    obtain rfl := h.place hr
    exact Or.inr ⟨hr, unlocked, bytes, file?_eq_some_iff.mp hfile, hbytes⟩
  · refine Or.inl ⟨refusal, p, ?_⟩
    rw [FileStore.readText, hrefused]
  · exact absurd h.sendable hsend

end FileStore

end SchemaAudit

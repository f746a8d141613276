import SchemaAudit.File.Glob
import SchemaAudit.Proofs.File.Addition

/-! # Patterns and one more entry

The names of a pattern are looked for one after another: each takes a path on to some next ones (`nexts`). A new entry
keeps the next paths, and adds none but itself (`nexts_put`). So what a pattern picks out of a store with a new entry is
what it picked out without it, and the entry (`find_put`). A pattern that goes up again from below a new directory is
left out: it reaches what it did not reach before. -/

namespace SchemaAudit

/-! ### Lists of results -/

section Results
variable {ε α β : Type} {f : α → Except ε β} {xs : List α} {ys : List β}

theorem map_eq_ok_iff {g : α → β} {r : Except ε α} {b : β} : r.map g = .ok b ↔ ∃ a, r = .ok a ∧ b = g a := by
  cases r with
  | error e => simp [Except.map]
  | ok a => simp [Except.map, eq_comm]

theorem mapM_cons_eq_ok_iff {x : α} : (x :: xs).mapM f = .ok ys ↔
    ∃ y rest, f x = .ok y ∧ xs.mapM f = .ok rest ∧ ys = y :: rest := by
  rw [List.mapM_cons]
  cases f x with
  | error e => simp [bind, Except.bind]
  | ok y =>
    cases xs.mapM f with
    | error e => simp [bind, Except.bind]
    | ok rest => simp [bind, Except.bind, pure, Except.pure, eq_comm]

theorem exists_mapM_iff : (∃ ys, xs.mapM f = .ok ys) ↔ ∀ x ∈ xs, ∃ y, f x = .ok y := by
  induction xs with
  | nil => exact ⟨fun _ => nofun, fun _ => ⟨[], rfl⟩⟩
  | cons x xs ih =>
    rw [List.forall_mem_cons, ← ih]
    constructor
    · rintro ⟨ys, h⟩
      obtain ⟨y, rest, hy, hrest, -⟩ := mapM_cons_eq_ok_iff.mp h
      exact ⟨⟨y, hy⟩, rest, hrest⟩
    · rintro ⟨⟨y, hy⟩, rest, hrest⟩
      exact ⟨y :: rest, mapM_cons_eq_ok_iff.mpr ⟨y, rest, hy, hrest, rfl⟩⟩

theorem mem_of_mapM (h : xs.mapM f = .ok ys) (y : β) : y ∈ ys ↔ ∃ x ∈ xs, f x = .ok y := by
  induction xs generalizing ys with
  | nil =>
    cases h
    simp
  | cons x xs ih =>
    obtain ⟨y', rest, hy, hrest, rfl⟩ := mapM_cons_eq_ok_iff.mp h
    rw [List.mem_cons, ih hrest, eq_comm (a := y)]
    simp [hy]

end Results

namespace Glob

open FileStore

variable {s : FileStore} {p r x : Path} {q d : Place} {node : Node} {name : String} {names : List String}
  {found found' xs xs' : List Path}

/-! ### One name -/

/-- Whether a name in a directory fits a pattern, as one that other names follow or as the last one. -/
def Fits (s : FileStore) (name : String) (names : List String) (d : Place) (n : String) : Bool :=
  stands (elements name) n.toList && (names.isEmpty || s.node? (d ++ [n]) = some .directory)

/-- Whether there is something at a path, a directory if other names follow. -/
def sees [StandIns] (s : FileStore) (names : List String) (x : Path) : Except FileFault Bool :=
  if names.isEmpty then s.isThere x else s.isDirectory x

/-- The paths from which the names that follow a name are looked for. -/
def nexts [StandIns] (s : FileStore) (p : Path) (name : String) (names : List String) : Except FileFault (List Path) :=
  if name = "**" then (s.place p).map (directoriesFrom s p)
  else if isPattern name then
    (s.place p).map fun d => ((s.namesIn d).filter (Fits s name names d)).map fun n => p.below [n]
  else (sees s names (p.below [name])).map fun there => if there then [p.below [name]] else []

theorem select_cons [StandIns] (s : FileStore) (p : Path) (hname : name ≠ "") (names : List String) :
    select s p (name :: names) = (nexts s p name names).bind fun xs =>
      (xs.mapM fun x => select s x names).map fun founds =>
        if name = "**" then founds.flatten.eraseDups else founds.flatten := by
  rw [select, if_neg hname, nexts]
  by_cases hstars : name = "**"
  · simp only [if_pos hstars]
    cases s.place p with
    | error fault => rfl
    | ok d => simp [bind, Except.bind, Except.map, pure, Except.pure]
  · simp only [if_neg hstars]
    by_cases hpattern : isPattern name = true
    · simp only [if_pos hpattern]
      cases s.place p with
      | error fault => rfl
      | ok d =>
        simp only [bind, Except.bind, Except.map, List.mapM_map]
        rfl
    · simp only [if_neg hpattern]
      have hlook (there : Except FileFault Bool) :
          (do if ← there then select s (p.below [name]) names else return []) =
            (there.map fun there => if there then [p.below [name]] else []).bind fun xs =>
              (xs.mapM fun x => select s x names).map fun founds => founds.flatten := by
        cases there with
        | error fault => rfl
        | ok there =>
          cases there with
          | false => rfl
          | true =>
            simp only [Except.map, Except.bind, if_true, List.mapM_cons, List.mapM_nil]
            change select s (p.below [name]) names = _
            cases select s (p.below [name]) names with
            | error fault => rfl
            | ok found => simp [bind, Except.bind, pure, Except.pure]
      rw [← hlook]
      cases names <;> rfl

theorem exists_select_cons_iff [StandIns] (hname : name ≠ "") : (∃ found, select s p (name :: names) = .ok found) ↔
    ∃ xs, nexts s p name names = .ok xs ∧ ∀ x ∈ xs, ∃ found, select s x names = .ok found := by
  rw [select_cons s p hname]
  cases nexts s p name names with
  | error fault => exact ⟨(nomatch ·), (nomatch ·)⟩
  | ok xs =>
    simp only [Except.ok.injEq, exists_eq_left', ← exists_mapM_iff]
    change (∃ found, (xs.mapM fun x => select s x names).map _ = .ok found) ↔ _
    cases xs.mapM fun x => select s x names with
    | error fault => exact ⟨(nomatch ·), (nomatch ·)⟩
    | ok founds => exact ⟨fun _ => ⟨founds, rfl⟩, fun _ => ⟨_, rfl⟩⟩

theorem mem_select_cons [StandIns] (hname : name ≠ "") (hxs : nexts s p name names = .ok xs)
    (hfound : select s p (name :: names) = .ok found) :
    r ∈ found ↔ ∃ x ∈ xs, ∃ more, select s x names = .ok more ∧ r ∈ more := by
  rw [select_cons s p hname, hxs] at hfound
  change (xs.mapM fun x => select s x names).map _ = .ok found at hfound
  cases hfounds : xs.mapM fun x => select s x names with
  | error fault =>
    rw [hfounds] at hfound
    cases hfound
  | ok founds =>
    rw [hfounds] at hfound
    have hmem : r ∈ found ↔ ∃ more ∈ founds, r ∈ more := by
      cases hfound
      split
      · rw [List.mem_eraseDups, List.mem_flatten]
      · rw [List.mem_flatten]
    rw [hmem]
    simp only [mem_of_mapM hfounds]
    constructor
    · rintro ⟨more, ⟨x, hx, hmore⟩, hr⟩
      exact ⟨x, hx, more, hmore, hr⟩
    · rintro ⟨x, hx, more, hmore, hr⟩
      exact ⟨more, ⟨x, hx, hmore⟩, hr⟩

/-! ### The next paths and one more entry -/

theorem mem_namesIn_iff : name ∈ s.namesIn d ↔ ∃ node, (d ++ [name], node) ∈ s.nodes := by
  have hone (r : Place) : (if r.dropLast = d then r.getLast? else none) = some name ↔ r = d ++ [name] := by
    constructor
    · intro h
      split at h
      · rename_i hd
        obtain ⟨before, rfl⟩ := List.getLast?_eq_some_iff.mp h
        rw [List.dropLast_concat] at hd
        rw [hd]
      · cases h
    · rintro rfl
      rw [List.dropLast_concat, if_pos rfl, List.getLast?_concat]
  unfold FileStore.namesIn
  rw [List.mem_filterMap]
  constructor
  · rintro ⟨⟨r, node⟩, hentry, hr⟩
    rw [(hone r).mp hr] at hentry
    exact ⟨node, hentry⟩
  · rintro ⟨node, hentry⟩
    exact ⟨_, hentry, (hone _).mpr rfl⟩

theorem mem_directoriesFrom_iff : r ∈ directoriesFrom s p d ↔
    r = p ∨ ∃ names, names ≠ [] ∧ (d ++ names, Node.directory) ∈ s.nodes ∧ r = p.below names := by
  unfold directoriesFrom
  rw [List.mem_cons, List.mem_filterMap]
  refine or_congr_right ⟨?_, ?_⟩
  · rintro ⟨⟨q, node⟩, hentry, hr⟩
    dsimp only at hr
    split at hr
    · rename_i hbelow
      simp only [Bool.and_eq_true, decide_eq_true_eq] at hbelow
      obtain ⟨⟨rfl, hpre⟩, hne⟩ := hbelow
      obtain ⟨names, rfl⟩ := List.isPrefixOf_iff_prefix.mp hpre
      rw [List.drop_left] at hr
      cases hr
      refine ⟨names, ?_, hentry, rfl⟩
      rintro rfl
      exact hne (List.append_nil d)
    · cases hr
  · rintro ⟨names, hne, hentry, rfl⟩
    refine ⟨_, hentry, ?_⟩
    simp [hne, Path.below]

/-- What the paths next to look from are when there is one more entry: those that were, and perhaps the entry. -/
structure Adds [StandIns]
    (s : FileStore) (q : Place) (node : Node) (name : String) (names : List String) (xs xs' : List Path) :
    Prop where
  old : ∀ x ∈ xs, x ∈ xs' ∧ Apart s q node x
  new : ∀ x ∈ xs', x ∈ xs ∨ (Leads (s.put q node) q x ∧ name ≠ ".." ∧ (names = [] ∨ node = .directory))

theorem nexts_stars_put [StandIns]
    (tree : s.IsTree) (vacant : s.Vacant q) (apart : Apart s q node p) (hd : s.place p = .ok d) :
    Adds s q node "**" names (directoriesFrom s p d) (directoriesFrom (s.put q node) p d) := by
  refine ⟨fun x hx => ?_, fun x hx => ?_⟩
  · rw [mem_directoriesFrom_iff] at hx ⊢
    rw [vacant.nodes_put]
    rcases hx with rfl | ⟨down, hne, hentry, rfl⟩
    · exact ⟨Or.inl rfl, apart⟩
    · exact ⟨Or.inr ⟨down, hne, List.mem_cons_of_mem _ hentry, rfl⟩, apart.below tree vacant hd hentry⟩
  · rw [mem_directoriesFrom_iff] at hx ⊢
    rw [vacant.nodes_put] at hx
    rcases hx with rfl | ⟨down, hne, hentry, rfl⟩
    · exact Or.inl (Or.inl rfl)
    · rcases List.mem_cons.mp hentry with hself | hold
      · cases hself
        exact Or.inr ⟨apart.leads_below vacant hd, by decide, Or.inr rfl⟩
      · exact Or.inl (Or.inr ⟨down, hne, hold, rfl⟩)

theorem nexts_pattern_put [StandIns] (tree : s.IsTree) (vacant : s.Vacant q) (apart : Apart s q node p)
    (hd : s.place p = .ok d) (hname : isPattern name = true) : Adds s q node name names
      (((s.namesIn d).filter (Fits s name names d)).map fun n => p.below [n])
      ((((s.put q node).namesIn d).filter (Fits (s.put q node) name names d)).map fun n => p.below [n]) := by
  have hfits {n : String} (hne : d ++ [n] ≠ q) : Fits (s.put q node) name names d n = Fits s name names d n := by
    unfold Fits
    rw [node?_put_of_ne hne]
  have hold {n : String} {entry : Node} (hentry : (d ++ [n], entry) ∈ s.nodes) : d ++ [n] ≠ q := by
    rintro rfl
    exact vacant.nothing _ hentry (List.prefix_refl _)
  refine ⟨fun x hx => ?_, fun x hx => ?_⟩
  · obtain ⟨n, hn, rfl⟩ := List.mem_map.mp hx
    obtain ⟨hin, hfit⟩ := List.mem_filter.mp hn
    obtain ⟨entry, hentry⟩ := mem_namesIn_iff.mp hin
    refine ⟨List.mem_map.mpr ⟨n, List.mem_filter.mpr ⟨?_, ?_⟩, rfl⟩, apart.below tree vacant hd hentry⟩
    · rw [mem_namesIn_iff, vacant.nodes_put]
      exact ⟨entry, List.mem_cons_of_mem _ hentry⟩
    · rw [hfits (hold hentry)]
      exact hfit
  · obtain ⟨n, hn, rfl⟩ := List.mem_map.mp hx
    obtain ⟨hin, hfit⟩ := List.mem_filter.mp hn
    rw [mem_namesIn_iff, vacant.nodes_put] at hin
    obtain ⟨entry, hentry⟩ := hin
    rcases List.mem_cons.mp hentry with hself | hentry
    · cases hself
      refine Or.inr ⟨apart.leads_below vacant hd, ?_, ?_⟩
      · rintro rfl
        cases hname
      · have hsome : (s.put (d ++ [n]) node).node? (d ++ [n]) = some node := node?_put_self vacant.ne_root
        unfold Fits at hfit
        rw [hsome] at hfit
        simpa using (Bool.and_eq_true_iff.mp hfit).2
    · refine Or.inl (List.mem_map.mpr ⟨n, List.mem_filter.mpr ⟨mem_namesIn_iff.mpr ⟨entry, hentry⟩, ?_⟩, rfl⟩)
      rw [← hfits (hold hentry)]
      exact hfit

/-- Whether what is at a place is seen there: anything, or only a directory if other names follow. -/
def isSeen (names : List String) : Option Node → Bool
  | none => false
  | some node => names.isEmpty || node = .directory

theorem sees_of_place [StandIns] (h : s.place x = .ok d) : sees s names x = .ok (isSeen names (s.node? d)) := by
  unfold sees isThere isDirectory
  simp only [h]
  cases names with
  | nil => cases s.node? d <;> rfl
  | cons name names =>
    cases s.node? d with
    | none => rfl
    | some node => simp [isSeen]

/-- What is seen at a path without a place: a length that is too much is refused. -/
def unseen : FileFault → Except FileFault Bool
  | .refused .nameTooLong named => .error (.refused .nameTooLong named)
  | _ => .ok false

theorem sees_of_error [StandIns] {fault : FileFault} (h : s.place x = .error fault) :
    sees s names x = unseen fault := by
  unfold sees isThere isDirectory unseen
  simp only [h]
  cases fault with
  | unsent cause => exact ite_id _
  | refused refusal named => cases refusal <;> exact ite_id _

theorem ne_dots_of_way [StandIns] (tree : s.IsTree) (vacant : s.Vacant q) (h : s.way (p.below [name]) = .ok q) :
    name ≠ ".." := by
  rintro rfl
  rw [way_below] at h
  cases hd : s.way p with
  | error refusal =>
    rw [hd] at h
    cases h
  | ok d =>
    rw [hd] at h
    change s.walk d [".."] = .ok q at h
    rw [walk_one] at h
    split at h
    · cases h
    · cases h
    · rename_i hdir
      rw [if_neg (by decide), if_pos rfl] at h
      cases h
      cases (tree.node?_dropLast hdir).symm.trans (vacant.node?_eq_none (List.prefix_refl _))

theorem nexts_name_put [StandIns] (tree : s.IsTree) (vacant : s.Vacant q) (apart : Apart s q node p) (name : String)
    (names : List String) :
    (∃ fault, sees s names (p.below [name]) = .error fault ∧
      sees (s.put q node) names (p.below [name]) = .error fault) ∨
    ∃ there there', sees s names (p.below [name]) = .ok there ∧
      sees (s.put q node) names (p.below [name]) = .ok there' ∧
      Adds s q node name names (if there then [p.below [name]] else []) (if there' then [p.below [name]] else []) := by
  have hway := apart.way_below name
  have hplace := place_of_way hway
  cases hr : s.place (p.below [name]) with
  | error fault =>
    rw [hr] at hplace
    rw [sees_of_error hr, sees_of_error hplace]
    unfold unseen
    split
    · exact Or.inl ⟨_, rfl, rfl⟩
    · exact Or.inr ⟨false, false, rfl, rfl, nofun, nofun⟩
  | ok r =>
    rw [hr] at hplace
    rw [sees_of_place hr, sees_of_place hplace]
    refine Or.inr ⟨_, _, rfl, rfl, ?_⟩
    -- the path leads to the entry itself, where there was nothing to see before, or to where nothing has changed
    by_cases hrq : r = q
    · subst hrq
      rw [vacant.node?_eq_none (List.prefix_refl r), node?_put_self vacant.ne_root]
      refine ⟨nofun, fun x hx => ?_⟩
      rw [List.mem_ite_nil_right, List.mem_singleton] at hx
      obtain ⟨hseen, rfl⟩ := hx
      refine Or.inr ⟨⟨(place_eq_ok_iff.mp hr).1, fun r' hr' => ?_⟩, ne_dots_of_way tree vacant (way_of_place hr), ?_⟩
      · cases hr'.symm.trans (hway.trans (way_of_place hr))
        rfl
      · simpa [isSeen] using hseen
    · rw [node?_put_of_ne hrq]
      refine ⟨fun x hx => ⟨hx, ?_⟩, fun x hx => Or.inl hx⟩
      rw [List.mem_ite_nil_right, List.mem_singleton] at hx
      obtain ⟨-, rfl⟩ := hx
      refine ⟨hway, fun h => hrq ?_⟩
      cases h.symm.trans (way_of_place hr)
      rfl

/-- A new entry keeps the next paths, and adds none but itself. -/
theorem nexts_put [StandIns] (tree : s.IsTree) (vacant : s.Vacant q) (apart : Apart s q node p) (name : String)
    (names : List String) :
    (∃ fault, nexts s p name names = .error fault ∧ nexts (s.put q node) p name names = .error fault) ∨
    ∃ xs xs', nexts s p name names = .ok xs ∧ nexts (s.put q node) p name names = .ok xs' ∧
      Adds s q node name names xs xs' := by
  unfold nexts
  rw [apart.place]
  by_cases hstars : name = "**"
  · subst hstars
    simp only [if_pos]
    cases hd : s.place p with
    | error fault => exact Or.inl ⟨fault, rfl, rfl⟩
    | ok d => exact Or.inr ⟨_, _, rfl, rfl, nexts_stars_put tree vacant apart hd⟩
  · simp only [if_neg hstars]
    by_cases hname : isPattern name = true
    · simp only [if_pos hname]
      cases hd : s.place p with
      | error fault => exact Or.inl ⟨fault, rfl, rfl⟩
      | ok d => exact Or.inr ⟨_, _, rfl, rfl, nexts_pattern_put tree vacant apart hd hname⟩
    · simp only [if_neg hname]
      rcases nexts_name_put tree vacant apart name names with
        ⟨fault, h, h'⟩ | ⟨there, there', h, h', hadds⟩
      · rw [h, h']
        exact Or.inl ⟨fault, rfl, rfl⟩
      · rw [h, h']
        exact Or.inr ⟨_, _, rfl, rfl, hadds⟩

/-! ### Looking on from the new entry -/

theorem eq_of_mem_directoriesFrom [StandIns] (vacant : s.Vacant q) (hx : x ∈ directoriesFrom (s.put q node) p q) :
    x = p := by
  rcases mem_directoriesFrom_iff.mp hx with rfl | ⟨more, hne, hentry, -⟩
  · rfl
  · exact absurd (vacant.eq_nil_of_mem_put hentry) hne

theorem not_mem_namesIn [StandIns] (vacant : s.Vacant q) : name ∉ (s.put q node).namesIn q := by
  intro hname
  obtain ⟨entry, hentry⟩ := mem_namesIn_iff.mp hname
  cases vacant.eq_nil_of_mem_put hentry

theorem eq_false_of_sees [StandIns]
    (vacant : s.Vacant q) (leads : Leads (s.put q node) q p) (hname : name ≠ "..") {there : Bool}
    (hsees : sees (s.put q node) names (p.below [name]) = .ok there) : there = false := by
  cases hr : (s.put q node).place (p.below [name]) with
  | error fault =>
    rw [sees_of_error hr] at hsees
    unfold unseen at hsees
    split at hsees
    · cases hsees
    · cases hsees
      rfl
  | ok r =>
    obtain rfl := leads.way_below hname (way_of_place hr)
    have hnone : (s.put q node).node? (q ++ [name]) = none := by
      rw [node?_put_of_ne (by simp), vacant.node?_eq_none (List.prefix_append q _)]
    rw [sees_of_place hr, hnone] at hsees
    cases hsees
    rfl

/-- From the new entry there is no way on but to stay there. -/
theorem nexts_of_leads [StandIns] (vacant : s.Vacant q) (leads : Leads (s.put q node) q p) (hname : name ≠ "..")
    (hxs : nexts (s.put q node) p name names = .ok xs) : ∀ x ∈ xs, x = p := by
  intro x hx
  unfold nexts at hxs
  split at hxs
  · obtain ⟨d, hd, rfl⟩ := map_eq_ok_iff.mp hxs
    obtain rfl := leads.place hd
    exact eq_of_mem_directoriesFrom vacant hx
  · split at hxs
    · obtain ⟨d, hd, rfl⟩ := map_eq_ok_iff.mp hxs
      obtain rfl := leads.place hd
      obtain ⟨n, hn, -⟩ := List.mem_map.mp hx
      exact absurd (List.mem_filter.mp hn).1 (not_mem_namesIn vacant)
    · obtain ⟨there, hsees, rfl⟩ := map_eq_ok_iff.mp hxs
      rw [eq_false_of_sees vacant leads hname hsees] at hx
      cases hx

/-- Names that do not go up pick out nothing below the new entry. -/
theorem select_of_leads [StandIns] (vacant : s.Vacant q) (leads : Leads (s.put q node) q p) (hnames : ".." ∉ names)
    (hfound : select (s.put q node) p names = .ok found) : ∀ r ∈ found, r = p := by
  induction names generalizing found with
  | nil =>
    cases hfound
    simp
  | cons name names ih =>
    rw [List.mem_cons, not_or] at hnames
    by_cases hname : name = ""
    · subst hname
      rw [select, if_pos rfl] at hfound
      cases hfound
      simp
    · intro r hr
      obtain ⟨xs, hxs, -⟩ := (exists_select_cons_iff hname).mp ⟨found, hfound⟩
      obtain ⟨x, hx, more, hmore, hrx⟩ := (mem_select_cons hname hxs hfound).mp hr
      obtain rfl := nexts_of_leads vacant leads (Ne.symm hnames.1) hxs x hx
      exact ih hnames.2 hmore r hrx

/-! ### What a pattern picks out -/

/-- Names that go up at the start only. -/
def GoesDown (names : List String) : Prop := ".." ∉ names.dropWhile (· = "..")

theorem goesDown_cons (h : name ≠ "..") : GoesDown (name :: names) ↔ ".." ∉ name :: names := by
  simp [GoesDown, h]

theorem GoesDown.tail (h : GoesDown (name :: names)) : GoesDown names := by
  by_cases hdots : name = ".."
  · subst hdots
    simpa [GoesDown] using h
  · have hnames := (goesDown_cons hdots).mp h
    exact fun hmem => hnames (List.mem_cons_of_mem _ (List.dropWhile_subset _ hmem))

/-- With a new entry a pattern still picks out what it did, by paths that stay apart from the entry; all else that it
picks out is the entry. -/
theorem select_put [StandIns] (tree : s.IsTree) (vacant : s.Vacant q) (down : node = .directory → GoesDown names)
    (apart : Apart s q node p) (hfound' : select (s.put q node) p names = .ok found') :
    ∃ found, select s p names = .ok found ∧ (∀ r ∈ found, r ∈ found' ∧ Apart s q node r) ∧
      ∀ r ∈ found', r ∈ found ∨ Leads (s.put q node) q r := by
  induction names generalizing p found' with
  | nil =>
    cases hfound'
    exact ⟨[p], rfl, by simp [apart], by simp⟩
  | cons name names ih =>
    by_cases hname : name = ""
    · subst hname
      rw [select, if_pos rfl] at hfound' ⊢
      cases hfound'
      exact ⟨[p], rfl, by simp [apart], by simp⟩
    · obtain ⟨xs', hxs', hall'⟩ := (exists_select_cons_iff hname).mp ⟨found', hfound'⟩
      obtain ⟨fault, -, herror⟩ | ⟨xs, xs'', hxs, hxs'', hadds⟩ := nexts_put tree vacant apart name names
      · cases hxs'.symm.trans herror
      cases hxs'.symm.trans hxs''
      have hold (x : Path) (hx : x ∈ xs) : ∃ more, select s x names = .ok more ∧
          ∃ more', select (s.put q node) x names = .ok more' ∧ (∀ r ∈ more, r ∈ more' ∧ Apart s q node r) ∧
            ∀ r ∈ more', r ∈ more ∨ Leads (s.put q node) q r := by
        obtain ⟨hx', hapart⟩ := hadds.old x hx
        obtain ⟨more', hmore'⟩ := hall' x hx'
        obtain ⟨more, hmore, hkept, hnew⟩ := ih (fun hnode => (down hnode).tail) hapart hmore'
        exact ⟨more, hmore, more', hmore', hkept, hnew⟩
      obtain ⟨found, hfound⟩ :=
        (exists_select_cons_iff hname).mpr ⟨xs, hxs, fun x hx => (hold x hx).imp fun _ h => h.1⟩
      have hmem (r : Path) := mem_select_cons (r := r) hname hxs hfound
      have hmem' (r : Path) := mem_select_cons (r := r) hname hxs' hfound'
      refine ⟨found, hfound, fun r hr => ?_, fun r hr => ?_⟩
      · obtain ⟨x, hx, more, hmore, hrx⟩ := (hmem r).mp hr
        obtain ⟨_, hsame, more', hmore', hkept, -⟩ := hold x hx
        cases hmore.symm.trans hsame
        exact ⟨(hmem' r).mpr ⟨x, (hadds.old x hx).1, more', hmore', (hkept r hrx).1⟩, (hkept r hrx).2⟩
      · obtain ⟨x, hx', more', hmore', hrx⟩ := (hmem' r).mp hr
        rcases hadds.new x hx' with hx | ⟨hleads, hdots, hlast⟩
        · obtain ⟨more, hmore, _, hsame, -, hnew⟩ := hold x hx
          cases hmore'.symm.trans hsame
          exact (hnew r hrx).imp_left fun hrm => (hmem r).mpr ⟨x, hx, more, hmore, hrm⟩
        · refine Or.inr ?_
          -- more names are looked for from the entry only if it is a directory, and then they go down into nothing
          have hself : r = x := by
            rcases hlast with rfl | hnode
            · cases hmore'
              exact List.mem_singleton.mp hrx
            · have hnames := (goesDown_cons hdots).mp (down hnode)
              exact select_of_leads vacant hleads (fun hm => hnames (List.mem_cons_of_mem _ hm)) hmore' r hrx
          rwa [hself]

/-- A new file never makes the system refuse what it took before. -/
theorem exists_select_putFile [StandIns] {bytes : List UInt8} (tree : s.IsTree) (vacant : s.Vacant q)
    (apart : Apart s q (.file bytes) p) (hfound : select s p names = .ok found) :
    ∃ found', select (s.put q (.file bytes)) p names = .ok found' := by
  induction names generalizing p found with
  | nil => exact ⟨[p], rfl⟩
  | cons name names ih =>
    by_cases hname : name = ""
    · subst hname
      rw [select, if_pos rfl]
      exact ⟨[p], rfl⟩
    · obtain ⟨xs, hxs, hall⟩ := (exists_select_cons_iff hname).mp ⟨found, hfound⟩
      obtain ⟨fault, herror, -⟩ | ⟨xs', xs'', hxs', hxs'', hadds⟩ := nexts_put tree vacant apart name names
      · cases hxs.symm.trans herror
      cases hxs.symm.trans hxs'
      refine (exists_select_cons_iff hname).mpr ⟨xs'', hxs'', fun x hx => ?_⟩
      rcases hadds.new x hx with hold | ⟨-, -, rfl | hnode⟩
      · obtain ⟨more, hmore⟩ := hall x hold
        exact ih (hadds.old x hold).2 hmore
      · exact ⟨[x], rfl⟩
      · cases hnode

/-! ### Files in a directory -/

variable {directory : Path} {pattern : String} {files files' : List Path}

theorem find_eq_ok_iff [StandIns] (hd : s.HasDirectory directory d) : find s directory pattern = .ok files ↔
    ∃ names found, namesOf pattern = .ok names ∧ select s directory names = .ok found ∧
      files = found.mergeSort fun p q => !q.before p := by
  unfold find
  rw [isDirectory_of_place hd.1, decide_eq_true hd.2]
  cases namesOf pattern with
  | error fault => simp [bind, Except.bind]
  | ok names =>
    change (((select s directory names).mapError Fault.file).bind fun found => .ok _) = .ok files ↔ _
    cases hfound : select s directory names with
    | error fault =>
      constructor
      · intro h
        cases h
      · rintro ⟨_, _, ⟨⟩, hselect, -⟩
        cases hfound.symm.trans hselect
    | ok found =>
      constructor
      · intro h
        cases h
        exact ⟨names, found, rfl, hfound, rfl⟩
      · rintro ⟨_, _, ⟨⟩, hselect, rfl⟩
        cases hfound.symm.trans hselect
        rfl

/-- A pattern that goes up at its start only. -/
def Descends (pattern : String) : Prop := ∀ names, namesOf pattern = .ok names → GoesDown names

/-- With a new entry the files that a pattern picks out below a directory are those that it picked out, and the
entry. -/
theorem find_put [StandIns] (tree : s.IsTree) (vacant : s.Vacant q) (hd : s.HasDirectory directory d)
    (down : node = .directory → Descends pattern) (hfiles' : find (s.put q node) directory pattern = .ok files') :
    ∃ files, find s directory pattern = .ok files ∧ (∀ r ∈ files, r ∈ files' ∧ Apart s q node r) ∧
      ∀ r ∈ files', r ∈ files ∨ Leads (s.put q node) q r := by
  obtain ⟨names, found', hnames, hfound', rfl⟩ := (find_eq_ok_iff (hd.put vacant node)).mp hfiles'
  obtain ⟨found, hfound, hold, hnew⟩ :=
    select_put tree vacant (fun hnode => down hnode names hnames) (apart_of_hasDirectory vacant hd) hfound'
  refine ⟨_, (find_eq_ok_iff hd).mpr ⟨names, found, hnames, hfound, rfl⟩, ?_, ?_⟩
  · simpa only [List.mem_mergeSort] using hold
  · simpa only [List.mem_mergeSort] using hnew

theorem exists_find_putFile_iff [StandIns] {bytes : List UInt8} (tree : s.IsTree) (vacant : s.Vacant q)
    (hd : s.HasDirectory directory d) :
    (∃ files, find (s.put q (.file bytes)) directory pattern = .ok files) ↔
      ∃ files, find s directory pattern = .ok files := by
  constructor
  · rintro ⟨files', hfiles'⟩
    have down : Node.file bytes = .directory → Descends pattern := nofun
    obtain ⟨files, hfiles, -⟩ := find_put tree vacant hd down hfiles'
    exact ⟨files, hfiles⟩
  · rintro ⟨files, hfiles⟩
    obtain ⟨names, found, hnames, hfound, -⟩ := (find_eq_ok_iff hd).mp hfiles
    obtain ⟨found', hfound'⟩ := exists_select_putFile tree vacant (apart_of_hasDirectory vacant hd) hfound
    exact ⟨_, (find_eq_ok_iff (hd.put vacant _)).mpr ⟨names, found', hnames, hfound', rfl⟩⟩

end Glob

end SchemaAudit

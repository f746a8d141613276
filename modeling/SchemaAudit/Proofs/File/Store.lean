import SchemaAudit.Proofs.File.Path
import SchemaAudit.Proofs.Lookup

/-! # What an operation leaves of a store

Making directories and writing a file keep the current directory, every directory and every other file (`Kept`), so
a path that had a place keeps it, and a file that is not the one written keeps its bytes. -/

namespace SchemaAudit.FileStore

variable {s s' s'' : FileStore} {p : Path} {q r d : Place} {name other : String} {node : Node} {text : List Char}

/-! ### Nodes -/

theorem node?_root (s : FileStore) : s.node? [] = some .directory := rfl

theorem node?_put_self (h : q ≠ []) : (s.put q node).node? q = some node := by
  simp [node?, put, h]

theorem node?_put_of_ne (h : r ≠ q) : (s.put q node).node? r = s.node? r := by
  simp only [node?, put, List.lookup_cons, beq_false_of_ne h]
  rw [lookup_filter fun _ => by simpa using h]

/-- The bytes of the file at a place, if there is one. -/
def file? (s : FileStore) (q : Place) : Option (List UInt8) :=
  match s.node? q with
  | some (.file bytes) => some bytes
  | _ => none

theorem file?_eq_some_iff {bytes : List UInt8} : s.file? q = some bytes ↔ s.node? q = some (.file bytes) := by
  unfold file?
  split
  · simp_all
  · rename_i hno
    simp only [reduceCtorEq, false_iff]
    exact hno bytes

theorem file?_eq_none_of_directory (h : s.node? q = some .directory) : s.file? q = none := by
  rw [file?, h]

theorem file?_eq_none_of_none (h : s.node? q = none) : s.file? q = none := by
  rw [file?, h]

/-! ### What is kept -/

/-- What is kept by operations that write files only at the places in `P`, and make directories where there was
nothing. -/
structure Kept (P : Place → Prop) (s s' : FileStore) : Prop where
  here : s'.here = s.here
  locked : s'.locked = s.locked
  stops : s'.stops = s.stops
  directory : ∀ q, s.node? q = some .directory → s'.node? q = some .directory
  file : ∀ q, ¬ P q → s'.file? q = s.file? q

variable {P Q : Place → Prop}

theorem Kept.refl (s : FileStore) : Kept P s s := ⟨rfl, rfl, rfl, fun _ h => h, fun _ _ => rfl⟩

theorem Kept.trans (h : Kept P s s') (g : Kept P s' s'') : Kept P s s'' :=
  ⟨g.here.trans h.here, g.locked.trans h.locked, g.stops.trans h.stops, fun q hq => g.directory q (h.directory q hq),
    fun q hP => (g.file q hP).trans (h.file q hP)⟩

theorem Kept.mono (h : Kept P s s') (hPQ : ∀ q, P q → Q q) : Kept Q s s' :=
  ⟨h.here, h.locked, h.stops, h.directory, fun q hQ => h.file q (mt (hPQ q) hQ)⟩

theorem kept_put_of_ne (hd : s.node? q ≠ some .directory) (hfile : ¬ P q → (s.put q node).file? q = s.file? q) :
    Kept P s (s.put q node) := by
  refine ⟨rfl, rfl, rfl, fun r hr => ?_, fun r hP => ?_⟩
  · rw [node?_put_of_ne, hr]
    rintro rfl
    exact hd hr
  · by_cases hrq : r = q
    · subst hrq
      exact hfile hP
    · rw [file?, file?, node?_put_of_ne hrq]

theorem kept_putFile {bytes : List UInt8} (hd : s.node? q ≠ some .directory) :
    Kept (fun r => r = q) s (s.put q (.file bytes)) := kept_put_of_ne hd fun h => absurd rfl h

theorem ne_root_of_node?_ne (h : s.node? q ≠ some .directory) : q ≠ [] := by
  rintro rfl
  exact h (node?_root s)

theorem kept_putDirectory (h : s.node? q = none) : Kept (fun _ => False) s (s.put q .directory) := by
  have hd : s.node? q ≠ some .directory := by rw [h]; exact nofun
  refine kept_put_of_ne hd fun _ => ?_
  rw [file?_eq_none_of_none h, file?_eq_none_of_directory (node?_put_self (ne_root_of_node?_ne hd))]

/-! ### Ways and places -/

theorem walk_append (s : FileStore) (q : Place) (names more : List String) :
    s.walk q (names ++ more) = (s.walk q names).bind fun d => s.walk d more := by
  induction names generalizing q with
  | nil => rfl
  | cons name names ih =>
    rw [List.cons_append, walk, walk]
    cases s.node? q with
    | none => rfl
    | some node =>
      cases node with
      | file bytes => rfl
      | directory =>
        dsimp only
        split
        · rfl
        · exact ih _

theorem Kept.walk (h : Kept P s s') {names : List String} (hw : s.walk q names = .ok r) : s'.walk q names = .ok r := by
  induction names generalizing q with
  | nil => exact hw
  | cons name names ih =>
    rw [FileStore.walk] at hw ⊢
    split at hw
    · cases hw
    · cases hw
    · rename_i hdir
      rw [h.directory q hdir]
      dsimp only
      split at hw
      · cases hw
      · rw [if_neg ‹_›]
        exact ih hw

theorem mapError_eq_ok_iff {ε ε' α : Type} {f : ε → ε'} {x : Except ε α} {a : α} :
    x.mapError f = .ok a ↔ x = .ok a := by
  cases x with
  | error e => exact ⟨(nomatch ·), (nomatch ·)⟩
  | ok b =>
    constructor
    · intro h
      cases h
      rfl
    · intro h
      cases h
      rfl

theorem place_eq_ok_iff [StandIns] : s.place p = .ok q ↔ p.IsSendable ∧ p.text.utf8ByteSize ≤ pathLimit ∧
    s.walk (if p.root = "" then s.here else []) p.parts = .ok q := by
  unfold place Path.IsSendable
  split
  · simp_all
  · split
    · rename_i hnone hsize
      simp only [reduceCtorEq, false_iff]
      exact fun h => Nat.not_le_of_lt hsize h.2.1
    · rename_i hnone hsize
      rw [mapError_eq_ok_iff]
      exact ⟨fun h => ⟨hnone, Nat.le_of_not_lt hsize, h⟩, fun h => h.2.2⟩

theorem place_of_not_isSendable [StandIns] (h : ¬ p.IsSendable) : ∃ cause, s.place p = .error (.unsent cause) := by
  unfold place
  split
  · exact ⟨_, rfl⟩
  · contradiction

theorem not_isSendable_of_place [StandIns] {cause : PathFault} (h : s.place p = .error (.unsent cause)) :
    ¬ p.IsSendable := by
  intro hs
  unfold place at h
  rw [hs] at h
  dsimp only at h
  split at h
  · cases h
  · cases hw : s.walk (if p.root = "" then s.here else []) p.parts with
    | error refusal =>
      rw [hw] at h
      cases h
    | ok q =>
      rw [hw] at h
      cases h

/-- The system refuses a p by its own text. -/
theorem place_refused [StandIns]
    {refusal : SystemRefusal} {named : Path} (h : s.place p = .error (.refused refusal named)) :
    named = p := by
  unfold place at h
  split at h
  · cases h
  · split at h
    · cases h
      rfl
    · cases hw : s.walk (if p.root = "" then s.here else []) p.parts with
      | error refusal' =>
        rw [hw] at h
        cases h
        rfl
      | ok r =>
        rw [hw] at h
        cases h

theorem Kept.place [StandIns] (h : Kept P s s') (hp : s.place p = .ok q) : s'.place p = .ok q := by
  rw [place_eq_ok_iff] at hp ⊢
  rw [h.here]
  exact ⟨hp.1, hp.2.1, h.walk hp.2.2⟩

/-- A path that names a directory. -/
def HasDirectory [StandIns] (s : FileStore) (p : Path) (d : Place) :
    Prop := s.place p = .ok d ∧ s.node? d = some .directory

theorem Kept.hasDirectory [StandIns] (h : Kept P s s') (hd : s.HasDirectory p d) : s'.HasDirectory p d :=
  ⟨h.place hd.1, h.directory d hd.2⟩

/-- The text of the path above is no longer, but for the dot that the empty path is written as. -/
theorem utf8ByteSize_parent_le (p : Path) : p.parent.text.utf8ByteSize ≤ max 1 p.text.utf8ByteSize := by
  obtain ⟨root, parts⟩ := p
  rcases List.eq_nil_or_concat parts with rfl | ⟨parts, last, rfl⟩
  · exact Nat.le_max_right _ _
  · rw [List.concat_eq_append]
    unfold Path.parent Path.text
    rw [List.dropLast_concat]
    dsimp only
    split
    · exact Nat.le_max_left _ _
    · rw [if_neg (by simp)]
      refine Nat.le_trans ?_ (Nat.le_max_right _ _)
      rw [String.utf8ByteSize_append, String.utf8ByteSize_append]
      refine Nat.add_le_add_left ?_ _
      by_cases hparts : parts = []
      · subst hparts
        exact Nat.zero_le _
      · rw [String.intercalate_append_of_ne_nil hparts (List.cons_ne_nil _ _), String.utf8ByteSize_append,
          String.utf8ByteSize_append]
        omega

theorem hasDirectory_parent [StandIns] (hp : s.place p = .ok q) (hne : p.parts ≠ []) :
    ∃ d, s.HasDirectory p.parent d := by
  obtain ⟨hsend, hsize, hwalk⟩ := place_eq_ok_iff.mp hp
  rw [← List.dropLast_concat_getLast hne, walk_append] at hwalk
  cases hd : s.walk (if p.root = "" then s.here else []) p.parts.dropLast with
  | error refusal =>
    rw [hd] at hwalk
    cases hwalk
  | ok d =>
    rw [hd] at hwalk
    refine ⟨d, place_eq_ok_iff.mpr ⟨hsend.parent, ?_, hd⟩, ?_⟩
    · exact Nat.le_trans (utf8ByteSize_parent_le p) (Nat.max_le.mpr ⟨by decide, hsize⟩)
    · change s.walk d [p.parts.getLast hne] = .ok q at hwalk
      rw [walk] at hwalk
      split at hwalk
      · cases hwalk
      · cases hwalk
      · assumption

theorem place_child [StandIns] (hn : Path.IsPlain name) (h : s.place (p.child name) = .ok q) :
    ∃ d, s.HasDirectory p d ∧ q = d ++ [name] := by
  have hne : (p.child name).parts ≠ [] := by
    rw [Path.child_of_plain p hn]
    exact List.append_ne_nil_of_right_ne_nil _ (List.cons_ne_nil _ _)
  obtain ⟨d, hd⟩ := hasDirectory_parent h hne
  rw [Path.parent_child p hn] at hd
  refine ⟨d, hd, ?_⟩
  obtain ⟨-, -, hwalk⟩ := place_eq_ok_iff.mp h
  rw [Path.child_of_plain p hn, walk_append, (place_eq_ok_iff.mp hd.1).2.2] at hwalk
  change s.walk d [name] = .ok q at hwalk
  rw [walk, hd.2] at hwalk
  dsimp only at hwalk
  split at hwalk
  · cases hwalk
  · rw [if_neg hn.ne_dots] at hwalk
    cases hwalk
    rfl

/-- A plain name in a directory has the same place in every store that has the directory. -/
theorem place_child_congr [StandIns] (hn : Path.IsPlain name) (h : s.HasDirectory p d) (h' : s'.HasDirectory p d) :
    s'.place (p.child name) = s.place (p.child name) := by
  have hwalk {s : FileStore} (h : s.HasDirectory p d) :
      s.walk (if (p.child name).root = "" then s.here else []) (p.child name).parts =
        if nameLimit < name.utf8ByteSize then .error .nameTooLong else .ok (d ++ [name]) := by
    rw [Path.child_of_plain p hn, walk_append, (place_eq_ok_iff.mp h.1).2.2]
    change s.walk d [name] = _
    rw [walk, h.2]
    dsimp only
    rw [if_neg hn.ne_dots]
    rfl
  unfold place
  rw [hwalk h, hwalk h']

/-- Different names in one directory have different places. -/
theorem place_child_ne [StandIns] (hn : Path.IsPlain name) (ho : Path.IsPlain other) (hne : name ≠ other)
    (h : s.place (p.child name) = .ok q) (g : s.place (p.child other) = .ok r) : q ≠ r := by
  obtain ⟨d, hd, rfl⟩ := place_child hn h
  obtain ⟨e, he, rfl⟩ := place_child ho g
  cases hd.1.symm.trans he.1
  intro heq
  rw [List.append_cancel_left_eq, List.cons.injEq] at heq
  exact hne heq.1

end SchemaAudit.FileStore
